import AuditTrail.Uri.Address

/-! Addresses for the metrics listener, as text and as values. -/
namespace AuditTrail
open Uri.Address (splitOn isDotted isGroup valueIn splitGap)

/-- Four bytes, or eight groups of sixteen bits. -/
inductive Ip where
  | four (bytes : List Nat)
  | six (groups : List Nat)
  deriving DecidableEq, Repr

namespace Ip

def four? (text : List Char) : Option (List Nat) :=
  if isDotted text then (splitOn '.' text).mapM (valueIn 10) else none

def paired : List Nat → List Nat
  | a :: b :: rest => (a * 256 + b) :: paired rest
  | rest => rest

/-- Groups between colons; a dotted address at the end stands for two. -/
def groups? (dottedEnd : Bool) : List (List Char) → Option (List Nat)
  | [] => some []
  | [last] =>
    if isGroup last then (valueIn 16 last).map ([·])
    else if dottedEnd then (four? last).map paired else none
  | group :: rest =>
    if isGroup group then do
      let n ← valueIn 16 group
      return n :: (← groups? dottedEnd rest)
    else none

def side? (dottedEnd : Bool) (text : List Char) : Option (List Nat) :=
  if text.isEmpty then some [] else groups? dottedEnd (splitOn ':' text)

/-- Eight groups, or fewer with one gap that stands for zeros. -/
def six? (text : List Char) : Option (List Nat) :=
  match splitGap [] text with
  | none => (side? true text).filter (·.length = 8)
  | some (before, after) => do
    let before ← side? false before
    let after ← side? true after
    if before.length + after.length ≤ 7 then
      some (before ++ List.replicate (8 - before.length - after.length) 0 ++ after)
    else none

def parse? (text : String) : Option Ip :=
  ((four? text.toList).map .four).or ((six? text.toList).map .six)

def isUnspecified : Ip → Bool
  | .four bytes => bytes.all (· == 0)
  | .six groups => groups.all (· == 0)

def hex (n : Nat) : String := .ofList (Nat.toDigits 16 n)

def dotted (bytes : List Nat) : String := String.intercalate "." (bytes.map toString)

def colons (groups : List Nat) : String := String.intercalate ":" (groups.map hex)

def zeros (groups : List Nat) : Nat := (groups.takeWhile (· == 0)).length

/-- The start and length of the longest run of zeros; of several the first. -/
def longestZeros : List Nat → Nat × Nat
  | [] => (0, 0)
  | g :: rest =>
    let (place, length) := longestZeros rest
    if length ≤ zeros (g :: rest) then (0, zeros (g :: rest)) else (place + 1, length)

def sixText (groups : List Nat) : String :=
  match groups with
  | [0, 0, 0, 0, 0, 0xFFFF, a, b] => "::ffff:" ++ dotted [a / 256, a % 256, b / 256, b % 256]
  | groups =>
    let (place, length) := longestZeros groups
    if length > 1 then colons (groups.take place) ++ "::" ++ colons (groups.drop (place + length))
    else colons groups

end Ip

structure ListenAddress where
  ip : Ip
  port : UInt16
  deriving DecidableEq, Repr

def ListenAddress.text (a : ListenAddress) : String :=
  match a.ip with
  | .four bytes => s!"{Ip.dotted bytes}:{a.port.toNat}"
  | .six groups => s!"[{Ip.sixText groups}]:{a.port.toNat}"

end AuditTrail
