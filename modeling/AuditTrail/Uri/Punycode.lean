/-! The ASCII form of labels with other characters. `decode?` reads the part after the xn-- mark:
the ASCII characters before the last hyphen are literal, and each number after it says which
character to insert where. -/
namespace AuditTrail.Uri.Punycode

def digit? (c : Char) : Option Nat :=
  if 'a' ≤ c && c ≤ 'z' then some (c.toNat - 0x61)
  else if 'A' ≤ c && c ≤ 'Z' then some (c.toNat - 0x41)
  else if '0' ≤ c && c ≤ '9' then some (c.toNat - 0x30 + 26)
  else none

/-- Digits below this bound end a number. -/
def threshold (place bias : Nat) : Nat := min 26 (max 1 (place - bias))

/-- `fuel` bounds the divisions; `delta` itself is enough. -/
def spread : Nat → Nat → Nat → Nat
  | 0, _, delta => 36 * delta / (delta + 38)
  | fuel + 1, k, delta =>
    if delta > 455 then spread fuel (k + 36) (delta / 35) else k + 36 * delta / (delta + 38)

def adapt (delta count : Nat) (first : Bool) : Nat :=
  let delta := if first then delta / 700 else delta / 2
  let delta := delta + delta / count
  spread delta 0 delta

/-- The characters decoded so far, and the value, the weight of the next digit and its place in the current
number. -/
structure Decoder where
  chars : List Char
  code : Nat
  index : Nat
  bias : Nat
  start : Nat
  weight : Nat
  place : Nat

def insertAt (c : Char) : Nat → List Char → List Char
  | 0, chars => c :: chars
  | _ + 1, [] => [c]
  | n + 1, d :: chars => d :: insertAt c n chars

def Decoder.feed (s : Decoder) (c : Char) : Option Decoder := do
  let d ← digit? c
  let index := s.index + d * s.weight
  let t := threshold s.place s.bias
  if d < t then
    let count := s.chars.length + 1
    let code := s.code + index / count
    if 0x10FFFF < code ∨ (0xD800 ≤ code ∧ code < 0xE000) then none
    else
      let place := index % count
      some ⟨insertAt (Char.ofNat code) place s.chars, code, place + 1,
        adapt (index - s.start) count (s.start == 0), place + 1, 1, 36⟩
  else some { s with index, weight := s.weight * (36 - t), place := s.place + 36 }

def decodeNumbers (base : List Char) (rest : List Char) : Option (List Char) := do
  let s ← rest.foldlM Decoder.feed ⟨base, 0x80, 0, 72, 0, 1, 36⟩
  if s.place = 36 then some s.chars else none

def decode? (label : List Char) : Option (List Char) :=
  if label.contains '-' then
    let base := (label.reverse.dropWhile (· ≠ '-')).drop 1 |>.reverse
    let rest := (label.reverse.takeWhile (· ≠ '-')).reverse
    if base.isEmpty then none else decodeNumbers base rest
  else decodeNumbers [] label

end AuditTrail.Uri.Punycode
