/-! Which texts are addresses of hosts in the two numbering schemes. -/
namespace AuditTrail.Uri.Address

def digitIn (base : Nat) (c : Char) : Option Nat :=
  let d := if '0' ≤ c && c ≤ '9' then some (c.toNat - 0x30)
    else if 'a' ≤ c && c ≤ 'f' then some (c.toNat - 0x57)
    else if 'A' ≤ c && c ≤ 'F' then some (c.toNat - 0x37)
    else none
  d.bind fun d => if d < base then some d else none

def valueIn (base : Nat) (digits : List Char) : Option Nat :=
  digits.foldlM (fun n c => (digitIn base c).map (n * base + ·)) 0

/-- A part of an IPv4 address: hexadecimal after 0x, octal after another leading zero. A prefix with nothing
after it is zero. -/
def part? (text : List Char) : Option Nat :=
  match text with
  | [] => none
  | '0' :: 'x' :: rest | '0' :: 'X' :: rest => valueIn 16 rest
  | '0' :: c :: rest => valueIn 8 (c :: rest)
  | text => valueIn 10 text

/-- Whether a name must be read as an IPv4 address: its last label is a number. -/
def endsInNumber (labels : List (List Char)) : Bool :=
  let last := match labels.reverse with
    | [] :: last :: _ => some last
    | [] :: [] => none
    | last :: _ => some last
    | [] => none
  match last with
  | none => false
  | some last => (!last.isEmpty && last.all Char.isDigit) || (part? last).isSome

/-- Each part but the last is a byte; the last fills the remaining bytes. -/
def isFourByte (labels : List (List Char)) : Bool :=
  let parts := match labels.reverse with
    | [] :: rest => rest.reverse
    | _ => labels
  if parts.length > 4 then false
  else match (parts.mapM part?).map List.reverse with
    | some (last :: others) =>
      last < Nat.pow 256 (4 - others.length) && others.all (· ≤ 255)
    | _ => false

def splitOn (sep : Char) (text : List Char) : List (List Char) := text.splitOn sep

def isDotted (text : List Char) : Bool :=
  let parts := splitOn '.' text
  parts.length == 4 && parts.all fun p =>
    !p.isEmpty && p.all Char.isDigit && (p.length == 1 || p.head? != some '0')
      && match valueIn 10 p with
        | some n => n ≤ 255
        | none => false

def isGroup (text : List Char) : Bool :=
  !text.isEmpty && text.length ≤ 4 && (valueIn 16 text).isSome

/-- How many of the eight groups a text stands for; a dotted address at the end stands for two. -/
def groups? (dottedEnd : Bool) : List (List Char) → Option Nat
  | [] => some 0
  | [last] =>
    if isGroup last then some 1 else if dottedEnd && isDotted last then some 2 else none
  | group :: rest => if isGroup group then (groups? dottedEnd rest).map (· + 1) else none

def count? (dottedEnd : Bool) (text : List Char) : Option Nat :=
  if text.isEmpty then some 0 else groups? dottedEnd (splitOn ':' text)

/-- The parts before and after the first double colon. -/
def splitGap (before : List Char) : List Char → Option (List Char × List Char)
  | ':' :: ':' :: rest => some (before.reverse, rest)
  | c :: rest => splitGap (c :: before) rest
  | [] => none

def isSixteenByte (text : List Char) : Bool :=
  match splitGap [] text with
  | none => count? true text == some 8
  | some (before, after) =>
    match count? false before, count? true after with
    | some m, some n => m + n ≤ 7
    | _, _ => false

end AuditTrail.Uri.Address
