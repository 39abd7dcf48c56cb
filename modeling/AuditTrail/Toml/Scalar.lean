import AuditTrail.Toml.Basic

/-! Numbers, truth values and times as they are written in TOML documents. -/
namespace AuditTrail.Toml

def isDigit (c : Char) : Bool := '0' ≤ c && c ≤ '9'

/-- The digits of a number in a base; single underscores may separate them. -/
def digits? (isDigit : Char → Bool) (chars : List Char) : Option (List Char) :=
  let groups := chars.splitOn '_'
  if groups.all fun g => !g.isEmpty && g.all isDigit then some groups.flatten else none

def digitValue (c : Char) : Nat :=
  if c ≤ '9' then c.toNat - 48 else if c ≤ 'F' then c.toNat - 55 else c.toNat - 87

def valueIn (base : Nat) (digits : List Char) : Nat :=
  digits.foldl (fun n c => n * base + digitValue c) 0

def isHexDigit (c : Char) : Bool :=
  isDigit c || ('a' ≤ c && c ≤ 'f') || ('A' ≤ c && c ≤ 'F')

/-- Decimal digits without leading zeros. -/
def wholeDigits? (chars : List Char) : Option (List Char) :=
  (digits? isDigit chars).bind fun ds =>
    if 1 < ds.length ∧ ds.head? = some '0' then none else some ds

/-- Integers beyond a hundred and twenty-eight bits are refused. -/
def bounded? (n : Int) : Option Toml :=
  if -(1 <<< 127 : Nat) ≤ n ∧ n < (1 <<< 128 : Nat) then some (.integer n) else none

def withoutSign : List Char → List Char
  | '+' :: rest => rest
  | '-' :: rest => rest
  | chars => chars

def integer? (chars : List Char) : Option Toml :=
  match chars with
  | '0' :: 'x' :: rest => (digits? isHexDigit rest).bind fun ds => bounded? (valueIn 16 ds)
  | '0' :: 'o' :: rest =>
    (digits? (fun c => '0' ≤ c && c ≤ '7') rest).bind fun ds => bounded? (valueIn 8 ds)
  | '0' :: 'b' :: rest =>
    (digits? (fun c => c == '0' || c == '1') rest).bind fun ds => bounded? (valueIn 2 ds)
  | '-' :: rest => (wholeDigits? rest).bind fun ds => bounded? (-(valueIn 10 ds))
  | chars => (wholeDigits? (withoutSign chars)).bind fun ds => bounded? (valueIn 10 ds)

/-- The least number that is too large for a double: half a step above the largest one. -/
def doubleLimit : Nat := (1 <<< 1024) - (1 <<< 970)

def isFinite (digits : List Char) (power : Int) : Bool :=
  let digits := digits.dropWhile (· == '0')
  let size := digits.length + power
  if digits.isEmpty || size < 300 then true
  else if 310 < size then false
  else if 0 ≤ power then valueIn 10 digits * Nat.pow 10 power.toNat < doubleLimit
  else valueIn 10 digits < doubleLimit * Nat.pow 10 (-power).toNat

def exponent? : List Char → Option Int
  | '-' :: rest => (digits? isDigit rest).map fun ds => -(valueIn 10 ds)
  | '+' :: rest => (digits? isDigit rest).map fun ds => valueIn 10 ds
  | rest => (digits? isDigit rest).map fun ds => valueIn 10 ds

/-- The digits of a number before its exponent, and how many of them follow the point. -/
def mantissa? (chars : List Char) : Option (List Char × Option Nat) :=
  let whole := chars.takeWhile (· ≠ '.')
  match chars.dropWhile (· ≠ '.') with
  | [] => (wholeDigits? whole).map (·, none)
  | _ :: fraction => do
    let whole ← wholeDigits? whole
    let fraction ← digits? isDigit fraction
    some (whole ++ fraction, some fraction.length)

def float? (chars : List Char) : Option Toml :=
  let chars := withoutSign chars
  if chars = ['i', 'n', 'f'] ∨ chars = ['n', 'a', 'n'] then some .float
  else
    let isMark (c : Char) := c == 'e' || c == 'E'
    match mantissa? (chars.takeWhile (!isMark ·)), chars.dropWhile (!isMark ·) with
    | some (digits, some places), [] => if isFinite digits (-places) then some .float else none
    | some (digits, places), _ :: power =>
      (exponent? power).bind fun power =>
        if isFinite digits (power - places.getD 0) then some .float else none
    | _, _ => none

def twoDigits? (a b : Char) : Option Nat :=
  if isDigit a ∧ isDigit b then some (digitValue a * 10 + digitValue b) else none

def isLeapYear (y : Nat) : Bool := y % 4 == 0 && (y % 100 != 0 || y % 400 == 0)

def daysIn (year month : Nat) : Nat :=
  if month = 2 then if isLeapYear year then 29 else 28
  else if month = 4 ∨ month = 6 ∨ month = 9 ∨ month = 11 then 30 else 31

def afterDate? : List Char → Option (List Char)
  | y :: y' :: y'' :: y''' :: '-' :: m :: m' :: '-' :: d :: d' :: rest => do
    let century ← twoDigits? y y'
    let year ← twoDigits? y'' y'''
    let month ← twoDigits? m m'
    let day ← twoDigits? d d'
    if 1 ≤ month ∧ month ≤ 12 ∧ 1 ≤ day ∧ day ≤ daysIn (century * 100 + year) month then some rest
    else none
  | _ => none

/-- Drops a fraction of a second. -/
def afterSeconds? : List Char → Option (List Char)
  | '.' :: rest => if (rest.takeWhile isDigit).isEmpty then none else some (rest.dropWhile isDigit)
  | rest => some rest

/-- What follows a time of day; its seconds may be omitted. -/
def afterTime? : List Char → Option (List Char)
  | h :: h' :: ':' :: m :: m' :: rest => do
    let hour ← twoDigits? h h'
    let minute ← twoDigits? m m'
    if hour > 23 ∨ minute > 59 then none
    else match rest with
      | ':' :: s :: s' :: rest => do
        let second ← twoDigits? s s'
        if second > 60 then none else afterSeconds? rest
      | rest => some rest
  | _ => none

def isOffset : List Char → Bool
  | [] | ['Z'] | ['z'] => true
  | [sign, h, h', ':', m, m'] =>
    (sign == '+' || sign == '-') &&
      match twoDigits? h h', twoDigits? m m' with
      | some hour, some minute => hour ≤ 23 && minute ≤ 59
      | _, _ => false
  | _ => false

def isTime (chars : List Char) : Bool :=
  match afterDate? chars with
  | some [] => true
  | some (mark :: rest) =>
    (mark == 'T' || mark == 't' || mark == ' ') && ((afterTime? rest).map isOffset).getD false
  | none => afterTime? chars == some []

def time? (chars : List Char) : Option Toml := if isTime chars then some .time else none

def isScalarChar (c : Char) : Bool :=
  isDigit c || ('a' ≤ c && c ≤ 'z') || ('A' ≤ c && c ≤ 'Z') || c == '+' || c == '-' || c == '_'
    || c == '.' || c == ':'

def scalarOf? (chars : List Char) : Option Toml :=
  if chars = ['t', 'r', 'u', 'e'] then some (.boolean true)
  else if chars = ['f', 'a', 'l', 's', 'e'] then some (.boolean false)
  else (integer? chars).or ((float? chars).or (time? chars))

/-- A value other than a string, array or inline table. A blank may stand between a date and a time. -/
def scalar? (chars : List Char) : Option (Toml × List Char) :=
  let first := chars.takeWhile isScalarChar
  let rest := chars.dropWhile isScalarChar
  match afterDate? first, rest with
  | some [], ' ' :: c :: rest =>
    if isDigit c then
      let second := (c :: rest).takeWhile isScalarChar
      (time? (first ++ ' ' :: second)).map (·, (c :: rest).dropWhile isScalarChar)
    else (time? first).map (·, ' ' :: c :: rest)
  | _, rest => (scalarOf? first).map (·, rest)

end AuditTrail.Toml
