import AuditTrail.Duration
import AuditTrail.Unicode.Blank

/-! Durations as they are written in configuration: numbers with units, such as 1h 30m or 1.5s.
`Duration.format` uses the largest units, and `Duration.parse?` reads any such text. A number may
have a fraction if it makes a whole number of the smallest part of the unit. -/
namespace AuditTrail.Duration
open Unicode (isBlank)

inductive Unit where
  | nanosecond | microsecond | millisecond | second | minute | hour | day | week | month | year
  deriving DecidableEq, Repr

namespace Unit

def ofName? : String → Option Unit
  | "nanos" | "nsec" | "ns" => some .nanosecond
  | "usec" | "us" | "µs" => some .microsecond
  | "millis" | "msec" | "ms" => some .millisecond
  | "seconds" | "second" | "secs" | "sec" | "s" => some .second
  | "minutes" | "minute" | "min" | "mins" | "m" => some .minute
  | "hours" | "hour" | "hrs" | "hr" | "h" => some .hour
  | "days" | "day" | "d" => some .day
  | "weeks" | "week" | "wks" | "wk" | "w" => some .week
  | "months" | "month" | "M" => some .month
  | "years" | "year" | "yrs" | "yr" | "y" => some .year
  | _ => none

/-- A fraction of a long unit must come to whole seconds. -/
def isLong : Unit → Bool
  | .nanosecond | .microsecond | .millisecond | .second | .minute => false
  | .hour | .day | .week | .month | .year => true

/-- A month is 30.44 days and a year 365.25 days. -/
def nanos : Unit → Nat
  | .nanosecond => 1
  | .microsecond => 1000
  | .millisecond => 1000000
  | .second => 1000000000
  | .minute => 60 * 1000000000
  | .hour => 3600 * 1000000000
  | .day => 86400 * 1000000000
  | .week => 604800 * 1000000000
  | .month => 2630016 * 1000000000
  | .year => 31557600 * 1000000000

def seconds (u : Unit) : Nat := u.nanos / 1000000000

end Unit

/-- Numbers up to this bound fit the counters. -/
def word : Nat := UInt64.size

def fits (n : Nat) : Option Nat := if n < word then some n else none

structure Clock where
  secs : Nat
  nanos : Nat
  deriving DecidableEq, Repr

def Clock.add? (c : Clock) (secs nanos : Nat) : Option Clock := do
  let nanos ← fits (c.nanos + nanos)
  let secs ← fits (c.secs + secs + nanos / 1000000000)
  some ⟨secs, nanos % 1000000000⟩

/-- The digits after a point, as a value and a power of ten. -/
structure Fraction where
  numerator : Nat
  denominator : Nat
  deriving DecidableEq, Repr

def wholeQuotient? (n d : Nat) : Option Nat := if n % d = 0 then some (n / d) else none

/-- A whole number of units as seconds and nanoseconds. -/
def wholePart (u : Unit) (n : Nat) : Option (Nat × Nat) :=
  match u with
  | .nanosecond | .microsecond | .millisecond => (fits (n * u.nanos)).map fun ns => (0, ns)
  | _ => (fits (n * u.seconds)).map fun s => (s, 0)

def fractionPart (u : Unit) (f : Fraction) : Option (Nat × Nat) :=
  match u with
  | .nanosecond => none
  | _ =>
    if u.isLong then do
      let n ← fits (f.numerator * u.seconds)
      (wholeQuotient? n f.denominator).map fun s => (s, 0)
    else do
      let n ← fits (f.numerator * u.nanos)
      (wholeQuotient? n f.denominator).map fun ns => (0, ns)

def Clock.addItem? (c : Clock) (n : Nat) (f : Option Fraction) (unit : List Char) :
    Option Clock := do
  let u ← Unit.ofName? (.ofList unit)
  let (s, ns) ← wholePart u n
  let c ← c.add? s ns
  match f with
  | none => some c
  | some f => do
    let (s, ns) ← fractionPart u f
    c.add? s ns

def isUnitChar (c : Char) : Bool :=
  ('a' ≤ c && c ≤ 'z') || ('A' ≤ c && c ≤ 'Z') || c == 'µ'

def digit (c : Char) : Nat := c.toNat - '0'.toNat

inductive Phase where
  /-- Before a number. -/
  | gap
  | whole (n : Nat)
  | fraction (n : Nat) (f : Fraction)
  /-- In the name of a unit, which is kept latest letter first. -/
  | unit (n : Nat) (f : Option Fraction) (name : List Char)
  deriving DecidableEq, Repr

/-- `sum` is none until the first number was read. -/
structure Reader where
  sum : Option Clock
  phase : Phase
  deriving DecidableEq, Repr

namespace Reader

def start : Reader := ⟨none, .gap⟩

def total (r : Reader) : Clock := r.sum.getD ⟨0, 0⟩

def feed (r : Reader) (c : Char) : Option Reader :=
  match r.phase with
  | .gap =>
    if c.isDigit then some ⟨some r.total, .whole (digit c)⟩
    else if isBlank c then some r else none
  | .whole n =>
    if c.isDigit then (fits (n * 10 + digit c)).map fun n => ⟨r.sum, .whole n⟩
    else if isBlank c then some r
    else if isUnitChar c then some ⟨r.sum, .unit n none [c]⟩
    else if c = '.' then some ⟨r.sum, .fraction n ⟨0, 1⟩⟩
    else none
  | .fraction n f =>
    if c.isDigit then do
      let denominator ← fits (f.denominator * 10)
      let numerator ← fits (f.numerator * 10 + digit c)
      some ⟨r.sum, .fraction n ⟨numerator, denominator⟩⟩
    else if isBlank c then some r
    else if isUnitChar c && f.denominator != 1 then some ⟨r.sum, .unit n (some f) [c]⟩
    else none
  | .unit n f name =>
    if c.isDigit then
      (r.total.addItem? n f name.reverse).map fun sum => ⟨some sum, .whole (digit c)⟩
    else if isBlank c then
      (r.total.addItem? n f name.reverse).map fun sum => ⟨some sum, .gap⟩
    else if isUnitChar c then some ⟨r.sum, .unit n f (c :: name)⟩
    else none

def finish (r : Reader) : Option Clock :=
  match r.phase with
  | .gap => r.sum
  | .unit n f name => r.total.addItem? n f name.reverse
  | .whole _ | .fraction _ _ => none

end Reader

def ofClock? (c : Clock) : Option Duration := ofNanos? (c.secs * 1000000000 + c.nanos)

/-- Reads a duration, trimmed; zero needs no unit. -/
def parse? (text : String) : Option Duration :=
  let chars := Unicode.trimChars text.toList
  if chars = ['0'] then some zero
  else (chars.foldlM Reader.feed Reader.start).bind fun r => r.finish.bind ofClock?

def item (n : Nat) (unit : String) : List String :=
  if n = 0 then [] else [toString n ++ unit]

def longItem (n : Nat) (unit : String) : List String :=
  if n = 0 then [] else [toString n ++ unit ++ if n > 1 then "s" else ""]

def format (d : Duration) : String :=
  let days := d.secs % 31557600 % 2630016
  let day := days % 86400
  let items := longItem (d.secs / 31557600) "year"
    ++ longItem (d.secs % 31557600 / 2630016) "month"
    ++ longItem (days / 86400) "day"
    ++ item (day / 3600) "h"
    ++ item (day % 3600 / 60) "m"
    ++ item (day % 60) "s"
    ++ item (d.subsec / 1000000) "ms"
    ++ item (d.subsec / 1000 % 1000) "us"
    ++ item (d.subsec % 1000) "ns"
  if items.isEmpty then "0s" else String.intercalate " " items

end AuditTrail.Duration
