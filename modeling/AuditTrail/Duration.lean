/-! Durations in whole nanoseconds, up to the largest with sixty-four bits of seconds. `brief` is
the form used in messages: one unit, with a fraction. -/
namespace AuditTrail

structure Duration where
  nanos : Nat
  bounded : nanos < 18446744073709551616000000000

namespace Duration

instance : DecidableEq Duration := fun a b =>
  decidable_of_iff (a.nanos = b.nanos) (by cases a; cases b; simp)

theorem ext {a b : Duration} (h : a.nanos = b.nanos) : a = b := by
  cases a; cases b; simp_all

def limit : Nat := 18446744073709551616000000000

def ofNanos? (nanos : Nat) : Option Duration :=
  if h : nanos < 18446744073709551616000000000 then some ⟨nanos, h⟩ else none

def zero : Duration := ⟨0, by decide⟩

instance : Inhabited Duration := ⟨zero⟩

/-- Saturates at the largest duration. -/
def ofNanos (nanos : Nat) : Duration := ⟨min nanos (18446744073709551616000000000 - 1), by omega⟩

def ofSecs (secs : Nat) : Duration := ofNanos (secs * 1000000000)

def ofMillis (millis : Nat) : Duration := ofNanos (millis * 1000000)

def secs (d : Duration) : Nat := d.nanos / 1000000000

def subsec (d : Duration) : Nat := d.nanos % 1000000000

def isZero (d : Duration) : Bool := d.nanos == 0

instance : LT Duration := ⟨fun a b => a.nanos < b.nanos⟩

instance : LE Duration := ⟨fun a b => a.nanos ≤ b.nanos⟩

instance (a b : Duration) : Decidable (a < b) := inferInstanceAs (Decidable (a.nanos < b.nanos))

instance (a b : Duration) : Decidable (a ≤ b) := inferInstanceAs (Decidable (a.nanos ≤ b.nanos))

/-- The digits of a fraction of `places` decimal places, without trailing zeros. -/
def fraction (places value : Nat) : String :=
  let digits := Nat.toDigits 10 value
  let padded := List.replicate (places - digits.length) '0' ++ digits
  let kept := (padded.reverse.dropWhile (· = '0')).reverse
  if kept.isEmpty then "" else "." ++ .ofList kept

def brief (d : Duration) : String :=
  let sub := d.subsec
  if d.secs > 0 then toString d.secs ++ fraction 9 sub ++ "s"
  else if sub ≥ 1000000 then toString (sub / 1000000) ++ fraction 6 (sub % 1000000) ++ "ms"
  else if sub ≥ 1000 then toString (sub / 1000) ++ fraction 3 (sub % 1000) ++ "µs"
  else toString sub ++ "ns"

end Duration
end AuditTrail
