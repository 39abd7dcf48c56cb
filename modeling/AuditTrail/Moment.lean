import AuditTrail.Duration

/-! Moments of the clock, in nanoseconds since the epoch; earlier ones are negative. -/
namespace AuditTrail

structure Moment where
  nanos : Int
  deriving DecidableEq, Repr

namespace Moment

/-- Whole seconds since the epoch, zero for moments before it. -/
def seconds (m : Moment) : Nat := (m.nanos / 1000000000).toNat

def ofSeconds (secs : Int) (nanos : Nat) : Moment := ⟨secs * 1000000000 + nanos⟩

end Moment
end AuditTrail
