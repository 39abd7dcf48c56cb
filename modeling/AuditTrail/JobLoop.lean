import AuditTrail.Tick

/-! The loop of a job. It sleeps until its next tick is due, makes the tick and sleeps again. When it is
woken it polls the signal to end and then its timer. These are two steps, and the signal may be raised
between them. A tick that has begun is always finished. -/
namespace AuditTrail

/-- Times are nanoseconds on a monotonic clock. -/
inductive JobLoop (σ : Type) where
  | fresh
  | sleeping (due : Nat)
  /-- The signal was polled and not raised; the timer is polled next. -/
  | unsignalled (due : Nat)
  | ticking (tick : Tick σ) (due : Nat)
  | ended

namespace Tick

def closing? : Tick σ → Option Journal
  | .processing (.done outcome) => some (report outcome)
  | .swept outcome => some (reportSweep outcome)
  | _ => none

end Tick

namespace JobLoop

variable {σ : Type}

/-- The next tick after one that was due and begins now: one period later, or at the first multiple of the
period that was not missed. -/
def nextDue (period due now : Nat) : Nat :=
  if now < due + period then due + period else due + ((now - due) / period + 1) * period

def started (job : Job) (period : Duration) : Event :=
  ⟨.info, .processor, "job started", [("job", .text job.name), ("period", .text period.brief)]⟩

def stopped (job : Job) : Event := ⟨.info, .processor, "job stopped", [("job", .text job.name)]⟩

/-- The next step of a loop; `none` if it is within a tick or has ended. The first period begins with the
first step. -/
def poll (job : Job) (period : Duration) (cancelled : Bool) (now : Nat) :
    JobLoop σ → Option (JobLoop σ × Journal)
  | .fresh => some (.sleeping (now + period.nanos), [.event (started job period)])
  | .sleeping due =>
    if cancelled then some (.ended, [.event (stopped job)]) else some (.unsignalled due, [])
  | .unsignalled due =>
    if due ≤ now then some (.ticking (Tick.start job) (nextDue period.nanos due now), [])
    else some (.sleeping due, [])
  | .ticking tick due => tick.closing?.map fun notes => (.sleeping due, notes)
  | .ended => none

/-- The step of a loop if nothing happens between its polls; `none` if it only goes back to sleep. -/
def wake (job : Job) (period : Duration) (cancelled : Bool) (now : Nat) (loop : JobLoop σ) :
    Option (JobLoop σ × Journal) :=
  match loop.poll job period cancelled now with
  | some (.unsignalled due, _) =>
    match (unsignalled due).poll job period cancelled now with
    | some (.sleeping _, _) => none
    | polled => polled
  | polled => polled

def isEnded : JobLoop σ → Bool
  | .ended => true
  | _ => false

def due? : JobLoop σ → Option Nat
  | .sleeping due => some due
  | _ => none

end JobLoop
end AuditTrail
