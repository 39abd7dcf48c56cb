import AuditTrail.Journal
import AuditTrail.Processor.Settings

/-! The lifecycle of a processor: idle, running once a job has started, stopping once a stop was
accepted, and stopped when every job has ended. It is never started again. -/
namespace AuditTrail

inductive Phase where
  | idle | running | stopping | stopped
  deriving DecidableEq, Repr

namespace Phase

def name : Phase → String
  | .idle => "idle"
  | .running => "running"
  | .stopping => "stopping"
  | .stopped => "stopped"

def isOver : Phase → Bool
  | .idle | .running => false
  | .stopping | .stopped => true

end Phase

structure Lifecycle where
  phase : Phase := .idle
  spawned : List Job := []
  /-- The signal on which jobs end; it is never cleared. -/
  cancelled : Bool := false
  deriving DecidableEq, Repr

namespace Lifecycle

/-- Starts a job. Starting a disabled job has no effect. -/
def start (s : Settings) (job : Job) (l : Lifecycle) : Except Failure Lifecycle :=
  if l.phase.isOver then .error .stopped
  else if !s.enabled job then .ok l
  else if job ∈ l.spawned then .error (.running job)
  else .ok { l with phase := .running, spawned := l.spawned ++ [job] }

def disabled : Job → Event
  | .processing => ⟨.info, .processor, "processing interval is zero, processing job disabled", []⟩
  | .expiration => ⟨.info, .processor,
      "expiration interval or retention is zero, backups are kept forever", []⟩

def notes (s : Settings) (job : Job) : Journal :=
  if s.enabled job then [] else [.event (disabled job)]

def stop (l : Lifecycle) : Except Failure Lifecycle :=
  if l.phase.isOver then .error .notRunning
  else .ok { l with phase := .stopping, cancelled := true }

def stopping (deadline : Duration) : Event :=
  ⟨.info, .processor, "stopping audit log processor", [("deadline", .text deadline.brief)]⟩

/-- The end of a stop: `ended` says whether every job ended before the deadline. -/
def settle (ended : Bool) (l : Lifecycle) : Lifecycle :=
  if ended then { l with phase := .stopped } else l

def verdict (deadline : Duration) (ended : Bool) : Except Failure Unit :=
  if ended then .ok () else .error (.timeout deadline)

def ending (deadline : Duration) (ended : Bool) : Event :=
  if ended then ⟨.info, .processor, "audit log processor stopped", []⟩
  else ⟨.warn, .processor, "audit log processor jobs did not finish before deadline",
    [("deadline", .text deadline.brief)]⟩

/-- A processor that is dropped cancels its jobs. -/
def abandon (l : Lifecycle) : Lifecycle := { l with cancelled := true }

end Lifecycle
end AuditTrail
