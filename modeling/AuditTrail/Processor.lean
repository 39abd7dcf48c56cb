import AuditTrail.Directives
import AuditTrail.JobLoop
import AuditTrail.Lifecycle

/-! A processor owns a live log. It rotates the log, gives the records of its backups to a handler
and removes old backups, on request or as jobs. -/
namespace AuditTrail

structure Processor (σ : Type) where
  settings : Settings
  handler : Handler σ
  rotator : Rotator
  life : Lifecycle := {}
  loops : List (Job × JobLoop σ) := []

namespace Processor

variable {σ : Type}

def build (s : Settings) (handler : Handler σ) : Except Failure (Processor σ) :=
  match s.validate with
  | .error failure => .error failure
  | .ok () => .ok { settings := s, handler, rotator := { live := s.path } }

/-- Starts a job; its loop is spawned if the job is enabled. -/
def start (job : Job) (p : Processor σ) : Except Failure (Processor σ) :=
  match p.life.start p.settings job with
  | .error failure => .error failure
  | .ok life =>
    .ok { p with
          life
          loops := if p.settings.enabled job then p.loops ++ [(job, .fresh)] else p.loops }

/-- Starts both jobs, the processing job first. If the second fails, the first stays started. -/
def startAll (p : Processor σ) : Except Failure Unit × Processor σ × Journal :=
  match p.start .processing with
  | .error failure => (.error failure, p, [])
  | .ok p =>
    let notes := Lifecycle.notes p.settings .processing
    match p.start .expiration with
    | .error failure => (.error failure, p, notes)
    | .ok p => (.ok (), p, notes ++ Lifecycle.notes p.settings .expiration)

def isRunning (job : Job) (p : Processor σ) : Bool :=
  !p.life.phase.isOver && p.loops.any fun (other, loop) => other == job && !loop.isEnded

def allEnded (p : Processor σ) : Bool := p.loops.all (·.2.isEnded)

def direct (p : Processor σ) (d : Directives) : Directives := d.pointedAt p.settings.path

end Processor
end AuditTrail
