import AuditTrail.Service
import AuditTrail.Simulation.Visit

/-! The whole service in a simulation. -/
namespace AuditTrail.Simulation

/-- Adds a service; its processor counts violations and has a lock of its own. -/
def enlist (service : Service Heard) (s : Simulation) : Nat × Simulation :=
  let (lock, s) := s.newLock
  s.enrol ⟨service.processor, .violations, lock⟩

def build (refused : Option String) (c : Config) (s : Simulation) :
    Except StartupError (Nat × Service Heard) × Simulation :=
  match Service.build refused Audience.violations.handler c with
  | (.error e, notes) => (.error e, s.note notes)
  | (.ok service, notes) =>
    let (m, s) := (s.note notes).enlist service
    (.ok (m, service), s)

def startAll (m : Nat) (s : Simulation) : Option (Except StartupError Unit) × Simulation :=
  match s.members[m]? with
  | none => (none, s)
  | some member =>
    let (outcome, p, notes) := Service.start member.processor
    (some outcome, (s.setProcessor m p).note notes)

def shutdown (m : Nat) (deadline : Duration) (s : Simulation) :
    Option (Except StartupError Unit) × Simulation :=
  let (outcome, s) := (s.note [Service.stopping deadline]).stop m deadline none
  (outcome.map fun e => e.mapError fun failure => .job failure.toService, s)

/-- Runs a service until a signal comes, at the first moment at which `ready` holds. -/
def run (path : String) (config : Config) (log : Log.Setup) (refused : Option String)
    (signal : String) (ready : Simulation → Bool) (patience : Duration) (s : Simulation) :
    Except StartupError Unit × Simulation :=
  let s := s.note [.event log.initialized, Service.starting path]
  match s.build refused config with
  | (.error e, s) => (.error e, s)
  | (.ok (m, _), s) => match s.startAll m with
    | (none, s) => (.ok (), s)
    | (some (.error e), s) => (.error e, s)
    | (some (.ok ()), s) =>
      let s := s.note [Service.entering]
      let s := s.passUntil ready (s.elapsed + patience.nanos)
      let s := s.note [Service.signalled signal]
      let s := if config.metrics.enabled then
        s.note [.event ⟨.debug, .orchestrator, "uptime updater shutting down", []⟩] else s
      match s.shutdown m config.general.shutdownTimeout with
      | (some (.error e), s) => (.error e, s)
      | (_, s) => (.ok (), s.note [Service.ended])

end AuditTrail.Simulation
