import AuditTrail.Record.Labels

/-! Events and metric updates in the order in which the library emits them. -/
namespace AuditTrail

inductive Level where
  | trace | debug | info | warn | error
  deriving DecidableEq, Repr

namespace Level

def rank : Level → Nat
  | .trace => 0
  | .debug => 1
  | .info => 2
  | .warn => 3
  | .error => 4

/-- The most talkative first. -/
instance : LE Level := ⟨fun a b => a.rank ≤ b.rank⟩

instance (a b : Level) : Decidable (a ≤ b) := inferInstanceAs (Decidable (a.rank ≤ b.rank))

def name : Level → String
  | .trace => "trace"
  | .debug => "debug"
  | .info => "info"
  | .warn => "warn"
  | .error => "error"

end Level

inductive Origin where
  | config | rotator | parser | handler | expirer | processor
  | daemon | orchestrator | metricsServer | logging
  deriving DecidableEq, Repr

/-- The name by which a log filter selects an origin. -/
def Origin.target : Origin → String
  | .config => "wafaudit_core::config"
  | .rotator => "wafaudit_log_processor::rotator"
  | .parser => "wafaudit_log_processor::parser"
  | .handler => "wafaudit_log_processor::handler"
  | .expirer => "wafaudit_log_processor::expirer"
  | .processor => "wafaudit_log_processor::processor"
  | .daemon => "wafaudit_daemon"
  | .orchestrator => "wafaudit_daemon::orchestrator"
  | .metricsServer => "wafaudit_daemon::metrics_server"
  | .logging => "wafaudit_daemon::logging"

inductive Value where
  | text (s : String)
  | number (n : Nat)
  deriving DecidableEq, Repr

structure Event where
  level : Level
  origin : Origin
  message : String
  fields : List (String × Value) := []
  deriving DecidableEq, Repr

inductive Counter where
  /-- Transactions that broke a rule, by the status of their response. -/
  | transactions (labels : Labels) (status : String)
  | ruleViolations (labels : Labels) (rule : String)
  | rotations (succeeded : Bool)
  | recordsProcessed
  | linesFailed
  | backupsExpired
  deriving DecidableEq, Repr

inductive Note where
  | event (e : Event)
  | count (c : Counter)
  | backupTimed
  deriving DecidableEq, Repr

abbrev Journal := List Note

namespace Journal

def events (j : Journal) : List Event :=
  j.filterMap fun
    | .event e => some e
    | _ => none

def warnings (j : Journal) : List Event := j.events.filter (Level.warn ≤ ·.level)

def counters (j : Journal) : List Counter :=
  j.filterMap fun
    | .count c => some c
    | _ => none

/-- Every counter that was raised, with how often. -/
def totals (j : Journal) : List (Counter × Nat) :=
  j.counters.eraseDups.map fun c => (c, j.counters.count c)

def samples (j : Journal) : Nat := j.count .backupTimed

end Journal
end AuditTrail
