import AuditTrail.Failure

/-! Errors as the service reports them. -/
namespace AuditTrail

inductive ConfigError where
  | fileNotFound (path : String)
  | unreadable (reason : String)
  | invalid (field reason : String)
  | missing (field : String)
  deriving DecidableEq, Repr

def ConfigError.message : ConfigError → String
  | .fileNotFound path => s!"config file not found: {path}"
  | .unreadable reason => s!"failed to parse config: {reason}"
  | .invalid field reason => s!"invalid config value for '{field}': {reason}"
  | .missing field => s!"missing required config field '{field}'"

inductive LifecycleError where
  | alreadyRunning (job : Job)
  | notRunning
  | shutdownTimeout (deadline : Duration)
  | failed (reason : String)
  deriving DecidableEq

def LifecycleError.message : LifecycleError → String
  | .alreadyRunning job => s!"job already running: {job.name}"
  | .notRunning => "processor not running"
  | .shutdownTimeout deadline => s!"shutdown not confirmed within {deadline.brief}"
  | .failed reason => s!"processor init failed: {reason}"

inductive ServiceError where
  | config (cause : ConfigError)
  | lifecycle (cause : LifecycleError)
  | io (cause : IoError)
  deriving DecidableEq

def ServiceError.message : ServiceError → String
  | .config cause => s!"config error: {cause.message}"
  | .lifecycle cause => s!"processor error: {cause.message}"
  | .io cause => s!"io error: {cause.text}"

def Failure.toService : Failure → ServiceError
  | .setting field reason => .config (.invalid field reason)
  | .timeout deadline => .lifecycle (.shutdownTimeout deadline)
  | .running job => .lifecycle (.alreadyRunning job)
  | .notRunning => .lifecycle .notRunning
  | .io _ cause => .io cause
  | failure => .lifecycle (.failed failure.message)

end AuditTrail
