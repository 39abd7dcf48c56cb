import AuditTrail.Exporter
import AuditTrail.Log.Startup

/-! Errors of starting and stopping the service. -/
namespace AuditTrail

inductive StartupError where
  | load (cause : ServiceError)
  | config (cause : ServiceError)
  | log (cause : Log.Fault)
  | metrics (cause : Exporter.Fault)
  | build (cause : ServiceError)
  | job (cause : ServiceError)
  deriving DecidableEq

def StartupError.message : StartupError → String
  | .load cause => s!"failed to load config: {cause.message}"
  | .config cause => s!"config validation failed: {cause.message}"
  | .log cause => cause.message
  | .metrics cause => cause.message
  | .build cause => s!"failed to build audit log processor: {cause.message}"
  | .job cause => cause.message

end AuditTrail
