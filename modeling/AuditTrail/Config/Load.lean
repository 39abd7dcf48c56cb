import AuditTrail.Config.Environment
import AuditTrail.Config.Wire

/-! A configuration as the service loads it: read from a file, amended by the environment, and
validated. -/
namespace AuditTrail.Config

/-- The configuration in a file, given the result of reading it. -/
def ofFile (path : Path) : Except IoError Bytes → Except ServiceError Config
  | .error cause =>
    if cause.kind = .notFound then .error (.config (.fileNotFound path.display))
    else .error (.io cause)
  | .ok content => match Utf8.decode? content with
    | none => .error (.io (.ofKind .invalidData))
    | some text => parse text

def load (env : Environment) (path : Path) (content : Except IoError Bytes) :
    Except ServiceError Config × Journal :=
  match ofFile path content with
  | .error e => (.error e, [])
  | .ok c =>
    let (c, notes) := c.applyEnvironment env
    (c.validate.map fun _ => c, notes)

end AuditTrail.Config
