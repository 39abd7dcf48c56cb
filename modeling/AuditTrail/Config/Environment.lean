import AuditTrail.Config.Basic
import AuditTrail.Duration.Text
import AuditTrail.Journal

/-! Environment variables that override fields of the configuration. A value that is not text is
ignored, and one that cannot be read is noted and ignored. -/
namespace AuditTrail

abbrev Environment := List (String × Bytes)

namespace Environment

def text? (env : Environment) (key : String) : Option String :=
  (env.lookup key).bind Utf8.decode?

end Environment

namespace Config

/-- A variable, the type of its values, and the field that it sets. -/
structure Override where
  key : String
  kind : String
  put : String → Config → Option Config

def isDigit (c : Char) : Bool := '0' ≤ c && c ≤ '9'

def withoutPlus : List Char → List Char
  | '+' :: rest => rest
  | chars => chars

/-- Decimal digits of a number below a bound, with an optional plus sign. -/
def whole? (bound : Nat) (text : String) : Option Nat :=
  let digits := withoutPlus text.toList
  if digits.isEmpty || !digits.all isDigit then none
  else
    let n := digits.foldl (fun n c => n * 10 + (c.toNat - '0'.toNat)) 0
    if n < bound then some n else none

def truthOf? : String → Option Bool
  | "true" => some true
  | "false" => some false
  | _ => none

def ofText (key : String) (set : String → Config → Config) : Override :=
  ⟨key, "string", fun s c => some (set s c)⟩

def ofDuration (key : String) (set : Duration → Config → Config) : Override :=
  ⟨key, "duration", fun s c => (Duration.parse? s).map (set · c)⟩

/-- In the order in which they are applied. -/
def overrides : List Override := [
  ofText "WAFAUDIT_GENERAL_LOG_LEVEL" fun s c => { c with general.logLevel := s },
  ofText "WAFAUDIT_GENERAL_LOG_FORMAT" fun s c => { c with general.logFormat := s },
  ofDuration "WAFAUDIT_GENERAL_SHUTDOWN_TIMEOUT" fun d c => { c with general.shutdownTimeout := d },
  ofText "WAFAUDIT_AUDIT_LOG_PATH" fun s c => { c with auditLog.path := s },
  ofDuration "WAFAUDIT_AUDIT_LOG_PROCESSING_INTERVAL"
    fun d c => { c with auditLog.processingInterval := d },
  ofDuration "WAFAUDIT_AUDIT_LOG_EXPIRATION_INTERVAL"
    fun d c => { c with auditLog.expirationInterval := d },
  ofDuration "WAFAUDIT_AUDIT_LOG_RETENTION" fun d c => { c with auditLog.retention := d },
  ⟨"WAFAUDIT_AUDIT_LOG_MAX_LINE_BYTES", "usize",
    fun s c => (whole? UInt64.size s).map fun n => { c with auditLog.maxLineBytes := .ofNat n }⟩,
  ⟨"WAFAUDIT_METRICS_ENABLED", "bool",
    fun s c => (truthOf? s).map fun b => { c with metrics.enabled := b }⟩,
  ofText "WAFAUDIT_METRICS_LISTEN_ADDR" fun s c => { c with metrics.listenAddr := s },
  ⟨"WAFAUDIT_METRICS_PORT", "u16",
    fun s c => (whole? UInt16.size s).map fun n => { c with metrics.port := .ofNat n }⟩]

def Override.warning (o : Override) (value : String) : Event :=
  ⟨.warn, .config, s!"failed to parse {o.kind} from env var, ignoring",
    [("env_key", .text o.key), ("value", .text value)]⟩

def Override.apply (env : Environment) (o : Override) (c : Config) : Config × Journal :=
  match env.text? o.key with
  | none => (c, [])
  | some value =>
    match o.put value c with
    | some c => (c, [])
    | none => (c, [.event (o.warning value)])

def applyEnvironment (env : Environment) (c : Config) : Config × Journal :=
  overrides.foldl (fun (c, notes) o =>
    let (c, more) := o.apply env c
    (c, notes ++ more)) (c, [])

end Config
end AuditTrail
