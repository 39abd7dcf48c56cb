import AuditTrail.Failure

/-! The settings of a processor. A period of zero turns its job off; a retention of zero keeps
backups forever. -/
namespace AuditTrail

structure Settings where
  path : Path := ⟨[]⟩
  processingInterval : Duration := .ofSecs 10
  expirationInterval : Duration := .ofSecs 3600
  retention : Duration := .ofSecs 86400
  maxLineBytes : UInt64 := 1048576
  deriving DecidableEq

namespace Settings

def processingEnabled (s : Settings) : Bool := !s.processingInterval.isZero

def expirationEnabled (s : Settings) : Bool := !s.expirationInterval.isZero && !s.retention.isZero

def enabled (s : Settings) : Job → Bool
  | .processing => s.processingEnabled
  | .expiration => s.expirationEnabled

def period (s : Settings) : Job → Duration
  | .processing => s.processingInterval
  | .expiration => s.expirationInterval

/-- The path must have a file name, and the limit for lines must be positive. -/
def validate (s : Settings) : Except Failure Unit :=
  if s.path.bytes.isEmpty then .error (.setting "path" "audit log path must not be empty")
  else if s.path.fileName?.isNone then
    .error (.setting "path" s!"'{s.path.display}' does not name a file")
  else if s.maxLineBytes = 0 then .error (.setting "max_line_bytes" "must be greater than 0")
  else .ok ()

end Settings
end AuditTrail
