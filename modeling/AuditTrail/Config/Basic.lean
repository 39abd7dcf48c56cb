import AuditTrail.CommandLine
import AuditTrail.Processor.Settings
import AuditTrail.ServiceError
import AuditTrail.Unicode.Blank

/-! The configuration of the service: what it logs, which audit log it keeps, and where it shows its
metrics. -/
namespace AuditTrail

structure Config.General where
  logLevel : String := "info"
  logFormat : String := "json"
  shutdownTimeout : Duration := .ofSecs 30
  deriving DecidableEq

structure Config.AuditLog where
  path : String := ""
  processingInterval : Duration := .ofSecs 10
  expirationInterval : Duration := .ofSecs 3600
  retention : Duration := .ofSecs 86400
  maxLineBytes : UInt64 := 1048576
  deriving DecidableEq

structure Config.Metrics where
  enabled : Bool := true
  listenAddr : String := "127.0.0.1"
  port : UInt16 := 8081
  endpoint : String := "/metrics"
  deriving DecidableEq

structure Config where
  general : Config.General := {}
  auditLog : Config.AuditLog := {}
  metrics : Config.Metrics := {}
  deriving DecidableEq

namespace Config

def levels : List String := ["trace", "debug", "info", "warn", "error"]

def formats : List String := ["json", "pretty"]

def oneOf (names : List String) : String := "must be one of: " ++ String.intercalate ", " names

/-- The first error of a configuration, in the order of its fields. -/
def fault? (c : Config) : Option ConfigError :=
  if !levels.contains c.general.logLevel then
    some (.invalid "general.log_level" (oneOf levels))
  else if !formats.contains c.general.logFormat then
    some (.invalid "general.log_format" (oneOf formats))
  else if c.general.shutdownTimeout.isZero then
    some (.invalid "general.shutdown_timeout" "must be greater than 0")
  else if (Unicode.trimChars c.auditLog.path.toList).isEmpty then some (.missing "audit_log.path")
  else if c.auditLog.maxLineBytes = 0 then
    some (.invalid "audit_log.max_line_bytes" "must be greater than 0")
  else if !c.metrics.enabled then none
  else if c.metrics.port = 0 then
    some (.invalid "metrics.port" "must be greater than 0 when metrics are enabled")
  else if c.metrics.endpoint.toList.head? ≠ some '/' then
    some (.invalid "metrics.endpoint" "must start with '/'")
  else none

def validate (c : Config) : Except ServiceError Unit :=
  match c.fault? with
  | some e => .error (.config e)
  | none => .ok ()

def applyCommandLine (c : Config) (line : CommandLine) : Config :=
  { c with general := { c.general with
      logLevel := line.logLevel.getD c.general.logLevel
      logFormat := line.logFormat.getD c.general.logFormat } }

def settings (c : Config) : Settings :=
  { path := .ofString c.auditLog.path
    processingInterval := c.auditLog.processingInterval
    expirationInterval := c.auditLog.expirationInterval
    retention := c.auditLog.retention
    maxLineBytes := c.auditLog.maxLineBytes }

end Config
end AuditTrail
