import AuditTrail.Config.Basic
import AuditTrail.Duration.Text
import AuditTrail.Json.Layout
import AuditTrail.Toml.Document

/-! Configurations as TOML documents and as JSON text. Missing sections and fields keep their
defaults, and unknown ones are ignored. -/
namespace AuditTrail.Config
open Json (Layout Field expect)

abbrev Read (α : Type) := Except Unit α

def text (name : String) (set : String → α → α) : Field Unit α := .text name set

def duration (name : String) (set : Duration → α → α) : Field Unit α :=
  ⟨name, fun value a => (expect (value.string?.bind Duration.parse?)).map (set · a)⟩

/-- An integer from zero up to a bound. -/
def wholeBelow? (bound : Nat) (value : Json) : Option Nat :=
  match value.integer? with
  | some (.ofNat n) => if n < bound then some n else none
  | _ => none

def whole (name : String) (bound : Nat) (set : Nat → α → α) : Field Unit α :=
  ⟨name, fun value a => (expect (wholeBelow? bound value)).map (set · a)⟩

def truth? : Json → Option Bool
  | .bool b => some b
  | _ => none

def truth (name : String) (set : Bool → α → α) : Field Unit α :=
  ⟨name, fun value a => (expect (truth? value)).map (set · a)⟩

def generalLayout : Layout Unit General := [
  text "log_level" fun s g => { g with logLevel := s },
  text "log_format" fun s g => { g with logFormat := s },
  duration "shutdown_timeout" fun d g => { g with shutdownTimeout := d }]

def auditLogLayout : Layout Unit AuditLog := [
  text "path" fun s a => { a with path := s },
  duration "processing_interval" fun d a => { a with processingInterval := d },
  duration "expiration_interval" fun d a => { a with expirationInterval := d },
  duration "retention" fun d a => { a with retention := d },
  whole "max_line_bytes" UInt64.size fun n a => { a with maxLineBytes := .ofNat n }]

def metricsLayout : Layout Unit Metrics := [
  truth "enabled" fun b m => { m with enabled := b },
  text "listen_addr" fun s m => { m with listenAddr := s },
  whole "port" UInt16.size fun n m => { m with port := .ofNat n },
  text "endpoint" fun s m => { m with endpoint := s }]

structure Sections where
  general : Json → Read General
  auditLog : Json → Read AuditLog
  metrics : Json → Read Metrics

def layout (sections : Sections) : Layout Unit Config := [
  ⟨"general", fun value c => (sections.general value).map fun g => { c with general := g }⟩,
  ⟨"audit_log", fun value c => (sections.auditLog value).map fun a => { c with auditLog := a }⟩,
  ⟨"metrics", fun value c => (sections.metrics value).map fun m => { c with metrics := m }⟩]

def jsonSections : Sections :=
  ⟨generalLayout.decode {}, auditLogLayout.decode {}, metricsLayout.decode {}⟩

def tomlSections : Sections :=
  ⟨generalLayout.decodeLeading {}, auditLogLayout.decodeLeading {}, metricsLayout.decodeLeading {}⟩

def ofJson? (text : String) : Option Config :=
  (Json.decodeText ((layout jsonSections).decode {}) (Utf8.encode text)).toOption

def parse (text : String) : Except ServiceError Config :=
  match Toml.parse? text with
  | none => .error (.config (.unreadable "not a TOML document"))
  | some document =>
    match (layout tomlSections).decode {} document.toJson with
    | .ok c => .ok c
    | .error () => .error (.config (.unreadable "a field has a value of another kind"))

def line (name value : String) : String := name ++ " = " ++ value ++ "\n"

def textLine (name value : String) : String := line name (Toml.quote value)

def durationLine (name : String) (d : Duration) : String := textLine name d.format

def toToml (c : Config) : String :=
  "[general]\n"
    ++ textLine "log_level" c.general.logLevel
    ++ textLine "log_format" c.general.logFormat
    ++ durationLine "shutdown_timeout" c.general.shutdownTimeout
    ++ "\n[audit_log]\n"
    ++ textLine "path" c.auditLog.path
    ++ durationLine "processing_interval" c.auditLog.processingInterval
    ++ durationLine "expiration_interval" c.auditLog.expirationInterval
    ++ durationLine "retention" c.auditLog.retention
    ++ line "max_line_bytes" (toString c.auditLog.maxLineBytes.toNat)
    ++ "\n[metrics]\n"
    ++ line "enabled" (if c.metrics.enabled then "true" else "false")
    ++ textLine "listen_addr" c.metrics.listenAddr
    ++ line "port" (toString c.metrics.port.toNat)
    ++ textLine "endpoint" c.metrics.endpoint

end AuditTrail.Config
