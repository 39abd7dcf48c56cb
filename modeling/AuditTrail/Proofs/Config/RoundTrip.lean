import AuditTrail.Config.Wire
import AuditTrail.Proofs.Duration
import AuditTrail.Proofs.Json.Layout
import AuditTrail.Proofs.Toml.Document

/-! Configurations come back from their files, for every spelling of the strings in them. -/
namespace AuditTrail.Config
open Json (Layout)
open Toml (Quoting)

/-- A configuration file that gives every field. -/
def document (q : Quoting) (c : Config) : String :=
  "[general]\n"
    ++ line "log_level" (q.quote c.general.logLevel)
    ++ line "log_format" (q.quote c.general.logFormat)
    ++ line "shutdown_timeout" (q.quote c.general.shutdownTimeout.format)
    ++ "\n[audit_log]\n"
    ++ line "path" (q.quote c.auditLog.path)
    ++ line "processing_interval" (q.quote c.auditLog.processingInterval.format)
    ++ line "expiration_interval" (q.quote c.auditLog.expirationInterval.format)
    ++ line "retention" (q.quote c.auditLog.retention.format)
    ++ line "max_line_bytes" (toString c.auditLog.maxLineBytes.toNat)
    ++ "\n[metrics]\n"
    ++ line "enabled" (if c.metrics.enabled then "true" else "false")
    ++ line "listen_addr" (q.quote c.metrics.listenAddr)
    ++ line "port" (toString c.metrics.port.toNat)
    ++ line "endpoint" (q.quote c.metrics.endpoint)

theorem document_escaped (c : Config) : document .escaped c = c.toToml := rfl

def sections (c : Config) : List (String × Toml.Entries) := [
  ("general", [
    ("log_level", .text c.general.logLevel),
    ("log_format", .text c.general.logFormat),
    ("shutdown_timeout", .text c.general.shutdownTimeout.format)]),
  ("audit_log", [
    ("path", .text c.auditLog.path),
    ("processing_interval", .text c.auditLog.processingInterval.format),
    ("expiration_interval", .text c.auditLog.expirationInterval.format),
    ("retention", .text c.auditLog.retention.format),
    ("max_line_bytes", .integer c.auditLog.maxLineBytes.toNat)]),
  ("metrics", [
    ("enabled", .boolean c.metrics.enabled),
    ("listen_addr", .text c.metrics.listenAddr),
    ("port", .integer c.metrics.port.toNat),
    ("endpoint", .text c.metrics.endpoint)])]

variable {α : Type} {a : α}

theorem toList_line (name value : String) :
    (line name value).toList = name.toList ++ ' ' :: '=' :: ' ' :: (value.toList ++ ['\n']) := by
  simp [line]

theorem written_document (q : Quoting) (c : Config) :
    Toml.Document (Toml.statements c.sections) (document q c).toList := by
  have bytes := c.auditLog.maxLineBytes.toNat_lt
  have port : c.metrics.port.toNat < UInt64.size := Nat.lt_trans c.metrics.port.toNat_lt (by decide)
  have text : ∀ s, Toml.Written (.text s) (q.quote s).toList := fun s => .text (q.spelled s)
  have header : ∀ name {statements chars}, Toml.isBare name = true → Toml.Document statements chars →
      Toml.Document (.header ⟨[], name⟩ :: statements) ('[' :: (name.toList ++ ']' :: '\n' :: chars)) :=
    fun _ _ _ bare rest => .header bare rest
  have line : ∀ name {v written statements chars}, Toml.isBare name = true → Toml.Written v written →
      Toml.Document statements chars →
      Toml.Document (.assignment ⟨[], name⟩ v :: statements)
        ((Config.line name (.ofList written)).toList ++ chars) := by
    intro name v written statements chars bare value rest
    rw [toList_line, String.toList_ofList]
    simpa using Toml.Document.assignment bare value rest
  have derived :=
    header "general" (by decide) <| line "log_level" (by decide) (text c.general.logLevel) <|
      line "log_format" (by decide) (text c.general.logFormat) <|
      line "shutdown_timeout" (by decide) (text c.general.shutdownTimeout.format) <| .blank <|
    header "audit_log" (by decide) <| line "path" (by decide) (text c.auditLog.path) <|
      line "processing_interval" (by decide) (text c.auditLog.processingInterval.format) <|
      line "expiration_interval" (by decide) (text c.auditLog.expirationInterval.format) <|
      line "retention" (by decide) (text c.auditLog.retention.format) <|
      line "max_line_bytes" (by decide) (.integer bytes) <| .blank <|
    header "metrics" (by decide) <| line "enabled" (by decide) (.boolean c.metrics.enabled) <|
      line "listen_addr" (by decide) (text c.metrics.listenAddr) <|
      line "port" (by decide) (.integer port) <|
      line "endpoint" (by decide) (text c.metrics.endpoint) .nil
  simp only [String.ofList_toList, List.append_nil] at derived
  have heads : "[general]\n".toList = '[' :: ("general".toList ++ [']', '\n']) ∧
      "\n[audit_log]\n".toList = '\n' :: '[' :: ("audit_log".toList ++ [']', '\n']) ∧
      "\n[metrics]\n".toList = '\n' :: '[' :: ("metrics".toList ++ [']', '\n']) := by decide
  obtain ⟨general, auditLog, metrics⟩ := heads
  unfold document
  simp only [String.toList_append, List.append_assoc, general, auditLog, metrics, List.cons_append,
    List.nil_append]
  exact derived

/-! ### Values -/

theorem put_text {name : String} {set : String → α → α} (s : String) (a : α) :
    (text name set).put (Toml.text s).toJson a = .ok (set s a) := by
  simp only [text, Json.Field.text, Toml.toJson, Json.string?_ofString]
  rfl

theorem put_duration {name : String} {set : Duration → α → α} (d : Duration) (a : α) :
    (duration name set).put (Toml.text d.format).toJson a = .ok (set d a) := by
  simp only [duration, Toml.toJson, Json.string?_ofString, Option.bind_some, Duration.parse?_format]
  rfl

theorem put_whole {name : String} {bound n : Nat} {set : Nat → α → α} (below : n < bound) (a : α) :
    (whole name bound set).put (Toml.integer n).toJson a = .ok (set n a) := by
  have read : wholeBelow? bound (.ofInt n) = some n := by
    rw [wholeBelow?, Json.integer?_ofInt]
    exact if_pos below
  simp only [whole, Toml.toJson, read]
  rfl

theorem put_truth {name : String} {set : Bool → α → α} (b : Bool) (a : α) :
    (truth name set).put (Toml.boolean b).toJson a = .ok (set b a) := rfl

/-! ### Sections -/

theorem decode_general (g : General) : generalLayout.decode {} (.object (Toml.entriesJson [
    ("log_level", .text g.logLevel), ("log_format", .text g.logFormat),
    ("shutdown_timeout", .text g.shutdownTimeout.format)])) = .ok g :=
  Layout.decode_gives (by decide) (.give (put_text g.logLevel _) <| .give (put_text g.logFormat _) <|
    .give (put_duration g.shutdownTimeout _) .done)

theorem decode_auditLog (a : AuditLog) : auditLogLayout.decode {} (.object (Toml.entriesJson [
    ("path", .text a.path), ("processing_interval", .text a.processingInterval.format),
    ("expiration_interval", .text a.expirationInterval.format), ("retention", .text a.retention.format),
    ("max_line_bytes", .integer a.maxLineBytes.toNat)])) = .ok a := by
  have gives : auditLogLayout.decode {} _ = _ := Layout.decode_gives (by decide)
    (.give (put_text a.path _) <| .give (put_duration a.processingInterval _) <|
      .give (put_duration a.expirationInterval _) <| .give (put_duration a.retention _) <|
      .give (put_whole a.maxLineBytes.toNat_lt _) .done)
  rw [UInt64.ofNat_toNat] at gives
  exact gives

theorem decode_metrics (m : Metrics) : metricsLayout.decode {} (.object (Toml.entriesJson [
    ("enabled", .boolean m.enabled), ("listen_addr", .text m.listenAddr), ("port", .integer m.port.toNat),
    ("endpoint", .text m.endpoint)])) = .ok m := by
  have gives : metricsLayout.decode {} _ = _ := Layout.decode_gives (by decide)
    (.give (put_truth m.enabled _) <| .give (put_text m.listenAddr _) <|
      .give (put_whole m.port.toNat_lt _) <| .give (put_text m.endpoint _) .done)
  rw [UInt16.ofNat_toNat] at gives
  exact gives

theorem put_section {σ : Type} {read : Json → Read σ} {v : Json} {s : σ} (name : String)
    (set : σ → Config → Config) (given : read v = .ok s) (c : Config) :
    (⟨name, fun value c => (read value).map fun s => set s c⟩ : Json.Field Unit Config).put v c =
      .ok (set s c) := by
  simp only [given]
  rfl

theorem decode_sections (c : Config) : (layout tomlSections).decode {}
    (Toml.table .header (Toml.sectionTables c.sections)).toJson = .ok c :=
  Layout.decode_gives (by decide)
    (.give (put_section "general" (fun g c => { c with general := g }) (decode_general c.general) _) <|
      .give (put_section "audit_log" (fun a c => { c with auditLog := a }) (decode_auditLog c.auditLog) _) <|
      .give (put_section "metrics" (fun m c => { c with metrics := m }) (decode_metrics c.metrics) _) .done)

theorem parse_document (q : Quoting) (c : Config) : parse (document q c) = .ok c := by
  have distinct : (c.sections.map Prod.fst).Nodup := by simp [sections]
  have keys : ∀ s ∈ c.sections, (s.2.map Prod.fst).Nodup := by simp [sections]
  rw [parse, Toml.parse?_document (written_document q c) distinct keys]
  simp only [decode_sections]

theorem parse_toToml (c : Config) : parse c.toToml = .ok c := by
  rw [← document_escaped]
  exact parse_document .escaped c

/-- Reading any configuration file that gives every field, with strings in any spelling, gives the
configuration back, and reading a formatted span gives the span back. -/
theorem file_round_trip :
    (∀ (q : Quoting) (c : Config), parse (document q c) = .ok c) ∧ (∀ c : Config, parse c.toToml = .ok c) ∧
      ∀ d : Duration, Duration.parse? d.format = some d :=
  ⟨parse_document, parse_toToml, Duration.parse?_format⟩

end AuditTrail.Config
