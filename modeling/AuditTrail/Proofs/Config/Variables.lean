import AuditTrail.Proofs.Config.Layers

/-! Environment variables, one for each field of the configuration. `Override.apply` of a field
sets that field only, or notes that the value cannot be read. The endpoint of the metrics has no
override. -/
namespace AuditTrail

/-- The warnings about a variable of the environment. -/
def Journal.about (notes : Journal) (key : String) : List Event :=
  notes.warnings.filter fun e => ("env_key", .text key) ∈ e.fields

theorem Journal.about_append (front back : Journal) (key : String) :
    (front ++ back).about key = front.about key ++ back.about key := by
  simp only [about, warnings, events, List.filterMap_append, List.filter_append]

namespace Config

/-- Decimal digits, with an optional plus sign. -/
def Whole (text : String) (n : Nat) : Prop := ∃ sign digits : List Char, text.toList = sign ++ digits ∧
  (sign = [] ∨ sign = ['+']) ∧ digits ≠ [] ∧ (∀ c ∈ digits, isDigit c = true) ∧
  Nat.ofDigitChars 10 digits 0 = n

theorem withoutPlus_of_digits {digits : List Char} (figures : ∀ c ∈ digits, isDigit c = true) :
    withoutPlus digits = digits := by
  unfold withoutPlus
  split
  · exact absurd (figures '+' List.mem_cons_self) (by decide)
  · rfl

theorem exists_sign (chars : List Char) :
    ∃ sign, chars = sign ++ withoutPlus chars ∧ (sign = [] ∨ sign = ['+']) := by
  unfold withoutPlus
  split
  · exact ⟨['+'], rfl, .inr rfl⟩
  · exact ⟨[], rfl, .inl rfl⟩

theorem foldl_digits (digits : List Char) : digits.foldl (fun n c => n * 10 + (c.toNat - '0'.toNat)) 0 =
    Nat.ofDigitChars 10 digits 0 := by
  simp only [Nat.mul_comm _ 10]
  rfl

theorem whole?_eq_some {bound n : Nat} {text : String} :
    whole? bound text = some n ↔ Whole text n ∧ n < bound := by
  constructor
  · intro read
    obtain ⟨sign, split, signed⟩ := exists_sign text.toList
    simp only [whole?, foldl_digits, Option.ite_none_left_eq_some, Bool.or_eq_true, not_or,
      Bool.not_eq_true', Bool.not_eq_false, List.all_eq_true, List.isEmpty_iff] at read
    obtain ⟨⟨present, figures⟩, read⟩ := read
    obtain ⟨below, value⟩ := Option.ite_none_right_eq_some.1 read
    exact ⟨⟨sign, _, split, signed, present, figures, Option.some.inj value⟩,
      Option.some.inj value ▸ below⟩
  · rintro ⟨⟨sign, digits, split, signed, present, figures, rfl⟩, below⟩
    have cut : withoutPlus text.toList = digits := by
      rw [split]
      rcases signed with rfl | rfl
      · exact withoutPlus_of_digits figures
      · rfl
    have plain : (digits.isEmpty || !digits.all isDigit) = false := by
      rw [List.all_eq_true.2 figures, List.isEmpty_eq_false_iff.2 present]
      rfl
    simp only [whole?, cut, plain, foldl_digits, if_pos below]
    rfl

inductive Field where
  | logLevel | logFormat | shutdownTimeout
  | path | processingInterval | expirationInterval | retention | maxLineBytes
  | enabled | listenAddr | port | endpoint
  deriving DecidableEq

namespace Field

/-- The section and the key of a field in a configuration file. -/
def spot : Field → String × String
  | logLevel => ("general", "log_level")
  | logFormat => ("general", "log_format")
  | shutdownTimeout => ("general", "shutdown_timeout")
  | path => ("audit_log", "path")
  | processingInterval => ("audit_log", "processing_interval")
  | expirationInterval => ("audit_log", "expiration_interval")
  | retention => ("audit_log", "retention")
  | maxLineBytes => ("audit_log", "max_line_bytes")
  | enabled => ("metrics", "enabled")
  | listenAddr => ("metrics", "listen_addr")
  | port => ("metrics", "port")
  | endpoint => ("metrics", "endpoint")

def key (f : Field) : String :=
  "WAFAUDIT_" ++ .ofList ((f.spot.1 ++ "_" ++ f.spot.2).toList.map Char.toUpper)

abbrev Value : Field → Type
  | logLevel | logFormat | path | listenAddr | endpoint => String
  | shutdownTimeout | processingInterval | expirationInterval | retention => Duration
  | maxLineBytes => UInt64
  | enabled => Bool
  | port => UInt16

def get : (f : Field) → Config → f.Value
  | logLevel, c => c.general.logLevel
  | logFormat, c => c.general.logFormat
  | shutdownTimeout, c => c.general.shutdownTimeout
  | path, c => c.auditLog.path
  | processingInterval, c => c.auditLog.processingInterval
  | expirationInterval, c => c.auditLog.expirationInterval
  | retention, c => c.auditLog.retention
  | maxLineBytes, c => c.auditLog.maxLineBytes
  | enabled, c => c.metrics.enabled
  | listenAddr, c => c.metrics.listenAddr
  | port, c => c.metrics.port
  | endpoint, c => c.metrics.endpoint

/-- The texts of a value, by the type of the field. -/
def Reads : (f : Field) → String → f.Value → Prop
  | logLevel, text, s | logFormat, text, s | path, text, s | listenAddr, text, s | endpoint, text, s =>
    s = text
  | shutdownTimeout, text, d | processingInterval, text, d | expirationInterval, text, d
  | retention, text, d => Duration.parse? text = some d
  | maxLineBytes, text, n => Whole text n.toNat
  | enabled, text, b => text = if b then "true" else "false"
  | port, text, n => Whole text n.toNat

def read : (f : Field) → String → Option f.Value
  | logLevel, text | logFormat, text | path, text | listenAddr, text | endpoint, text => some text
  | shutdownTimeout, text | processingInterval, text | expirationInterval, text | retention, text =>
    Duration.parse? text
  | maxLineBytes, text => (whole? UInt64.size text).map .ofNat
  | enabled, text => truthOf? text
  | port, text => (whole? UInt16.size text).map .ofNat

theorem read_eq_some {f : Field} {text : String} {v : f.Value} : f.read text = some v ↔ f.Reads text v := by
  have exact_ : ∀ {α : Type} {a b : α}, some a = some b ↔ b = a := by
    intro α a b
    rw [Option.some_inj, eq_comm]
  cases f with
  | logLevel | logFormat | path | listenAddr | endpoint => exact exact_
  | shutdownTimeout | processingInterval | expirationInterval | retention => exact Iff.rfl
  | maxLineBytes =>
    change (whole? UInt64.size text).map UInt64.ofNat = some v ↔ Whole text v.toNat
    rw [Option.map_eq_some_iff]
    constructor
    · rintro ⟨n, whole, rfl⟩
      obtain ⟨spelled, below⟩ := whole?_eq_some.1 whole
      rwa [UInt64.toNat_ofNat_of_lt' below]
    · exact fun spelled => ⟨_, whole?_eq_some.2 ⟨spelled, v.toNat_lt⟩, UInt64.ofNat_toNat⟩
  | enabled =>
    change truthOf? text = some v ↔ text = if v then "true" else "false"
    unfold truthOf?
    split <;> cases v <;> simp_all
  | port =>
    change (whole? UInt16.size text).map UInt16.ofNat = some v ↔ Whole text v.toNat
    rw [Option.map_eq_some_iff]
    constructor
    · rintro ⟨n, whole, rfl⟩
      obtain ⟨spelled, below⟩ := whole?_eq_some.1 whole
      rwa [UInt16.toNat_ofNat_of_lt' below]
    · exact fun spelled => ⟨_, whole?_eq_some.2 ⟨spelled, v.toNat_lt⟩, UInt16.ofNat_toNat⟩

/-! ### Noting -/

def kind : Field → String
  | logLevel | logFormat | path | listenAddr | endpoint => "string"
  | shutdownTimeout | processingInterval | expirationInterval | retention => "duration"
  | maxLineBytes => "usize"
  | enabled => "bool"
  | port => "u16"

def set : (f : Field) → f.Value → Config → Config
  | logLevel, s, c => { c with general.logLevel := s }
  | logFormat, s, c => { c with general.logFormat := s }
  | shutdownTimeout, d, c => { c with general.shutdownTimeout := d }
  | path, s, c => { c with auditLog.path := s }
  | processingInterval, d, c => { c with auditLog.processingInterval := d }
  | expirationInterval, d, c => { c with auditLog.expirationInterval := d }
  | retention, d, c => { c with auditLog.retention := d }
  | maxLineBytes, n, c => { c with auditLog.maxLineBytes := n }
  | enabled, b, c => { c with metrics.enabled := b }
  | listenAddr, s, c => { c with metrics.listenAddr := s }
  | port, n, c => { c with metrics.port := n }
  | endpoint, s, c => { c with metrics.endpoint := s }

def override (f : Field) : Override := ⟨f.key, f.kind, fun text c => (f.read text).map (f.set · c)⟩

def overridden : List Field :=
  [logLevel, logFormat, shutdownTimeout, path, processingInterval, expirationInterval, retention,
    maxLineBytes, enabled, listenAddr, port]

theorem overrides_eq : overrides = overridden.map override := by
  simp only [overridden, List.map_cons, List.map_nil, override, read, Option.map_map]
  rfl

theorem mem_overridden {f : Field} : f ∈ overridden ↔ f ≠ endpoint := by
  cases f <;> decide

theorem distinct_keys : (endpoint :: overridden |>.map key).Nodup := by decide

variable {c : Config} {env : Environment} {f g : Field}

theorem eq_of_key (same : f.key = g.key) : f = g := by
  have listed : ∀ f : Field, f ∈ endpoint :: overridden := by
    intro f
    cases f <;> decide
  exact List.inj_on_of_nodup_map distinct_keys (listed f) (listed g) same

def notes (env : Environment) (f : Field) : Journal :=
  match env.text? f.key with
  | none => []
  | some text => if (f.read text).isSome then [] else [.event (f.override.warning text)]

theorem snd_apply : (f.override.apply env c).2 = f.notes env := by
  simp only [Override.apply, notes, override]
  cases env.text? f.key with
  | none => rfl
  | some text =>
    simp only
    cases f.read text <;> rfl

theorem snd_applyEnvironment : (c.applyEnvironment env).2 = overridden.flatMap (notes env) := by
  have onto : ∀ (list : List Field) (c : Config) (before : Journal),
      ((list.map override).foldl (fun read o => ((o.apply env read.1).1, read.2 ++ (o.apply env read.1).2))
        (c, before)).2 = before ++ list.flatMap (notes env) := by
    intro list
    induction list with
    | nil => exact fun _ before => (List.append_nil before).symm
    | cons f rest ih =>
      intro c before
      rw [List.map_cons, List.foldl_cons, ih, snd_apply, List.flatMap_cons, List.append_assoc]
  rw [← List.nil_append (overridden.flatMap _), ← onto overridden c [], ← overrides_eq]
  rfl

theorem get_applyEnvironment (overridden : f ≠ endpoint) :
    f.get (c.applyEnvironment env).1 = (env.value? f.key f.read).getD (f.get c) := by
  rw [applyEnvironment_eq]
  cases f with
  | endpoint => exact absurd rfl overridden
  | _ => rfl

theorem get_endpoint : endpoint.get (c.applyEnvironment env).1 = endpoint.get c := by
  rw [applyEnvironment_eq]
  rfl

theorem about_warning (text : String) : Journal.about [.event (f.override.warning text)] g.key =
    if f = g then [f.override.warning text] else [] := by
  have names : ("env_key", Value.text g.key) ∈ (f.override.warning text).fields ↔ f = g := by
    simp only [Override.warning, override, List.mem_cons, Prod.mk.injEq, Value.text.injEq, true_and]
    constructor
    · rintro (same | ⟨other, -⟩ | none_)
      · exact eq_of_key same.symm
      · exact absurd other (by decide)
      · cases none_
    · rintro rfl
      exact .inl rfl
  have shown : Journal.warnings [.event (f.override.warning text)] = [f.override.warning text] := rfl
  simp only [Journal.about, shown, List.filter_singleton, cond_eq_ite, decide_eq_true_eq, names]

theorem about_notes_other (other : f ≠ g) : (f.notes env).about g.key = [] := by
  unfold notes
  split
  · rfl
  · split
    · rfl
    · rw [about_warning, if_neg other]

theorem about_applyEnvironment : (c.applyEnvironment env).2.about f.key =
    if f = endpoint then [] else (f.notes env).about f.key := by
  have onto : ∀ list : List Field, list.Nodup → Journal.about (list.flatMap (notes env)) f.key =
      if f ∈ list then (f.notes env).about f.key else [] := by
    intro list
    induction list with
    | nil => exact fun _ => rfl
    | cons g rest ih =>
      intro distinct
      obtain ⟨apart, distinct⟩ := List.nodup_cons.1 distinct
      rw [List.flatMap_cons, Journal.about_append, ih distinct]
      by_cases same : g = f
      · subst same
        rw [if_neg apart, if_pos List.mem_cons_self, List.append_nil]
      · rw [about_notes_other same, List.nil_append]
        simp only [List.mem_cons, Ne.symm same, false_or]
  rw [snd_applyEnvironment, onto overridden (by decide)]
  simp only [mem_overridden, ite_not]

theorem about_notes : (f.notes env).about f.key = match env.text? f.key with
    | none => []
    | some text => if (f.read text).isSome then [] else [f.override.warning text] := by
  unfold notes
  cases env.text? f.key with
  | none => rfl
  | some text =>
    simp only
    split
    · rfl
    · rw [about_warning, if_pos rfl]

/-- The field takes the value of its variable if there is a valid one and is unchanged otherwise, an invalid
value is warned of once, and other variables have no influence. -/
structure Obeys (f : Field) (env : Environment) (c : Config) : Prop where
  given : ∀ text v, env.text? f.key = some text → f.Reads text v → f.get (c.applyEnvironment env).1 = v
  kept : (∀ text v, env.text? f.key = some text → ¬ f.Reads text v) →
    f.get (c.applyEnvironment env).1 = f.get c
  warned : ∀ text, env.text? f.key = some text → (∀ v, ¬ f.Reads text v) →
    (c.applyEnvironment env).2.about f.key = [f.override.warning text]
  silent : (∀ text, env.text? f.key = some text → ∃ v, f.Reads text v) →
    (c.applyEnvironment env).2.about f.key = []
  alone : ∀ other : Environment, other.text? f.key = env.text? f.key →
    f.get (c.applyEnvironment other).1 = f.get (c.applyEnvironment env).1

theorem read_eq_none {text : String} (unread : ∀ v, ¬ f.Reads text v) : f.read text = none :=
  Option.eq_none_iff_forall_ne_some.2 fun v read => unread v (read_eq_some.1 read)

theorem obeys (overridden : f ≠ endpoint) : f.Obeys env c where
  given text v set reads := by
    rw [get_applyEnvironment overridden, Environment.value?, set, Option.bind_some,
      read_eq_some.2 reads, Option.getD_some]
  kept unread := by
    rw [get_applyEnvironment overridden, Environment.value?]
    cases set : env.text? f.key with
    | none => rfl
    | some text => rw [Option.bind_some, read_eq_none fun v => unread text v set, Option.getD_none]
  warned text set unread := by
    rw [about_applyEnvironment, if_neg overridden, about_notes, set]
    simp only [read_eq_none unread]
    rfl
  silent readable := by
    rw [about_applyEnvironment, if_neg overridden, about_notes]
    cases set : env.text? f.key with
    | none => rfl
    | some text =>
      obtain ⟨v, reads⟩ := readable text set
      simp only [read_eq_some.2 reads]
      rfl
  alone other same := by
    rw [get_applyEnvironment overridden, get_applyEnvironment overridden, Environment.value?,
      Environment.value?, same]

end Field

/-- Every field except the endpoint obeys its variable. The endpoint is never changed, and there are no other
warnings. -/
theorem variables_obeyed (c : Config) (env : Environment) :
    (∀ f : Field, f ≠ .endpoint → f.Obeys env c) ∧
    Field.endpoint.get (c.applyEnvironment env).1 = Field.endpoint.get c ∧
    (c.applyEnvironment env).2.about Field.endpoint.key = [] ∧
    ∀ note ∈ (c.applyEnvironment env).2, ∃ f : Field, f ≠ .endpoint ∧ ∃ text,
      env.text? f.key = some text ∧ (∀ v, ¬ f.Reads text v) ∧ note = .event (f.override.warning text) := by
  refine ⟨fun f overridden => Field.obeys overridden, Field.get_endpoint, ?_, fun note among => ?_⟩
  · rw [Field.about_applyEnvironment, if_pos rfl]
  · rw [Field.snd_applyEnvironment, List.mem_flatMap] at among
    obtain ⟨f, listed, noted⟩ := among
    refine ⟨f, Field.mem_overridden.1 listed, ?_⟩
    unfold Field.notes at noted
    cases set : env.text? f.key with
    | none => simp [set] at noted
    | some text =>
      simp only [set] at noted
      split at noted
      · cases noted
      next unread =>
        refine ⟨text, rfl, fun v reads => ?_, List.mem_singleton.1 noted⟩
        rw [Field.read_eq_some.2 reads] at unread
        exact unread rfl

theorem variables_obeyed_port :
    let env : Environment := [("WAFAUDIT_METRICS_PORT", Utf8.encode "+9090"),
      ("WAFAUDIT_AUDIT_LOG_MAX_LINE_BYTES", Utf8.encode "64k"),
      ("WAFAUDIT_METRICS_ENDPOINT", Utf8.encode "/scrape")]
    let c : Config := {}
    Field.port ≠ .endpoint ∧ Field.maxLineBytes ≠ .endpoint ∧
      Field.port.get (c.applyEnvironment env).1 = (9090 : UInt16) ∧
      Field.maxLineBytes.get (c.applyEnvironment env).1 = (1048576 : UInt64) ∧
      (c.applyEnvironment env).2.about Field.maxLineBytes.key = [Field.maxLineBytes.override.warning "64k"] ∧
      Field.endpoint.get (c.applyEnvironment env).1 = "/metrics" := by
  intro env c
  obtain ⟨obeys, endpoint, -⟩ := variables_obeyed c env
  have port := obeys .port (by decide)
  have limit := obeys .maxLineBytes (by decide)
  have set : env.text? Field.maxLineBytes.key = some "64k" := by decide +kernel
  have unread : ∀ v, ¬ Field.maxLineBytes.Reads "64k" v := by
    intro v reads
    have read := Field.read_eq_some.2 reads
    have none_ : Field.maxLineBytes.read "64k" = none := by decide +kernel
    rw [none_] at read
    cases read
  refine ⟨by decide, by decide, port.given "+9090" 9090 (by decide +kernel) ?_, limit.kept ?_,
    limit.warned "64k" set unread, endpoint⟩
  · exact Field.read_eq_some.1 (by decide +kernel)
  · rintro text v given
    obtain rfl := Option.some.inj (set.symm.trans given)
    exact unread v

theorem endpoint_disobeys :
    let env : Environment := [("WAFAUDIT_METRICS_ENDPOINT", Utf8.encode "/scrape")]
    let c : Config := {}
    env.text? Field.endpoint.key = some "/scrape" ∧ Field.endpoint.Reads "/scrape" "/scrape" ∧
      Field.endpoint.get (c.applyEnvironment env).1 = "/metrics" ∧ ¬ Field.endpoint.Obeys env c := by
  intro env c
  have set : env.text? Field.endpoint.key = some "/scrape" := by decide +kernel
  have stays : Field.endpoint.get (c.applyEnvironment env).1 = "/metrics" := Field.get_endpoint
  refine ⟨set, rfl, stays, fun obeys => ?_⟩
  have moved := obeys.given "/scrape" "/scrape" set rfl
  rw [stays] at moved
  exact absurd moved (by decide)

end Config
end AuditTrail
