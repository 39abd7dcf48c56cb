import AuditTrail.Proofs.Config.Accepted
import AuditTrail.Proofs.Config.RoundTrip
import AuditTrail.Service

/-! The layers of a configuration: the file, over it the environment, and over both the command
line. `Config.layered` gives for each field the layer that counts, and `applyEnvironment` and
`applyCommandLine` compute it. The configuration is also checked before the command line is
applied, so a level or format that the command line replaces must be valid all the same. -/
namespace AuditTrail

/-- The value of a variable that is set and can be read. -/
def Environment.value? (env : Environment) (key : String) (read : String → Option α) : Option α :=
  (env.text? key).bind read

namespace Config

variable {c : Config} {env : Environment} {α : Type}

/-- Each field has the value of the first layer that gives one. -/
def layered (line : CommandLine) (env : Environment) (file : Config) : Config where
  general := {
    logLevel :=
      (line.logLevel.or (env.value? "WAFAUDIT_GENERAL_LOG_LEVEL" some)).getD file.general.logLevel
    logFormat :=
      (line.logFormat.or (env.value? "WAFAUDIT_GENERAL_LOG_FORMAT" some)).getD file.general.logFormat
    shutdownTimeout := (env.value? "WAFAUDIT_GENERAL_SHUTDOWN_TIMEOUT" Duration.parse?).getD
      file.general.shutdownTimeout }
  auditLog := {
    path := (env.value? "WAFAUDIT_AUDIT_LOG_PATH" some).getD file.auditLog.path
    processingInterval := (env.value? "WAFAUDIT_AUDIT_LOG_PROCESSING_INTERVAL" Duration.parse?).getD
      file.auditLog.processingInterval
    expirationInterval := (env.value? "WAFAUDIT_AUDIT_LOG_EXPIRATION_INTERVAL" Duration.parse?).getD
      file.auditLog.expirationInterval
    retention := (env.value? "WAFAUDIT_AUDIT_LOG_RETENTION" Duration.parse?).getD file.auditLog.retention
    maxLineBytes := (env.value? "WAFAUDIT_AUDIT_LOG_MAX_LINE_BYTES" fun text =>
      (whole? UInt64.size text).map UInt64.ofNat).getD file.auditLog.maxLineBytes }
  metrics := {
    enabled := (env.value? "WAFAUDIT_METRICS_ENABLED" truthOf?).getD file.metrics.enabled
    listenAddr := (env.value? "WAFAUDIT_METRICS_LISTEN_ADDR" some).getD file.metrics.listenAddr
    port := (env.value? "WAFAUDIT_METRICS_PORT" fun text =>
      (whole? UInt16.size text).map UInt16.ofNat).getD file.metrics.port
    endpoint := file.metrics.endpoint }

theorem Override.apply_eq {o : Override} (read : String → Option α) (get : Config → α)
    (set : α → Config → Config) (put : ∀ text c, o.put text c = (read text).map (set · c))
    (same : ∀ c, set (get c) c = c) :
    (o.apply env c).1 = set ((env.value? o.key read).getD (get c)) c := by
  unfold Override.apply Environment.value?
  cases env.text? o.key with
  | none => exact (same c).symm
  | some text =>
    simp only [put, Option.bind_some]
    cases read text with
    | none => exact (same c).symm
    | some value => rfl

theorem fst_applyEnvironment :
    (c.applyEnvironment env).1 = overrides.foldl (fun c o => (o.apply env c).1) c := by
  have onto : ∀ (list : List Override) (c : Config) (notes : Journal),
      (list.foldl (fun read o => ((o.apply env read.1).1, read.2 ++ (o.apply env read.1).2))
        (c, notes)).1 = list.foldl (fun c o => (o.apply env c).1) c := by
    intro list
    induction list with
    | nil => exact fun _ _ => rfl
    | cons o rest ih => exact fun c notes => ih _ _
  exact onto overrides c []

theorem ofText_apply (key : String) (get : Config → String) {set : String → Config → Config}
    (same : ∀ c, set (get c) c = c) :
    ((ofText key set).apply env c).1 = set ((env.value? key some).getD (get c)) c :=
  Override.apply_eq some get set (fun _ _ => rfl) same

theorem ofDuration_apply (key : String) (get : Config → Duration) {set : Duration → Config → Config}
    (same : ∀ c, set (get c) c = c) :
    ((ofDuration key set).apply env c).1 = set ((env.value? key Duration.parse?).getD (get c)) c :=
  Override.apply_eq Duration.parse? get set (fun _ _ => rfl) same

theorem whole_apply {bound : Nat} {key kind : String} (of : Nat → α) (get : Config → α)
    (set : α → Config → Config) (same : ∀ c, set (get c) c = c) :
    ((⟨key, kind, fun s c => (whole? bound s).map fun n => set (of n) c⟩ : Override).apply env c).1 =
      set ((env.value? key fun s => (whole? bound s).map of).getD (get c)) c :=
  Override.apply_eq (fun s => (whole? bound s).map of) get set
    (fun s c => (Option.map_map (set · c) of (whole? bound s)).symm) same

theorem applyEnvironment_eq : (c.applyEnvironment env).1 = layered {} env c := by
  rw [fst_applyEnvironment]
  simp only [overrides, List.foldl_cons, List.foldl_nil, implies_true,
    ofText_apply "WAFAUDIT_GENERAL_LOG_LEVEL" (·.general.logLevel),
    ofText_apply "WAFAUDIT_GENERAL_LOG_FORMAT" (·.general.logFormat),
    ofDuration_apply "WAFAUDIT_GENERAL_SHUTDOWN_TIMEOUT" (·.general.shutdownTimeout),
    ofText_apply "WAFAUDIT_AUDIT_LOG_PATH" (·.auditLog.path),
    ofDuration_apply "WAFAUDIT_AUDIT_LOG_PROCESSING_INTERVAL" (·.auditLog.processingInterval),
    ofDuration_apply "WAFAUDIT_AUDIT_LOG_EXPIRATION_INTERVAL" (·.auditLog.expirationInterval),
    ofDuration_apply "WAFAUDIT_AUDIT_LOG_RETENTION" (·.auditLog.retention),
    whole_apply UInt64.ofNat (·.auditLog.maxLineBytes) fun n c => { c with auditLog.maxLineBytes := n },
    Override.apply_eq truthOf? (·.metrics.enabled) fun b c => { c with metrics.enabled := b },
    ofText_apply "WAFAUDIT_METRICS_LISTEN_ADDR" (·.metrics.listenAddr),
    whole_apply UInt16.ofNat (·.metrics.port) fun n c => { c with metrics.port := n }]
  rfl

theorem applyCommandLine_eq {line : CommandLine} :
    (c.applyEnvironment env).1.applyCommandLine line = layered line env c := by
  have either : ∀ (first second : Option String) (last : String),
      first.getD (second.getD last) = (first.or second).getD last := by
    rintro (_ | _) <;> exact fun _ _ => rfl
  rw [applyEnvironment_eq]
  simp only [applyCommandLine, layered, Option.none_or, either]

theorem accepted_layered {line : CommandLine} :
    (layered {} env c).Accepted ∧ (layered line env c).Accepted ↔
    (layered line env c).Accepted ∧ (layered {} env c).general.logLevel ∈ levels ∧
      (layered {} env c).general.logFormat ∈ formats := by
  constructor
  · rintro ⟨beneath, accepted⟩
    exact ⟨accepted, beneath.level, beneath.format⟩
  · rintro ⟨accepted, level, format⟩
    exact ⟨⟨level, format, accepted.timeout, accepted.path, accepted.room, accepted.port,
      accepted.endpoint⟩, accepted⟩

theorem ofFile_eq {path : Path} {content : Bytes} {text : String}
    (decoded : Utf8.decode? content = some text) : ofFile path (.ok content) = parse text := by
  simp only [ofFile, decoded]

end Config

namespace Service

/-- The configuration was read and accepted. -/
inductive Plan.Configured : Plan → Prop where
  | failed {cause : StartupError} (read : ∀ e, cause ≠ .load e) (valid : ∀ e, cause ≠ .config e) :
    Configured (.failed cause)
  | checked (path : String) : Configured (.checked path)
  | serve (path : String) (config : Config) (log : Log.Setup) : Configured (.serve path config log)

def proceed (line : CommandLine) (env : Environment) (c : Config) : Plan :=
  if line.validate then .checked line.configPath
  else match Log.setup c.general (env.text? "RUST_LOG") with
    | .error fault => .failed (.log fault)
    | .ok log => .serve line.configPath c log

variable {line : CommandLine} {env : Environment} {c file : Config}

theorem proceed_validate (asked : line.validate = true) : proceed line env c = .checked line.configPath :=
  if_pos asked

theorem configured_proceed : (proceed line env c).Configured := by
  unfold proceed
  split
  · exact .checked _
  · cases Log.setup c.general (env.text? "RUST_LOG") with
    | error fault => exact .failed nofun nofun
    | ok log => exact .serve _ _ _

/-- The layers without the command line are checked first, and then all of them. -/
theorem prepare_eq {content : Except IoError Bytes}
    (read : Config.ofFile (.ofString line.configPath) content = .ok file) :
    prepare line env content = match (Config.layered {} env file).validate with
      | .error e => .failed (.load e)
      | .ok () => match (Config.layered line env file).validate with
        | .error e => .failed (.config e)
        | .ok () => proceed line env (Config.layered line env file) := by
  simp only [prepare, Config.load, read]
  rw [← Config.applyEnvironment_eq]
  cases (file.applyEnvironment env).1.validate with
  | error e => rfl
  | ok => rw [← Config.applyCommandLine_eq]; rfl

/-- A configuration from a file passes its checks exactly if the layers as a whole are accepted and the layers
beneath the command line have a valid level and format. The service then uses the layers as a whole. -/
theorem configuration_layers {content : Bytes} {text : String} (decoded : Utf8.decode? content = some text)
    (read : Config.parse text = .ok file) :
    ((prepare line env (.ok content)).Configured ↔ (Config.layered line env file).validate = .ok () ∧
      (Config.layered {} env file).general.logLevel ∈ Config.levels ∧
      (Config.layered {} env file).general.logFormat ∈ Config.formats) ∧
    ((prepare line env (.ok content)).Configured →
      prepare line env (.ok content) = proceed line env (Config.layered line env file)) := by
  rw [prepare_eq ((Config.ofFile_eq decoded).trans read), Config.validate_eq_ok,
    ← Config.accepted_layered, ← Config.validate_eq_ok, ← Config.validate_eq_ok]
  have unread : ∀ e, ¬ (Plan.failed (.load e)).Configured := by
    rintro e ⟨read, -⟩
    exact read e rfl
  have invalid : ∀ e, ¬ (Plan.failed (.config e)).Configured := by
    rintro e ⟨-, valid⟩
    exact valid e rfl
  cases (Config.layered {} env file).validate with
  | error e =>
    exact ⟨⟨fun past => absurd past (unread e), nofun⟩, fun past => absurd past (unread e)⟩
  | ok => cases (Config.layered line env file).validate with
    | error e =>
      exact ⟨⟨fun past => absurd past (invalid e), nofun⟩, fun past => absurd past (invalid e)⟩
    | ok => exact ⟨⟨fun _ => ⟨rfl, rfl⟩, fun _ => configured_proceed⟩, fun _ => rfl⟩

theorem configuration_layers_environment :
    let file : Config := { general := { logLevel := "verbose" }, auditLog := { path := "/a" } }
    let env : Environment := [("WAFAUDIT_GENERAL_LOG_LEVEL", Utf8.encode "debug")]
    let line : CommandLine := { logFormat := some "pretty", validate := true }
    (Config.layered line env file).validate = .ok () ∧
      prepare line env (.ok (Utf8.encode file.toToml)) = .checked line.configPath := by
  intro file env line
  have accepted : (Config.layered line env file).validate = .ok () := by decide +kernel
  have beneath : (Config.layered {} env file).general.logLevel ∈ Config.levels ∧
      (Config.layered {} env file).general.logFormat ∈ Config.formats := by decide +kernel
  obtain ⟨passes, goes⟩ := @configuration_layers line env file _ _ (Utf8.decode?_eq_some file.toToml)
    (Config.parse_toToml file)
  exact ⟨accepted, (goes (passes.2 ⟨accepted, beneath⟩)).trans (proceed_validate rfl)⟩

/-- The command line replaces an invalid level of the file. The layers as a whole are accepted, but the
configuration is refused. -/
theorem configuration_layers_refused :
    let file : Config := { general := { logLevel := "verbose" }, auditLog := { path := "/a" } }
    let line : CommandLine := { logLevel := some "info" }
    Config.parse file.toToml = .ok file ∧ (Config.layered line [] file).validate = .ok () ∧
      prepare line [] (.ok (Utf8.encode file.toToml)) =
        .failed (.load (.config (.invalid "general.log_level" (Config.oneOf Config.levels)))) := by
  intro file line
  have read : Config.ofFile (.ofString line.configPath) (.ok (Utf8.encode file.toToml)) = .ok file :=
    (Config.ofFile_eq (Utf8.decode?_eq_some _)).trans (Config.parse_toToml file)
  have beneath : (Config.layered {} [] file).validate =
      .error (.config (.invalid "general.log_level" (Config.oneOf Config.levels))) := by decide +kernel
  refine ⟨Config.parse_toToml file, by decide +kernel, ?_⟩
  rw [prepare_eq read, beneath]

end Service

end AuditTrail
