import AuditTrail.Proofs.Config.Accepted
import AuditTrail.Proofs.Text
import AuditTrail.Service

/-! Whether a service starts from an accepted configuration. Logging can always be set up. The
metrics exporter and the processor check the configuration again by rules of their own.
`Config.Startable` collects these, and where it holds only the system can keep the service from
starting. -/
namespace AuditTrail

namespace Log

theorem ofText?_name (level : Level) : Threshold.ofText? level.name = some (some level) := by
  cases level <;> decide +kernel

/-- The derived filter sets the threshold for the program's own parts, and lets the others warn at most. -/
theorem parse?_derived (t : Threshold) : Filter.parse? (Filter.derived t) =
    some (⟨"", t.quiet, false⟩ :: Filter.ownTargets.map (⟨·, t, false⟩) ++
      Filter.quietTargets.map (⟨·, some .warn, false⟩)) := by
  rcases t with _ | _ | _ | _ | _ | _ <;> decide +kernel

end Log

namespace Config

variable {c : Config}

theorem Accepted.exists_level (accepted : c.Accepted) :
    ∃ level : Level, c.general.logLevel = level.name := by
  have named : ∀ text ∈ levels, ∃ level ∈ [Level.trace, .debug, .info, .warn, .error],
      text = level.name := by decide
  obtain ⟨level, -, same⟩ := named _ accepted.level
  exact ⟨level, same⟩

theorem Accepted.exists_format (accepted : c.Accepted) :
    ∃ format, Log.Format.ofText c.general.logFormat = .ok format := by
  have known : ∀ text ∈ formats, text = "json" ∨ text = "pretty" := by decide
  rcases known _ accepted.format with named | named <;> rw [named]
  · exact ⟨.json, rfl⟩
  · exact ⟨.pretty, rfl⟩

theorem Accepted.exists_setup (accepted : c.Accepted) : ∃ log, Log.setup c.general none = .ok log := by
  obtain ⟨level, named⟩ := accepted.exists_level
  obtain ⟨format, read⟩ := accepted.exists_format
  have text : Log.filterText c.general.logLevel none = .ok (Log.Filter.derived (some level)) := by
    rw [named, Log.filterText, Option.filter_none, Log.ofText?_name]
  simp only [Log.setup, read, text, bind, Except.bind, Log.parse?_derived]
  exact ⟨_, rfl⟩

/-- What the metrics listener and the processor require beyond `validate`. -/
structure Startable (c : Config) : Prop where
  endpoint : c.metrics.enabled = true → c.metrics.endpoint = Exporter.endpoint
  address : c.metrics.enabled = true → (Ip.parse? c.metrics.listenAddr).isSome
  file : c.settings.path.fileName?.isSome

theorem Accepted.path_bytes_ne (accepted : c.Accepted) : c.settings.path.bytes ≠ [] := by
  intro empty
  have none_ : c.auditLog.path = "" := Utf8.encode_injective empty
  exact accepted.path_ne (by rw [none_]; rfl)

theorem Accepted.validate_settings (accepted : c.Accepted) :
    c.settings.validate = .ok () ↔ c.settings.path.fileName?.isSome := by
  rw [Settings.validate_eq_ok]
  exact ⟨fun valid => valid.2.1, fun named => ⟨accepted.path_bytes_ne, named, accepted.room⟩⟩

theorem Accepted.validate_settings_nameless (accepted : c.Accepted) (nameless : c.settings.path.fileName? = none) :
    c.settings.validate = .error (.setting "path" s!"'{c.settings.path.display}' does not name a file") := by
  have present : c.settings.path.bytes ≠ [] := accepted.path_bytes_ne
  rw [Settings.validate, if_neg (by rwa [List.isEmpty_iff]), if_pos (by rw [nameless]; rfl)]

end Config

namespace Service

variable {σ : Type} {handler : Handler σ} {refused : Option String} {c : Config}

theorem listen_eq_ok : (listen refused c.metrics).1 = .ok () ↔ (c.metrics.enabled = true →
    c.metrics.endpoint = Exporter.endpoint ∧ (Ip.parse? c.metrics.listenAddr).isSome ∧ refused = none) := by
  unfold listen Exporter.install Exporter.address
  cases c.metrics.enabled <;> by_cases served : c.metrics.endpoint = Exporter.endpoint <;>
    cases Ip.parse? c.metrics.listenAddr <;> cases refused <;> simp [served]

theorem listen_unserved (shown : c.metrics.enabled = true) (unserved : c.metrics.endpoint ≠ Exporter.endpoint) :
    (listen refused c.metrics).1 = .error (.metrics (.endpoint c.metrics.endpoint)) := by
  simp only [listen, shown, Exporter.install, if_pos unserved, Bool.not_true, Bool.false_eq_true, if_false]

theorem listen_unknown (shown : c.metrics.enabled = true) (served : c.metrics.endpoint = Exporter.endpoint)
    (unknown : Ip.parse? c.metrics.listenAddr = none) :
    (listen refused c.metrics).1 = .error (.metrics .address) := by
  simp only [listen, shown, Exporter.install, served, Exporter.address, unknown, Bool.not_true,
    Bool.false_eq_true, if_false, ne_eq, not_true_eq_false]

theorem listen_refused (shown : c.metrics.enabled = true) (served : c.metrics.endpoint = Exporter.endpoint)
    (known : (Ip.parse? c.metrics.listenAddr).isSome) (reason : String) :
    (listen (some reason) c.metrics).1 = .error (.metrics (.recorder reason)) := by
  obtain ⟨ip, read⟩ := Option.isSome_iff_exists.1 known
  simp only [listen, shown, Exporter.install, served, Exporter.address, read, Bool.not_true,
    Bool.false_eq_true, if_false, ne_eq, not_true_eq_false]

theorem fst_build (accepted : c.validate = .ok ()) : (build refused handler c).1 =
    (listen refused c.metrics).1.bind fun () =>
      ((Processor.build c.settings handler).mapError fun failure => .build failure.toService).map
        (ofProcessor c) := by
  unfold build
  rw [accepted]
  rcases listen refused c.metrics with ⟨_ | _, notes⟩
  · rfl
  · cases Processor.build c.settings handler <;> rfl

theorem build_of_listen {fault : StartupError} (accepted : c.validate = .ok ())
    (silent : (listen refused c.metrics).1 = .error fault) :
    (build refused handler c).1 = .error fault := by
  rw [fst_build accepted, silent]
  rfl

def fresh (handler : Handler σ) (c : Config) : Processor σ :=
  { settings := c.settings, handler, rotator := { live := c.settings.path } }

theorem build_of_valid (accepted : c.validate = .ok ()) (listening : (listen refused c.metrics).1 = .ok ())
    (valid : c.settings.validate = .ok ()) :
    (build refused handler c).1 = .ok (ofProcessor c (fresh handler c)) := by
  rw [fst_build accepted, listening, Processor.build_eq_ok valid]
  rfl

theorem build_of_setting {failure : Failure} (accepted : c.validate = .ok ())
    (listening : (listen refused c.metrics).1 = .ok ()) (invalid : c.settings.validate = .error failure) :
    (build refused handler c).1 = .error (.build failure.toService) := by
  rw [fst_build accepted, listening, Processor.build, invalid]
  rfl

theorem listening_of_build {s : Service σ} (accepted : c.validate = .ok ())
    (built : (build refused handler c).1 = .ok s) :
    (listen refused c.metrics).1 = .ok () ∧ c.settings.validate = .ok () := by
  cases listening : (listen refused c.metrics).1 with
  | error fault => rw [build_of_listen accepted listening] at built; cases built
  | ok => cases valid : c.settings.validate with
    | error failure => rw [build_of_setting accepted listening valid] at built; cases built
    | ok => exact ⟨rfl, rfl⟩

theorem start_fresh (handler : Handler σ) (c : Config) : (start (fresh handler c)).1 = .ok () := by
  cases first : c.settings.enabled .processing <;> cases second : c.settings.enabled .expiration <;>
    simp [start, fresh, Processor.startAll, Processor.start, Lifecycle.start, Phase.isOver, first, second]

end Service

/-- The log of an accepted configuration can be set up, and the service comes up exactly if the configuration
is startable, unless the system refuses the listener. Otherwise the build fails with the error of the failing
check, the listener's before the processor's. -/
theorem accepted_starts {σ : Type} (handler : Handler σ) {c : Config} (accepted : c.validate = .ok ()) :
    (∃ log, Log.setup c.general none = .ok log) ∧
    ((∃ s, (Service.build none handler c).1 = .ok s) ↔ c.Startable) ∧
    (c.Startable → ∀ refused,
      (∃ s, (Service.build refused handler c).1 = .ok s ∧ (Service.start s.processor).1 = .ok ()) ∨
      ∃ reason, refused = some reason ∧ c.metrics.enabled = true ∧
        (Service.build refused handler c).1 = .error (.metrics (.recorder reason))) ∧
    ∀ refused,
      (c.metrics.enabled = true → c.metrics.endpoint ≠ Exporter.endpoint →
        (Service.build refused handler c).1 = .error (.metrics (.endpoint c.metrics.endpoint))) ∧
      (c.metrics.enabled = true → c.metrics.endpoint = Exporter.endpoint →
        Ip.parse? c.metrics.listenAddr = none →
        (Service.build refused handler c).1 = .error (.metrics .address)) ∧
      (c.settings.path.fileName? = none → (Service.listen refused c.metrics).1 = .ok () →
        (Service.build refused handler c).1 = .error (.build (.config
          (.invalid "path" s!"'{c.settings.path.display}' does not name a file")))) := by
  have sound := Config.validate_eq_ok.1 accepted
  have starts : ∀ refused, (Service.listen refused c.metrics).1 = .ok () →
      c.settings.path.fileName?.isSome → ∃ s, (Service.build refused handler c).1 = .ok s ∧
        (Service.start s.processor).1 = .ok () := by
    intro refused listening named
    exact ⟨_, Service.build_of_valid accepted listening (sound.validate_settings.2 named),
      Service.start_fresh handler c⟩
  refine ⟨sound.exists_setup, ⟨?_, ?_⟩, ?_, fun refused => ⟨?_, ?_, ?_⟩⟩
  · rintro ⟨s, built⟩
    obtain ⟨listening, valid⟩ := Service.listening_of_build accepted built
    have asked := Service.listen_eq_ok.1 listening
    exact ⟨fun shown => (asked shown).1, fun shown => (asked shown).2.1, sound.validate_settings.1 valid⟩
  · rintro ⟨served, known, named⟩
    have listening := Service.listen_eq_ok.2 fun shown => ⟨served shown, known shown, rfl⟩
    obtain ⟨s, built, -⟩ := starts none listening named
    exact ⟨s, built⟩
  · rintro ⟨served, known, named⟩ refused
    by_cases shown : c.metrics.enabled = true
    · cases refused with
      | none =>
        exact .inl (starts none (Service.listen_eq_ok.2 fun _ => ⟨served shown, known shown, rfl⟩) named)
      | some reason =>
        have silent := Service.listen_refused shown (served shown) (known shown) reason
        exact .inr ⟨reason, rfl, shown, Service.build_of_listen accepted silent⟩
    · exact .inl (starts refused (Service.listen_eq_ok.2 fun asked => absurd asked shown) named)
  · intro shown unserved
    exact Service.build_of_listen accepted (Service.listen_unserved shown unserved)
  · intro shown served unknown
    exact Service.build_of_listen accepted (Service.listen_unknown shown served unknown)
  · intro nameless listening
    exact Service.build_of_setting accepted listening (sound.validate_settings_nameless nameless)

theorem accepted_starts_taken :
    let c : Config := { auditLog := { path := "logs/audit.log" }, metrics := { listenAddr := "::1" } }
    c.validate = .ok () ∧ (∃ log, Log.setup c.general none = .ok log) ∧ c.Startable ∧
      (∃ s, (Service.build none Violations.handler c).1 = .ok (s : Service Unit)) ∧
      (Service.build (some "in use") (Violations.handler : Handler Unit) c).1 =
        .error (.metrics (.recorder "in use")) := by
  intro c
  have accepted : c.validate = .ok () := by decide +kernel
  have startable : c.Startable :=
    ⟨fun _ => rfl, fun _ => by decide +kernel, by decide +kernel⟩
  obtain ⟨log, up, system, -⟩ := accepted_starts (Violations.handler : Handler Unit) accepted
  refine ⟨accepted, log, startable, up.2 startable, ?_⟩
  rcases system startable (some "in use") with ⟨s, built, -⟩ | ⟨reason, same, -, built⟩
  · rw [Service.build_of_listen accepted
      (Service.listen_refused rfl rfl (by decide +kernel) "in use")] at built
    cases built
  · obtain rfl := Option.some.inj same
    exact built

/-- Accepted configurations with an unsupported endpoint, a host name as address, and a path without a file
name. -/
theorem accepted_not_started :
    (∃ c : Config, c.validate = .ok () ∧ ∀ refused, (Service.build refused
      (Violations.handler : Handler Unit) c).1 = .error (.metrics (.endpoint "/scrape"))) ∧
    (∃ c : Config, c.validate = .ok () ∧ ∀ refused, (Service.build refused
      (Violations.handler : Handler Unit) c).1 = .error (.metrics .address)) ∧
    ∃ c : Config, c.validate = .ok () ∧ ∀ refused, (Service.build refused
      (Violations.handler : Handler Unit) c).1 =
        .error (.build (.config (.invalid "path" "'/' does not name a file"))) := by
  refine ⟨⟨{ auditLog := { path := "/a" }, metrics := { endpoint := "/scrape" } }, ?_, fun refused => ?_⟩,
    ⟨{ auditLog := { path := "/a" }, metrics := { listenAddr := "localhost" } }, ?_, fun refused => ?_⟩,
    ⟨{ auditLog := { path := "/" }, metrics := { enabled := false } }, ?_, fun refused => ?_⟩⟩
  · decide +kernel
  · exact Service.build_of_listen (by decide +kernel) rfl
  · decide +kernel
  · exact Service.build_of_listen (by decide +kernel) rfl
  · decide +kernel
  · have unnamed : (Config.settings
        { auditLog := { path := "/" }, metrics := { enabled := false } }).validate =
        .error (.setting "path" "'/' does not name a file") := by decide +kernel
    exact Service.build_of_setting (by decide +kernel) rfl unnamed

end AuditTrail
