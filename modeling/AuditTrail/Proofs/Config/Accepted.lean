import AuditTrail.Config.Basic
import AuditTrail.Processor
import Mathlib.Tactic.SplitIfs

/-! Which configurations and settings the checks accept. -/
namespace AuditTrail

theorem Settings.validate_eq_ok {s : Settings} : s.validate = .ok () ↔
    s.path.bytes ≠ [] ∧ s.path.fileName?.isSome ∧ s.maxLineBytes ≠ 0 := by
  unfold validate
  split_ifs with empty unnamed none_ <;> simp_all [Option.isSome_iff_ne_none]

theorem Processor.build_eq_ok {σ : Type} {handler : Handler σ} {s : Settings}
    (valid : s.validate = .ok ()) :
    build s handler = .ok { settings := s, handler, rotator := { live := s.path } } := by
  rw [build, valid]

namespace Config

variable {c : Config}

/-- A configuration without a fault. The address and the endpoint matter only if metrics are enabled. -/
structure Accepted (c : Config) : Prop where
  level : c.general.logLevel ∈ levels
  format : c.general.logFormat ∈ formats
  timeout : c.general.shutdownTimeout.isZero = false
  path : Unicode.trimChars c.auditLog.path.toList ≠ []
  room : c.auditLog.maxLineBytes ≠ 0
  port : c.metrics.enabled = true → c.metrics.port ≠ 0
  endpoint : c.metrics.enabled = true → c.metrics.endpoint.toList.head? = some '/'

theorem fault?_eq_none : c.fault? = none ↔ c.Accepted := by
  unfold fault?
  constructor
  · intro sound
    split_ifs at sound <;> constructor <;> simp_all
  · rintro ⟨level, format, timeout, path, room, port, endpoint⟩
    cases shown : c.metrics.enabled <;> simp_all

theorem validate_eq_ok : c.validate = .ok () ↔ c.Accepted := by
  rw [← fault?_eq_none, validate]
  cases c.fault? <;> simp

theorem Accepted.path_ne (accepted : c.Accepted) : c.auditLog.path.toList ≠ [] := by
  intro empty
  exact accepted.path (by rw [empty]; rfl)

end Config
end AuditTrail
