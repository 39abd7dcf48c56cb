import AuditTrail.Unicode.Lowercase

/-! The eight severities of a rule, numbered from the gravest. -/
namespace AuditTrail

inductive Severity where
  | emergency | alert | critical | error | warning | notice | info | debug
  deriving DecidableEq, Repr

namespace Severity

def level : Severity → Nat
  | .emergency => 0
  | .alert => 1
  | .critical => 2
  | .error => 3
  | .warning => 4
  | .notice => 5
  | .info => 6
  | .debug => 7

def ofLevel? : Nat → Option Severity
  | 0 => some .emergency
  | 1 => some .alert
  | 2 => some .critical
  | 3 => some .error
  | 4 => some .warning
  | 5 => some .notice
  | 6 => some .info
  | 7 => some .debug
  | _ => none

def name : Severity → String
  | .emergency => "emergency"
  | .alert => "alert"
  | .critical => "critical"
  | .error => "error"
  | .warning => "warning"
  | .notice => "notice"
  | .info => "info"
  | .debug => "debug"

inductive Unknown where
  | level (n : Nat)
  | name (lowered : String)
  deriving DecidableEq, Repr

def Unknown.message : Unknown → String
  | .level n => s!"unknown rule severity level {n}"
  | .name lowered => s!"unknown rule severity '{lowered}'"

/-- Names are read without regard to case. -/
def ofName (text : String) : Except Unknown Severity :=
  match Unicode.lowercase text with
  | "emergency" => .ok .emergency
  | "alert" => .ok .alert
  | "critical" => .ok .critical
  | "error" => .ok .error
  | "warning" => .ok .warning
  | "notice" => .ok .notice
  | "info" => .ok .info
  | "debug" => .ok .debug
  | lowered => .error (.name lowered)

theorem ofLevel?_level (s : Severity) : ofLevel? s.level = some s := by cases s <;> rfl

theorem level_lt (s : Severity) : s.level < 8 := by cases s <;> decide

/-- The gravest first. -/
instance : LE Severity := ⟨fun a b => a.level ≤ b.level⟩

instance (a b : Severity) : Decidable (a ≤ b) := inferInstanceAs (Decidable (a.level ≤ b.level))

end Severity
end AuditTrail
