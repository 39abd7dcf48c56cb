import AuditTrail.Journal

/-! The exported metrics: names, kinds, descriptions and labels. -/
namespace AuditTrail

inductive Metric.Kind where
  | counter | gauge | histogram
  deriving DecidableEq, Repr

structure Metric where
  name : String
  kind : Metric.Kind
  description : String
  deriving DecidableEq, Repr

namespace Metric

def transactions : Metric := ⟨"wafaudit_audit_log_transactions_total", .counter,
  "The total number of audit log transactions with rule violations processed"⟩

def ruleViolations : Metric := ⟨"wafaudit_audit_log_rule_violations_total", .counter,
  "The total number of audit log rule violations"⟩

def rotations : Metric := ⟨"wafaudit_audit_log_rotations_total", .counter,
  "Total number of live audit log rotations"⟩

def recordsProcessed : Metric := ⟨"wafaudit_audit_log_records_processed_total", .counter,
  "Total number of audit records dispatched to the record handler"⟩

def linesFailed : Metric := ⟨"wafaudit_audit_log_lines_failed_total", .counter,
  "Total number of audit log lines that failed to parse or handle"⟩

def backupsExpired : Metric := ⟨"wafaudit_audit_log_backups_expired_total", .counter,
  "Total number of backup audit log files deleted by retention"⟩

def processingDuration : Metric := ⟨"wafaudit_audit_log_processing_duration_seconds", .histogram,
  "Time to parse and handle a single backup audit log file in seconds"⟩

def uptime : Metric := ⟨"wafaudit_daemon_uptime_seconds", .gauge,
  "wafaudit daemon uptime in seconds"⟩

def buildInfo : Metric := ⟨"wafaudit_daemon_build_info", .gauge,
  "Build information (always 1, with version label)"⟩

/-- In the order in which they are described to the exporter. -/
def all : List Metric := [transactions, ruleViolations, rotations, recordsProcessed, linesFailed,
  backupsExpired, processingDuration, uptime, buildInfo]

end Metric

namespace Counter

def metric : Counter → Metric
  | .transactions _ _ => .transactions
  | .ruleViolations _ _ => .ruleViolations
  | .rotations _ => .rotations
  | .recordsProcessed => .recordsProcessed
  | .linesFailed => .linesFailed
  | .backupsExpired => .backupsExpired

def requestLabels (l : Labels) : List (String × String) :=
  [("host", l.host), ("method", l.method), ("path", l.path)]

/-- In the order of the label names. -/
def labels : Counter → List (String × String)
  | .transactions l status => requestLabels l ++ [("status_code", status)]
  | .ruleViolations l rule => requestLabels l ++ [("rule_id", rule)]
  | .rotations true => [("result", "success")]
  | .rotations false => [("result", "failure")]
  | .recordsProcessed | .linesFailed | .backupsExpired => []

end Counter
end AuditTrail
