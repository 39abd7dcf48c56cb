import AuditTrail.Duration
import AuditTrail.IoError
import AuditTrail.Path
import AuditTrail.Record.Wire

/-! Errors of rotation, processing and expiration, and of starting and stopping the jobs. -/
namespace AuditTrail

inductive Job where
  | processing | expiration
  deriving DecidableEq, Repr

def Job.name : Job → String
  | .processing => "processing"
  | .expiration => "expiration"

def Record.Fault.reason : Record.Fault → String
  | .malformed => "not an audit record"
  | .severity unknown => unknown.message

inductive Failure where
  | io (context : String) (cause : IoError)
  /-- A line that is no record, by its number. -/
  | line (number : Nat) (reason : String)
  /-- A file of which some lines failed. -/
  | records (path : Path) (failed processed : Nat)
  | handler (reason : String)
  | setting (field reason : String)
  | running (job : Job)
  | notRunning
  | stopped
  | timeout (deadline : Duration)
  | task (reason : String)
  deriving DecidableEq

def Failure.message : Failure → String
  | .io context cause => s!"io error: {context}: {cause.text}"
  | .line number reason => s!"parse error at line {number}: {reason}"
  | .records path failed processed =>
    s!"errors occurred during log processing: {path.display}: {failed} failed, {processed} processed"
  | .handler reason => s!"handler error: {reason}"
  | .setting field reason => s!"config error: {field}: {reason}"
  | .running job => s!"{job.name} job already running"
  | .notRunning => "processor not running"
  | .stopped => "processor already stopped; build a new processor to restart"
  | .timeout deadline => s!"shutdown timed out after {deadline.brief}"
  | .task reason => s!"task error: {reason}"

end AuditTrail
