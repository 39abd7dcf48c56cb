import AuditTrail.Config.Basic
import AuditTrail.Journal
import AuditTrail.ListenAddress

/-! The metrics exporter: a listener at the configured address that serves one path. -/
namespace AuditTrail.Exporter

inductive Fault where
  | endpoint (text : String)
  | address
  | recorder (reason : String)
  deriving DecidableEq, Repr

def Fault.message : Fault → String
  | .endpoint text =>
    s!"unsupported metrics endpoint '{text}': only '/metrics' is currently supported"
  | .address => "invalid metrics listen address: invalid IP address syntax"
  | .recorder reason => s!"failed to install metrics recorder: {reason}"

def endpoint : String := "/metrics"

def address (m : Config.Metrics) : Except Fault ListenAddress :=
  match Ip.parse? m.listenAddr with
  | some ip => .ok ⟨ip, m.port⟩
  | none => .error .address

def told (level : Level) (message : String) (a : ListenAddress) : Note :=
  .event ⟨level, .metricsServer, message, [("listen_addr", .text a.text)]⟩

def exposed (a : ListenAddress) : Journal :=
  if a.ip.isUnspecified then
    [told .warn "metrics endpoint is exposed on all interfaces; restrict listen_addr in untrusted networks" a]
  else []

/-- Starts the listener; `refused` is an error of the system. -/
def install (refused : Option String) (m : Config.Metrics) : Except Fault Unit × Journal :=
  if m.endpoint ≠ endpoint then (.error (.endpoint m.endpoint), [])
  else match address m with
    | .error e => (.error e, [])
    | .ok a =>
      let before := exposed a ++ [told .info "installing Prometheus metrics recorder" a]
      match refused with
      | some reason => (.error (.recorder reason), before)
      | none => (.ok (), before ++ [told .info "Prometheus metrics endpoint active" a])

end AuditTrail.Exporter
