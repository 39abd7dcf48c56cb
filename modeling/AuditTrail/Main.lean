import AuditTrail.Log.Line
import AuditTrail.Service
import Std.Async.Signal
import Std.Async.TCP
import Std.Time.DateTime.Timestamp

/-! The program: the service on the files of the system, from its arguments to a signal. Only this
module does input and output. -/
namespace AuditTrail.Main

def failureOf (e : IO.Error) : IoError :=
  match e with
  | .noFileOrDirectory .. => .ofKind .notFound
  | .alreadyExists .. => .ofKind .alreadyExists
  | .permissionDenied .. => .ofKind .permissionDenied
  | .interrupted .. => .ofKind .interrupted
  | _ => ⟨.other, toString e⟩

/-- Runs an action and returns its error as a value. -/
def attempt (action : IO α) : IO (Except IoError α) := do
  try return .ok (← action) catch e => return .error (failureOf e)

def entryOf (p : Path) : IO.FS.DirEntry := { root := ".", fileName := p.display }

def readFile (p : Path) : IO Bytes := do
  return (← IO.FS.readBinFile (entryOf p).path).toList

/-- The open files of rotations, by number. -/
abbrev Handles := IO.Ref (Array IO.FS.Handle)

def opened (handles : Handles) (p : Path) (mode : IO.FS.Mode) : IO Nat := do
  let handle ← IO.FS.Handle.mk (entryOf p).path mode
  let known ← handles.get
  handles.set (known.push handle)
  return known.size

def handle (handles : Handles) (n : Nat) : IO IO.FS.Handle := do
  match (← handles.get)[n]? with
  | some h => return h
  | none => throw (IO.userError "no such file is open")

def copy (source target : IO.FS.Handle) : IO Nat := do
  let content ← source.readBinToEnd
  target.write content
  return content.size

def request (handles : Handles) : Files.Request → IO Nat
  | .size p => return (← (entryOf p).path.metadata).byteSize.toNat
  | .openLive p => opened handles p .readWrite
  | .create p => opened handles p .writeNew
  | .copy source target => do copy (← handle handles source) (← handle handles target)
  | .sync n => do (← handle handles n).flush; return 0
  | .truncate n => do
    let h ← handle handles n
    h.rewind
    h.truncate
    return 0
  | .remove p => do IO.FS.removeFile (entryOf p).path; return 0

def wallClock : IO Moment := do
  return ⟨(← Std.Time.Timestamp.now).toNanosecondsSinceUnixEpoch.val⟩

def write (log : Log.Setup) (notes : Journal) : IO Unit := do
  let out ← IO.getStdout
  for e in notes.events do
    if log.filter.passes e then
      out.write ((Log.line e log.format ++ [Source.newline]).toByteArray)
  out.flush

partial def rotate (log : Log.Setup) (handles : Handles) (r : Rotator) (stage : Rotation.Stage) :
    IO (Except Failure Rotation.Rotated × Rotator) := do
  match stage with
  | .done outcome =>
    write log (Rotation.report r.live outcome)
    return (outcome, r)
  | _ => match stage.asks r.live with
    | none => return (.error (.task "rotation stands still"), r)
    | some q =>
      let answer ← attempt (request handles q)
      let next := stage.next r (← wallClock) answer
      write log (stage.notes r.live answer)
      rotate log handles (r.learn stage answer) next

def processOnce (log : Log.Setup) (p : Processor Unit) :
    IO (Except Failure (Option Summary) × Rotator) := do
  let handles ← IO.mkRef #[]
  let (tick, notes) := Processing.sized (σ := Unit) p.settings.path
    (← attempt (request handles (.size p.settings.path)))
  write log notes
  match tick with
  | .done outcome => return (outcome, p.rotator)
  | _ =>
    let (outcome, rotator) ← rotate log handles p.rotator .opening
    match outcome with
    | .error failure => return (.error failure, rotator)
    | .ok ⟨backup, _⟩ =>
      let source := match ← attempt (readFile backup) with
        | .ok content => [.bytes content]
        | .error cause => [.failed cause]
      let (outcome, _, notes) :=
        Dispatch.run p.handler backup p.settings.maxLineBytes.toNat source ()
      write log notes
      return (outcome.map some, rotator)

def listEntry (e : IO.FS.DirEntry) : IO (Bytes × Node) := do
  let node : Node := match (← e.path.symlinkMetadata).type with
    | .file => .file 0
    | _ => .directory
  return (Utf8.encode e.fileName, node)

/-- The backups of a live log. -/
def backups (live : Path) : IO (Except Failure (List Backup.Listed)) := do
  let read ← attempt (do (← (entryOf (Backup.dir live)).path.readDir).mapM listEntry)
  let regular : Files := { Files.empty with inodes := [.regular []] }
  return Backup.among regular live (read.map (·.toList))

partial def sweep (log : Log.Setup) (handles : Handles) (s : Sweep) : IO Sweep.Summary := do
  match s.pending, s.asks with
  | b :: _, some q =>
    let answer ← attempt (request handles q)
    write log (Sweep.notes b answer)
    sweep log handles (s.next answer)
  | _, _ => return s.summary

def expireOnce (log : Log.Setup) (p : Processor Unit) : IO (Except Failure Sweep.Summary) := do
  let now ← wallClock
  match ← backups p.settings.path with
  | .error failure => return .error failure
  | .ok found =>
    return .ok (← sweep log (← IO.mkRef #[]) (Sweep.ofList p.settings.retention now found))

def makeTick (log : Log.Setup) (p : Processor Unit) (tick : Tick Unit) :
    IO (Tick Unit × Rotator) := do
  match tick with
  | .processing .sizing =>
    let (outcome, rotator) ← processOnce log p
    return (.processing (.done outcome), rotator)
  | .sweeping => return (.swept (← expireOnce log p), p.rotator)
  | tick => return (tick, p.rotator)

partial def goOn (log : Log.Setup) (p : Processor Unit) (job : Job) (loop : JobLoop Unit) :
    IO (JobLoop Unit × Rotator) := do
  match loop.wake job (p.settings.period job) p.life.cancelled (← IO.monoNanosNow) with
  | some (loop, notes) => write log notes; goOn log p job loop
  | none => match loop with
    | .ticking tick due =>
      let (tick, rotator) ← makeTick log p tick
      goOn log { p with rotator } job (.ticking tick due)
    | loop => return (loop, p.rotator)

def turn (log : Log.Setup) (p : Processor Unit) : IO (Processor Unit) := do
  let mut p := p
  let mut loops := []
  for (job, loop) in p.loops do
    let (loop, rotator) ← goOn log p job loop
    p := { p with rotator }
    loops := loops ++ [(job, loop)]
  return { p with loops }

/-- How long a sleep lasts before the signals are checked again. -/
def glance : UInt32 := 50

def raised (signals : List (String × Task α)) : BaseIO (Option String) :=
  signals.findSomeM? fun (name, task) => do
    return if ← IO.hasFinished task then some name else none

partial def untilSignal (log : Log.Setup) (signals : List (String × Task α)) (p : Processor Unit) :
    IO (String × Processor Unit) := do
  let p ← turn log p
  match ← raised signals with
  | some name => return (name, p)
  | none =>
    IO.sleep glance
    untilSignal log signals p

/-- Signals the jobs to end; between ticks they do so at once. -/
def shutdown (log : Log.Setup) (deadline : Duration) (p : Processor Unit) :
    IO (Except StartupError Unit) := do
  write log [Service.stopping deadline]
  match p.life.stop with
  | .error failure => return .error (.job failure.toService)
  | .ok life =>
    write log [.event (Lifecycle.stopping deadline)]
    let p ← turn log { p with life }
    write log [.event (Lifecycle.ending deadline p.allEnded)]
    return (Lifecycle.verdict deadline p.allEnded).mapError fun f => .job f.toService

def socketAddress? (a : ListenAddress) : Option Std.Net.SocketAddress :=
  match a.ip with
  | .four bytes => (Std.Net.IPv4Addr.ofString (Ip.dotted bytes)).map (.v4 ⟨·, a.port⟩)
  | .six groups => (Std.Net.IPv6Addr.ofString (Ip.colons groups)).map (.v6 ⟨·, a.port⟩)

open Std.Async in
/-- Binds the address of the metrics. Connections wait there, as this program shows no metrics. -/
def listen (m : Config.Metrics) : IO (Except IoError (Option TCP.Socket.Server)) := do
  match m.enabled, (Exporter.address m).toOption.bind socketAddress? with
  | true, some address => attempt do
    let server ← TCP.Socket.Server.mk
    server.bind address
    server.listen 128
    return some server
  | _, _ => return .ok none

open Std.Async in
def serve (path : String) (c : Config) (log : Log.Setup) : IO (Except StartupError Unit) := do
  write log [.event log.initialized, Service.starting path]
  let listener ← IO.mkRef (← listen c.metrics)
  let refused := match ← listener.get with
    | .error cause => some cause.text
    | .ok _ => none
  let (service, notes) := Service.build refused Violations.handler c
  write log notes
  match service with
  | .error e => return .error e
  | .ok service =>
    let (outcome, p, notes) := Service.start service.processor
    write log notes
    match outcome with
    | .error e => return .error e
    | .ok () =>
      write log [Service.entering]
      let term ← (← Signal.Waiter.mk .sigterm false).wait
      let int ← (← Signal.Waiter.mk .sigint false).wait
      let (name, p) ← untilSignal log [("SIGTERM", term), ("SIGINT", int)] p
      write log [Service.signalled name]
      listener.set (.ok none)
      match ← shutdown log c.general.shutdownTimeout p with
      | .error e => return .error e
      | .ok () => write log [Service.ended]; return .ok ()

def environment : IO Environment := do
  let keys := "RUST_LOG" :: Config.overrides.map (·.key)
  keys.filterMapM fun key => do
    return (← IO.getEnv key).map fun value => (key, Utf8.encode value)

def fail (e : StartupError) : IO UInt32 := do
  IO.eprintln (Service.complaint e)
  return 1

def run (line : CommandLine) : IO UInt32 := do
  let content ← attempt (readFile (.ofString line.configPath))
  match Service.prepare line (← environment) content with
  | .failed e => fail e
  | .checked path => IO.println (Service.approval path); return 0
  | .serve path config log => match ← serve path config log with
    | .error e => fail e
    | .ok () => return 0

end AuditTrail.Main

open AuditTrail in
def main (args : List String) : IO UInt32 := do
  match CommandLine.parse args with
  | .ok line => Main.run line
  | .error refusal =>
    IO.println (Service.reply refusal)
    return UInt32.ofNat (Service.usageStatus refusal)
