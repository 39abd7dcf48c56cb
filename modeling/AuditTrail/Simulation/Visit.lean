import AuditTrail.Simulation.Basic

/-! The actions of a visitor in a simulation. While it waits the jobs go on; if it waits for a lock
that it holds itself, or before a closed gate, it gets no answer. -/
namespace AuditTrail.Simulation

def rotate (lock : Nat) (r : Rotator) (s : Simulation) :
    Option (Except Failure Rotation.Rotated) × Rotator × Simulation :=
  let s := s.settle
  if !(s.lock lock).isFree then (none, r, s)
  else
    let w := Rotation.finish s.now { rotator := r, files := s.files, notes := s.scene.notes }
    let s := { s with scene := { s.scene with files := w.files, notes := w.notes } }
    match w.stage.outcome? with
    | none => (none, w.rotator, s)
    | some outcome => (some outcome, w.rotator, s.note (Rotation.report r.live outcome))

def hasPending (live : Path) (s : Simulation) : Except Failure Bool :=
  Rotation.pending live (s.files.answer (.size live)).1

def processFile (path : Path) (limit : Nat) (audience : Audience) (s : Simulation) :
    Except Failure Summary × Simulation :=
  let s := s.settle
  match s.files.source path with
  | .error cause => (.error (Processing.unopened path cause), s)
  | .ok source =>
    let (outcome, state, notes) := Dispatch.run audience.handler path limit source s.scene.state
    (outcome, { s with scene := { s.scene with state } }.note notes)

/-- Removes old backups of a live log, at a given moment that need not be the present. -/
def sweep (live : Path) (retention : Duration) (now : Moment) (s : Simulation) :
    Except Failure Sweep.Summary × Simulation :=
  let (outcome, files, notes) := Sweep.run s.files live retention now
  (outcome, (s.withFiles files).note notes)

/-- One tick of the processing job on request. -/
def processOnce (m : Nat) (s : Simulation) :
    Option (Except Failure (Option Summary)) × Simulation :=
  let s := s.settle
  match s.members[m]? with
  | none => (none, s)
  | some member =>
    let (tick, rotator, s) := s.advanceTick member .sizing
    let (tick, rotator, s) := match tick with
      | .waiting =>
        if (s.lock member.lock).isFree then s.advanceTick member (.rotating .opening)
        else (tick, rotator, s)
      | tick => (tick, rotator, s)
    let s := s.setProcessor m { member.processor with rotator }
    match tick with
    | .done outcome => (some outcome, s)
    | _ => (none, s)

def expireOnce (m : Nat) (s : Simulation) : Option (Except Failure Sweep.Summary) × Simulation :=
  let s := s.settle
  match s.members[m]? with
  | none => (none, s)
  | some member =>
    let settings := member.processor.settings
    let (outcome, s) := s.sweep settings.path settings.retention s.now
    (some outcome, s)

def startJob (m : Nat) (job : Job) (s : Simulation) : Option (Except Failure Unit) × Simulation :=
  match s.members[m]? with
  | none => (none, s)
  | some member => match member.processor.start job with
    | .error failure => (some (.error failure), s)
    | .ok p =>
      (some (.ok ()), (s.setProcessor m p).note (Lifecycle.notes p.settings job))

/-- Drops a member; its jobs end when they see it. -/
def abandon (m : Nat) (s : Simulation) : Simulation :=
  match s.members[m]? with
  | none => s
  | some { processor := p, .. } => s.setProcessor m { p with life := p.life.abandon }

def isEnded (m : Nat) (s : Simulation) : Bool :=
  (s.members[m]?).elim true (·.processor.allEnded)

def openGate (s : Simulation) : Simulation := { s with gateOpen := true }

/-- Waits for the jobs of a member to end. The gate may be opened meanwhile, at a given moment. -/
def awaitEnd (m : Nat) (limit : Nat) (gateAt : Option Nat) (s : Simulation) : Simulation :=
  match gateAt with
  | none => s.passUntil (isEnded m) limit
  | some t =>
    let s := s.passUntil (isEnded m) (min t limit)
    if s.isEnded m || limit < t then s else s.openGate.passUntil (isEnded m) limit

def stop (m : Nat) (deadline : Duration) (gateAfter : Option Nat) (s : Simulation) :
    Option (Except Failure Unit) × Simulation :=
  match s.members[m]? with
  | none => (none, s)
  | some { processor := p, .. } => match p.life.stop with
    | .error failure => (some (.error failure), s)
    | .ok life =>
      let s := (s.setProcessor m { p with life }).note [.event (Lifecycle.stopping deadline)]
      let s := s.awaitEnd m (s.elapsed + deadline.nanos) (gateAfter.map (s.elapsed + ·))
      let ended := s.isEnded m
      let s := match s.members[m]? with
        | none => s
        | some { processor := p, .. } => s.setProcessor m { p with life := p.life.settle ended }
      (some (Lifecycle.verdict deadline ended), s.note [.event (Lifecycle.ending deadline ended)])

def waiting (s : Simulation) : Nat :=
  (s.members.flatMap fun member => member.processor.loops.filter fun (_, loop) =>
    match loop with
    | .ticking (.processing tick) _ =>
      match tick with
      | .reading .. => !tick.canStep (s.admits member.audience)
      | _ => false
    | _ => false).length

def entered (s : Simulation) : Nat := s.scene.state.passed + s.waiting

end AuditTrail.Simulation
