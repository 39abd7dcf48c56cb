import AuditTrail.Proofs.Dispatch
import AuditTrail.Proofs.Site.Conservation
import AuditTrail.Tick

/-! The live log of a processor with any number of processing ticks and writers, which share one
lock. Every step of a tick is a step of `Processing.Course`. `SharedLog.Shows` relates it to a
`Site`, so that the theorems about sites apply. -/
namespace AuditTrail

variable {σ : Type}

/-- A user of the live log: a writer or a tick. A writer with the lock keeps what it has appended since, and a
queued tick has seen data and waits for the lock. -/
inductive LogUser (σ : Type) where
  | away
  | waiting
  | writing (fresh : Bytes)
  | ticking (tick : Processing (σ × List Record))
  | queued

/-- A live log shared by ticks and writers under one lock. The state of the handler comes with the records
handed to it so far, and `written` is everything that was appended. -/
structure SharedLog (σ : Type) where
  scene : Scene (σ × List Record)
  rotator : Rotator
  lock : Lock Nat := {}
  users : Nat → LogUser σ := fun _ => .away
  written : Bytes := []

namespace Processing

/-- Whether a tick can make a step. A request may meet a fault until the backup is returned, but not the
reading of the backup. -/
def goes (fault : Option Files.Fault) : Processing σ → Bool
  | .sizing | .rotating _ => true
  | .opening _ | .reading .. => fault.isNone
  | .waiting | .done _ => false

/-- Whether the next step of a tick releases the lock. -/
def releases : Processing σ → Bool
  | .rotating (.done _) => true
  | _ => false

end Processing

inductive LogAction where
  | ask (v : Nat)
  | enter (v : Nat)
  | append (v : Nat) (bytes : Bytes)
  | leave (v : Nat)
  | begin (v : Nat)
  | carry (v : Nat) (now : Moment) (fault : Option Files.Fault)
  | finish (v : Nat)

def LogAction.user : LogAction → Nat
  | .ask v | .enter v | .append v _ | .leave v | .begin v | .carry v _ _ | .finish v => v

namespace SharedLog

def heard (w : SharedLog σ) : List Record := w.scene.state.2

def fresh (files : Files) (state : σ) (live : Path) : SharedLog σ where
  scene := { files, state := (state, []) }
  rotator := { live }

def host (w : SharedLog σ) (v : Nat) (user : LogUser σ) : SharedLog σ :=
  { w with users := Function.update w.users v user }

def carry (handler : Handler σ) (settings : Settings) (w : SharedLog σ) (v : Nat)
    (tick : Processing (σ × List Record)) (now : Moment) (fault : Option Files.Fault) : SharedLog σ :=
  let course := Processing.Course.step (Dispatch.recorded handler) settings now fault
    ⟨tick, w.rotator, w.scene⟩
  { w.host v (.ticking course.tick) with
    scene := course.scene
    rotator := course.rotator
    lock := if tick.releases then w.lock.release else w.lock }

/-- The state after an action, if it is possible. A writer releases the lock only after whole lines. -/
def act (handler : Handler σ) (settings : Settings) (w : SharedLog σ) : LogAction → Option (SharedLog σ)
  | .ask v => match w.users v with
    | .away => some { w.host v .waiting with lock := w.lock.request v }
    | .ticking .waiting => some { w.host v .queued with lock := w.lock.request v }
    | _ => none
  | .enter v =>
    if w.lock.holder = some v then match w.users v with
      | .waiting => some (w.host v (.writing []))
      | .queued => some (w.host v (.ticking (Processing.grant .waiting)))
      | _ => none
    else none
  | .append v bytes => match w.users v, w.scene.files.append settings.path bytes with
    | .writing fresh, .ok files =>
      some { w.host v (.writing (fresh ++ bytes)) with
             scene := { w.scene with files }
             written := w.written ++ bytes }
    | _, _ => none
  | .leave v => match w.users v with
    | .writing fresh =>
      if Lines.Closed fresh then some { w.host v .away with lock := w.lock.release } else none
    | _ => none
  | .begin v => match w.users v with
    | .away => some (w.host v (.ticking .sizing))
    | _ => none
  | .carry v now fault => match w.users v with
    | .ticking tick =>
      if tick.goes fault then some (w.carry handler settings v tick now fault) else none
    | _ => none
  | .finish v => match w.users v with
    | .ticking (.done _) => some (w.host v .away)
    | _ => none

def play (handler : Handler σ) (settings : Settings) (w : SharedLog σ) : List LogAction → Option (SharedLog σ)
  | [] => some w
  | d :: rest => (w.act handler settings d).bind fun w' => w'.play handler settings rest

inductive Run (handler : Handler σ) (settings : Settings) (allowed : SharedLog σ → LogAction → Prop)
    (start : SharedLog σ) : SharedLog σ → Prop where
  | here : Run handler settings allowed start start
  | next {w w' : SharedLog σ} {d : LogAction} (run : Run handler settings allowed start w)
      (fair : allowed w d) (acted : w.act handler settings d = some w') :
      Run handler settings allowed start w'

theorem run_of_play {handler : Handler σ} {settings : Settings} {start w w' : SharedLog σ}
    {actions : List LogAction} (run : Run handler settings (fun _ _ => True) start w)
    (played : w.play handler settings actions = some w') :
    Run handler settings (fun _ _ => True) start w' := by
  induction actions generalizing w with
  | nil =>
    obtain rfl := Option.some.inj played
    exact run
  | cons d rest ih =>
    obtain ⟨middle, acted, onward⟩ := Option.bind_eq_some_iff.1 played
    exact ih (run.next trivial acted) onward

end SharedLog

/-- How a user appears to a site. -/
def LogUser.Stands : LogUser σ → Visit → Prop
  | .away, visit => visit = .away
  | .waiting, visit | .queued, visit => visit = .waiting
  | .writing _, visit => visit = .writing
  | .ticking (.rotating stage), visit => ∃ t, visit = .rotating t ∧ t.stage = stage
  | .ticking _, visit => visit = .away

namespace SharedLog

/-- A shared log seen as a site in which all visitors share one rotator and its lock. -/
structure Shows (live : Path) (w : SharedLog σ) (s : Site) : Prop where
  files : s.files = w.scene.files
  lock : s.locks 0 = w.lock
  rotator : w.rotator = ⟨live, s.last 0⟩
  written : s.past.written = w.written
  users : ∀ v, (w.users v).Stands (s.visits v)

variable {handler : Handler σ} {settings : Settings} {live : Path} {w w' : SharedLog σ} {s s' : Site}
  {v u : Nat} {user : LogUser σ} {visit : Visit}

@[simp] theorem users_host : (w.host v user).users u = if u = v then user else w.users u := by
  simp only [host, Function.update_apply]

inductive Comes (handler : Handler σ) (settings : Settings) (w : SharedLog σ) :
    LogAction → SharedLog σ → Prop where
  | ask {v : Nat} (here : w.users v = .away) :
      Comes handler settings w (.ask v) { w.host v .waiting with lock := w.lock.request v }
  | queue {v : Nat} (here : w.users v = .ticking .waiting) :
      Comes handler settings w (.ask v) { w.host v .queued with lock := w.lock.request v }
  | write {v : Nat} (granted : w.lock.holder = some v) (here : w.users v = .waiting) :
      Comes handler settings w (.enter v) (w.host v (.writing []))
  | rotate {v : Nat} (granted : w.lock.holder = some v) (here : w.users v = .queued) :
      Comes handler settings w (.enter v) (w.host v (.ticking (Processing.grant .waiting)))
  | append {v : Nat} {bytes fresh : Bytes} {files : Files} (here : w.users v = .writing fresh)
      (appended : w.scene.files.append settings.path bytes = .ok files) :
      Comes handler settings w (.append v bytes)
        { w.host v (.writing (fresh ++ bytes)) with
          scene := { w.scene with files }
          written := w.written ++ bytes }
  | leave {v : Nat} {fresh : Bytes} (here : w.users v = .writing fresh) (whole : Lines.Closed fresh) :
      Comes handler settings w (.leave v) { w.host v .away with lock := w.lock.release }
  | begin {v : Nat} (here : w.users v = .away) :
      Comes handler settings w (.begin v) (w.host v (.ticking .sizing))
  | carry {v : Nat} {now : Moment} {fault : Option Files.Fault} {tick : Processing (σ × List Record)}
      (here : w.users v = .ticking tick) (goes : tick.goes fault = true) :
      Comes handler settings w (.carry v now fault) (w.carry handler settings v tick now fault)
  | finish {v : Nat} {outcome : Except Failure (Option Summary)}
      (here : w.users v = .ticking (.done outcome)) :
      Comes handler settings w (.finish v) (w.host v .away)

theorem comes {d : LogAction} (acted : w.act handler settings d = some w') :
    Comes handler settings w d w' := by
  cases d with
  | ask v =>
    simp only [act] at acted
    split at acted
    · next here => exact Option.some.inj acted ▸ .ask here
    · next here => exact Option.some.inj acted ▸ .queue here
    · cases acted
  | enter v =>
    simp only [act] at acted
    split at acted
    · next granted =>
      split at acted
      · next here => exact Option.some.inj acted ▸ .write granted here
      · next here => exact Option.some.inj acted ▸ .rotate granted here
      · cases acted
    · cases acted
  | append v bytes =>
    simp only [act] at acted
    split at acted
    · next here appended => exact Option.some.inj acted ▸ .append here appended
    · cases acted
  | leave v =>
    simp only [act] at acted
    split at acted
    · next here =>
      obtain ⟨whole, acted⟩ := Option.ite_none_right_eq_some.1 acted
      exact Option.some.inj acted ▸ .leave here whole
    · cases acted
  | begin v =>
    simp only [act] at acted
    split at acted
    · next here => exact Option.some.inj acted ▸ .begin here
    · cases acted
  | carry v now fault =>
    simp only [act] at acted
    split at acted
    · next here =>
      obtain ⟨goes, acted⟩ := Option.ite_none_right_eq_some.1 acted
      exact Option.some.inj acted ▸ .carry here goes
    · cases acted
  | finish v =>
    simp only [act] at acted
    split at acted
    · next here => exact Option.some.inj acted ▸ .finish here
    · cases acted

theorem act_others {d : LogAction} (acted : w.act handler settings d = some w') (other : u ≠ d.user) :
    w'.users u = w.users u := by
  have apart : ∀ user, (w.host d.user user).users u = w.users u := fun user => by
    rw [users_host, if_neg other]
  cases comes acted <;> exact apart _

theorem play_others {actions : List LogAction} (played : w.play handler settings actions = some w')
    (others : ∀ d ∈ actions, u ≠ d.user) : w'.users u = w.users u := by
  induction actions generalizing w with
  | nil => rw [Option.some.inj played]
  | cons d rest ih =>
    obtain ⟨middle, acted, onward⟩ := Option.bind_eq_some_iff.1 played
    rw [ih onward fun d member => others d (List.mem_cons_of_mem _ member)]
    exact act_others acted (others d List.mem_cons_self)

theorem Shows.stands (view : w.Shows live s) (users : w'.users = Function.update w.users v user)
    (visits : s'.visits = Function.update s.visits v visit) (stands : user.Stands visit) :
    ∀ u, (w'.users u).Stands (s'.visits u) := by
  intro u
  rw [users, visits, Function.update_apply, Function.update_apply]
  split
  · exact stands
  · exact view.users u

theorem Shows.holder (view : w.Shows live s) (v : Nat) :
    s.holder (.lone live) v = w.lock.holder := by
  rw [← view.lock]
  rfl

/-- A user's own progress does not show. -/
theorem Shows.unseen (view : w.Shows live s) (stands : user.Stands (s.visits v)) :
    (w.host v user).Shows live s where
  files := view.files
  lock := view.lock
  rotator := view.rotator
  written := view.written
  users u := by
    rw [users_host]
    split
    · next same => exact same ▸ stands
    · exact view.users u

theorem Shows.host (view : w.Shows live s) (stands : user.Stands visit) :
    (w.host v user).Shows live (s.visit v visit) where
  files := view.files
  lock := view.lock
  rotator := view.rotator
  written := view.written
  users := view.stands rfl rfl stands

theorem Shows.relock (view : w.Shows live s) (v : Nat) (change : Lock Nat → Lock Nat) :
    ({ w with lock := change w.lock } : SharedLog σ).Shows live
      (s.relock ((Layout.lone live).lockOf v) change) where
  files := view.files
  lock := by
    simp only [Site.relock, Layout.lockOf, Layout.lone, Function.update_self, view.lock]
  rotator := view.rotator
  written := view.written
  users := view.users

theorem Shows.append (view : w.Shows live s) {bytes fresh : Bytes} {files : Files}
    (here : s.visits v = .writing) :
    ({ w.host v (.writing fresh) with
       scene := { w.scene with files }, written := w.written ++ bytes } : SharedLog σ).Shows live
      { s with files, past := { s.past with written := s.past.written ++ bytes } } where
  files := rfl
  lock := view.lock
  rotator := view.rotator
  written := by rw [view.written]
  users := by
    apply view.stands rfl (Function.update_eq_self v s.visits).symm
    exact here

end SharedLog

theorem Files.source_of_number {f : Files} {p : Path} {n : Nat} {content : Bytes}
    (leads : f.number p = .ok n) (regular : f.inode? n = some (.regular content)) :
    f.source p = .ok [.bytes content] := by
  obtain ⟨place, found⟩ := Files.number_eq_ok.1 leads
  simp only [Files.source, Files.locate, found, Files.contentOf_regular regular]

theorem Rotation.step_notes (r : Rotator) (f : Files) (stage : Rotation.Stage) (notes : Journal)
    (now : Moment) (fault : Option Files.Fault) :
    let step := Rotation.step now fault { rotator := r, files := f, stage, notes }
    let plain := Rotation.step now fault { rotator := r, files := f, stage }
    step.files = plain.files ∧ step.rotator = plain.rotator ∧ step.stage = plain.stage := by
  unfold Rotation.step
  cases stage.asks r.live with
  | none => exact ⟨rfl, rfl, rfl⟩
  | some request => exact ⟨rfl, rfl, rfl⟩

namespace Processing

variable {handler : Handler σ} {settings : Settings} {now : Moment} {fault : Option Files.Fault}
  {rotator : Rotator} {scene : Scene σ}

theorem step_rotating {stage : Rotation.Stage} (asks : (stage.asks rotator.live).isSome) :
    let w := Rotation.step now fault
      { rotator, files := scene.files, stage, notes := scene.notes }
    Course.step handler settings now fault ⟨.rotating stage, rotator, scene⟩ =
      { tick := .rotating w.stage, rotator := w.rotator,
        scene := { scene with files := w.files, notes := w.notes } } := by
  cases stage with
  | done outcome => cases asks
  | _ => rfl

theorem releases_rotating {stage : Rotation.Stage} {live : Path} (asks : (stage.asks live).isSome) :
    (.rotating stage : Processing σ).releases = false := by
  cases stage with
  | done outcome => cases asks
  | _ => rfl

theorem files_size (f : Files) (fault : Option Files.Fault) (p : Path) :
    (f.serve fault (.size p)).2 = f := by
  cases fault <;> rfl

end Processing

namespace SharedLog

variable {handler : Handler σ} {settings : Settings} {live : Path} {w w' : SharedLog σ} {s s' : Site}
  {v u : Nat} {user : LogUser σ} {visit : Visit} {now : Moment} {fault : Option Files.Fault}

theorem carry_sizing (handler : Handler σ) (settings : Settings) (w : SharedLog σ) (v : Nat) (now : Moment)
    (fault : Option Files.Fault) : ∃ tick,
      (w.carry handler settings v .sizing now fault).users =
        Function.update w.users v (.ticking tick) ∧
      (tick = .waiting ∨ ∃ outcome, tick = .done outcome) := by
  refine ⟨_, rfl, ?_⟩
  simp only [Processing.Course.step, Processing.sized]
  split
  · exact .inr ⟨_, rfl⟩
  · exact .inr ⟨_, rfl⟩
  · exact .inl rfl

theorem carry_opening (handler : Handler σ) (settings : Settings) (w : SharedLog σ) (v : Nat) (backup : Path)
    (now : Moment) : ∃ tick,
      (w.carry handler settings v (.opening backup) now none).users =
        Function.update w.users v (.ticking tick) ∧
      ((∃ lines ending d, tick = .reading backup lines ending d) ∨
        ∃ outcome, tick = .done outcome) := by
  refine ⟨_, rfl, ?_⟩
  simp only [Processing.Course.step]
  unfold Processing.opened
  split
  · exact .inr ⟨_, rfl⟩
  · exact .inl ⟨_, _, _, rfl⟩

theorem Shows.stage (view : w.Shows live s) {stage : Rotation.Stage}
    (here : w.users v = .ticking (.rotating stage)) :
    ∃ t, s.visits v = .rotating t ∧ t.stage = stage := by
  have stands := view.users v
  rwa [here] at stands

/-- A request of a tick's rotation is a request at the site. -/
theorem Shows.request (view : w.Shows live s) {t : Turn} (asks : (t.stage.asks live).isSome)
    (handler : Handler σ) (settings : Settings) (v : Nat) (now : Moment)
    (fault : Option Files.Fault) :
    (w.carry handler settings v (.rotating t.stage) now fault).Shows live
        (s.request (.lone live) v t now fault) ∧
      ((w.carry handler settings v (.rotating t.stage) now fault).users =
        Function.update w.users v
          (.ticking (.rotating ((s.rotation (.lone live) v t).step now fault).stage))) ∧
      (w.carry handler settings v (.rotating t.stage) now fault).heard = w.heard := by
  have asks' : (t.stage.asks w.rotator.live).isSome := by rw [view.rotator]; exact asks
  have notes := Rotation.step_notes w.rotator w.scene.files t.stage w.scene.notes now fault
  have same : s.rotation (.lone live) v t =
      { rotator := w.rotator, files := w.scene.files, stage := t.stage } := by
    rw [Site.rotation, Site.rotator, view.rotator, view.files]
    rfl
  rw [carry, Processing.step_rotating asks', Processing.releases_rotating asks]
  obtain ⟨files, rotator, stage⟩ := notes
  refine ⟨⟨?_, view.lock, ?_, ?_, ?_⟩, ?_, rfl⟩
  · rw [Site.request, same, files]
    rfl
  · rw [Site.request, same, rotator]
    have lives : (Rotation.step now fault
        { rotator := w.rotator, files := w.scene.files, stage := t.stage }).rotator.live = live := by
      rw [Rotation.live_step, view.rotator]
    simp only [Site.advance, Layout.lone, Function.update_self]
    rw [← lives]
  · exact (History.written_after ..).trans view.written
  · refine view.stands rfl rfl ⟨_, rfl, ?_⟩
    rw [Turn.stage_after, same, stage]
  · rw [same, ← stage]
    rfl

theorem Shows.carry (view : w.Shows live s) {tick : Processing (σ × List Record)}
    (keeps : tick.releases = false)
    (files : (w.carry handler settings v tick now fault).scene.files = w.scene.files)
    (rotator : (w.carry handler settings v tick now fault).rotator = w.rotator)
    (users : (w.carry handler settings v tick now fault).users = Function.update w.users v user)
    (stands : user.Stands (s.visits v)) :
    (w.carry handler settings v tick now fault).Shows live s where
  files := view.files.trans files.symm
  lock := by
    rw [SharedLog.carry, keeps]
    exact view.lock
  rotator := rotator.trans view.rotator
  written := view.written
  users := by
    intro u
    rw [users, Function.update_apply]
    split
    · next same => exact same ▸ stands
    · exact view.users u

theorem Shows.release (view : w.Shows live s) {outcome : Except Failure Rotation.Rotated} :
    (w.carry handler settings v (.rotating (.done outcome)) now fault).Shows live
      ((s.relock ((Layout.lone live).lockOf v) Lock.release).visit v .away) where
  files := view.files
  lock := by
    simp only [SharedLog.carry, Processing.releases, if_true, Site.visit, Site.relock, Layout.lockOf,
      Layout.lone, Function.update_self, view.lock]
  rotator := view.rotator
  written := view.written
  users := by
    apply view.stands rfl rfl
    cases outcome <;> rfl

end SharedLog

end AuditTrail
