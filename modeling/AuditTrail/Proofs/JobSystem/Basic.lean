import AuditTrail.Lifecycle
import AuditTrail.Proofs.Config.Accepted
import AuditTrail.Proofs.Site.Order
import AuditTrail.Proofs.Site.Retention
import AuditTrail.Proofs.SharedLog.Exact

/-! The jobs of a processor as a transition system: the ticks and writers of a `SharedLog`, and
expiration sweeps, which take no lock. The expiration job sweeps only while the lifecycle lets it
run; ticks and sweeps on request may happen at any time. The fields `seconds`, `taken` and `parsed`
record the history for statements, and no action reads them. -/
namespace AuditTrail

variable {σ : Type}

/-- A sweep of the expiration job or of a request. It reads the clock, lists the expired backups, and removes
them one by one. -/
inductive SweepRun where
  | idle
  | reading (now : Moment)
  | removing (now : Moment) (sweep : Sweep)
  deriving DecidableEq

inductive Caller where
  | job | request
  deriving DecidableEq

structure JobSystem (σ : Type) where
  log : SharedLog σ
  life : Lifecycle := {}
  sweepRuns : Nat → SweepRun := fun _ => .idle
  /-- The second that each tick's last rotation read. -/
  seconds : Nat → Nat := fun _ => 0
  /-- The contents of the live log at its truncations. -/
  taken : List Bytes := []
  /-- The contents of the backups that were opened. -/
  parsed : List Bytes := []

inductive JobAction where
  | log (d : LogAction)
  | start (job : Job)
  | stop
  | settle (ended : Bool)
  | abandon
  | look (k : Nat) (caller : Caller) (now : Moment)
  | list (k : Nat)
  | expel (k : Nat) (fault : Option Files.Fault)

/-- No injected fault claims that a name is taken. -/
def JobAction.Honest : JobAction → Prop
  | .log (.carry _ _ (some spoilt)) => spoilt.cause.kind ≠ .alreadyExists
  | _ => True

/-- The backup of a rotation, also after it is done. -/
def Rotation.Stage.held? : Rotation.Stage → Option Path
  | .done (.ok rotated) => some rotated.backup
  | stage => stage.backup?

/-- The backup of a tick, from its creation until it is opened or given up. -/
def LogUser.backup? : LogUser σ → Option Path
  | .ticking (.rotating stage) => stage.held?
  | .ticking (.opening backup) => some backup
  | _ => none

namespace Rotation.Move

open Stage (search)

variable {r : Rotator} {now : Moment} {fault : Option Files.Fault} {f files : Files}
  {stage next : Stage} {last : Nat}

theorem held? (move : Move r now fault f stage files last next) {backup : Path}
    (has : next.held? = some backup) :
    stage.held? = some backup ∨ ∃ place, f.find false backup = .ok ⟨place, none⟩ := by
  cases move with
  | opened | taken =>
    unfold search at has
    split at has <;> cases has
  | created found =>
    obtain rfl := Option.some.inj has
    exact .inr ⟨_, found⟩
  | copied | broken | unread | synced | unsynced | emptied => exact .inl has
  | unopened | uncreated | removed | kept | unemptied => cases has

theorem backup? (move : Move r now fault f stage files last next) {backup : Path}
    (has : next.backup? = some backup) :
    stage.backup? = some backup ∨ ∃ place, f.find false backup = .ok ⟨place, none⟩ := by
  have held : next.held? = some backup := by
    unfold Stage.held?
    split
    · cases has
    · exact has
  rcases move.held? held with old | free
  · cases move <;> exact .inl old
  · exact .inr free

theorem node? (move : Move r now fault f stage files last next) {place : Place} {node : Node}
    (there : f.node? place = some node)
    (apart : ∀ backup cause node', stage = .discarding backup cause →
      f.find false backup ≠ .ok ⟨place, some node'⟩) : files.node? place = some node := by
  cases move with
  | opened | unopened | taken | uncreated | unread | synced | unsynced | kept | unemptied =>
    exact there
  | created found => exact Files.stays_addFile (Files.node?_of_find found).symm there
  | copied | broken | emptied =>
    rw [Files.node?_revise]
    exact there
  | @removed backup cause place' node' found leaf =>
    rw [Files.node?_erase (Files.ne_root_of_leaf (Files.node?_of_find found).symm leaf), if_neg]
    · exact there
    · rintro rfl
      exact apart backup cause node' rfl found

end Rotation.Move

namespace JobSystem

def files (p : JobSystem σ) : Files := p.log.scene.files

def fresh (files : Files) (state : σ) (live : Path) : JobSystem σ := { log := .fresh files state live }

def given (f : Files) (backup : Path) : List Bytes :=
  match f.source backup with
  | .ok [.bytes content] => [content]
  | _ => []

def detached (content : Bytes) : LogUser σ → List Bytes
  | .ticking (.rotating (.done (.ok _))) => [content]
  | _ => []

/-- Records what an action at the log tells about the history. -/
def record (live : Path) (p : JobSystem σ) (d : LogAction) (w : SharedLog σ) : JobSystem σ :=
  match d, p.log.users d.user with
  | .carry v now _, .ticking (.rotating .opening) =>
    { p with log := w, seconds := Function.update p.seconds v now.seconds }
  | .carry v _ _, .ticking (.rotating (.truncating ..)) =>
    { p with log := w, taken := p.taken ++ detached (p.files.text live) (w.users v) }
  | .carry _ _ _, .ticking (.opening backup) =>
    { p with log := w, parsed := p.parsed ++ given p.files backup }
  | _, _ => { p with log := w }

/-- The job sweeps once it was spawned and until it is cancelled. -/
def mayLook (p : JobSystem σ) : Caller → Bool
  | .job => p.life.spawned.contains .expiration && !p.life.cancelled
  | .request => true

def setSweep (p : JobSystem σ) (k : Nat) (sweepRun : SweepRun) : JobSystem σ :=
  { p with sweepRuns := Function.update p.sweepRuns k sweepRun }

def expel (p : JobSystem σ) (k : Nat) (now : Moment) (sweep : Sweep) (fault : Option Files.Fault) :
    JobSystem σ :=
  let (sweep, files, notes) := sweep.step fault p.files
  { p.setSweep k (.removing now sweep) with
    log := { p.log with scene := { p.log.scene with files }.note notes } }

/-- The state after an action, if it is possible. A start or stop that fails changes nothing. -/
def act (handler : Handler σ) (settings : Settings) (p : JobSystem σ) : JobAction → Option (JobSystem σ)
  | .log d => (p.log.act handler settings d).map (p.record settings.path d)
  | .start job => match p.life.start settings job with
    | .ok life => some { p with life }
    | .error _ => some p
  | .stop => match p.life.stop with
    | .ok life => some { p with life }
    | .error _ => some p
  | .settle ended =>
    if p.life.phase = .stopping then some { p with life := p.life.settle ended } else none
  | .abandon => some { p with life := p.life.abandon }
  | .look k caller now => match p.sweepRuns k with
    | .idle => if p.mayLook caller then some (p.setSweep k (.reading now)) else none
    | _ => none
  | .list k => match p.sweepRuns k with
    | .reading now => match Sweep.start p.files settings.path settings.retention now with
      | .ok sweep => some (p.setSweep k (.removing now sweep))
      | .error _ => some (p.setSweep k .idle)
    | _ => none
  | .expel k fault => match p.sweepRuns k with
    | .removing now sweep =>
      if sweep.pending.isEmpty then some (p.setSweep k .idle) else some (p.expel k now sweep fault)
    | _ => none

def play (handler : Handler σ) (settings : Settings) (p : JobSystem σ) : List JobAction → Option (JobSystem σ)
  | [] => some p
  | o :: rest => (p.act handler settings o).bind fun p' => p'.play handler settings rest

inductive Run (handler : Handler σ) (settings : Settings) (allowed : JobSystem σ → JobAction → Prop)
    (start : JobSystem σ) : JobSystem σ → Prop where
  | here : Run handler settings allowed start start
  | next {p p' : JobSystem σ} {o : JobAction} (run : Run handler settings allowed start p)
      (fair : allowed p o) (acted : p.act handler settings o = some p') :
      Run handler settings allowed start p'

variable {handler : Handler σ} {settings : Settings} {allowed allowed' : JobSystem σ → JobAction → Prop}
  {start p p' : JobSystem σ} {live : Path} {d : LogAction} {w : SharedLog σ}

theorem Run.mono (run : Run handler settings allowed start p)
    (weaker : ∀ p o, allowed p o → allowed' p o) : Run handler settings allowed' start p := by
  induction run with
  | here => exact .here
  | next _ fair acted ih => exact ih.next (weaker _ _ fair) acted

theorem run_of_play {actions : List JobAction} (run : Run handler settings allowed start p)
    (played : p.play handler settings actions = some p')
    (fair : ∀ o ∈ actions, ∀ p, allowed p o) : Run handler settings allowed start p' := by
  induction actions generalizing p with
  | nil =>
    obtain rfl := Option.some.inj played
    exact run
  | cons o rest ih =>
    obtain ⟨middle, acted, onward⟩ := Option.bind_eq_some_iff.1 played
    exact ih (run.next (fair o List.mem_cons_self p) acted) onward
      fun o member => fair o (List.mem_cons_of_mem _ member)

@[simp] theorem log_record : (p.record live d w).log = w := by
  unfold record
  split <;> rfl

theorem record_other (other : ∀ v now fault, d ≠ .carry v now fault) :
    p.record live d w = { p with log := w } := by
  unfold record
  split
  · exact absurd rfl (other _ _ _)
  · exact absurd rfl (other _ _ _)
  · exact absurd rfl (other _ _ _)
  · rfl

@[simp] theorem files_record : (p.record live d w).files = w.scene.files := by
  rw [files, log_record]

@[simp] theorem life_record : (p.record live d w).life = p.life := by
  unfold record
  split <;> rfl

@[simp] theorem sweepRuns_record : (p.record live d w).sweepRuns = p.sweepRuns := by
  unfold record
  split <;> rfl

theorem removing_of_setSweep {k j : Nat} {sweepRun : SweepRun} {now : Moment} {sweep : Sweep}
    (removing : (p.setSweep k sweepRun).sweepRuns j = .removing now sweep) :
    j = k ∧ sweepRun = .removing now sweep ∨ j ≠ k ∧ p.sweepRuns j = .removing now sweep := by
  simp only [JobSystem.setSweep, Function.update_apply] at removing
  split at removing
  · next same => exact .inl ⟨same, removing⟩
  · next other => exact .inr ⟨other, removing⟩

inductive Comes (handler : Handler σ) (settings : Settings) (p : JobSystem σ) : JobAction → JobSystem σ → Prop where
  | log {d : LogAction} {w : SharedLog σ} (done : p.log.act handler settings d = some w) :
      Comes handler settings p (.log d) (p.record settings.path d w)
  | start {job : Job} {life : Lifecycle} (started : p.life.start settings job = .ok life) :
      Comes handler settings p (.start job) { p with life }
  | stop {life : Lifecycle} (stopped : p.life.stop = .ok life) : Comes handler settings p .stop { p with life }
  | refused {o : JobAction} (calls : (∃ job, o = .start job) ∨ o = .stop) : Comes handler settings p o p
  | settle (ended : Bool) : Comes handler settings p (.settle ended) { p with life := p.life.settle ended }
  | abandon : Comes handler settings p .abandon { p with life := p.life.abandon }
  | look {k : Nat} {caller : Caller} {now : Moment} (may : p.mayLook caller = true) :
      Comes handler settings p (.look k caller now) (p.setSweep k (.reading now))
  | list {k : Nat} {now : Moment} {sweep : Sweep} (here : p.sweepRuns k = .reading now)
      (started : Sweep.start p.files settings.path settings.retention now = .ok sweep) :
      Comes handler settings p (.list k) (p.setSweep k (.removing now sweep))
  | unlisted {k : Nat} {now : Moment} (here : p.sweepRuns k = .reading now) :
      Comes handler settings p (.list k) (p.setSweep k .idle)
  | exhausted {k : Nat} {fault : Option Files.Fault} {now : Moment} {sweep : Sweep}
      (here : p.sweepRuns k = .removing now sweep) : Comes handler settings p (.expel k fault) (p.setSweep k .idle)
  | expel {k : Nat} {fault : Option Files.Fault} {now : Moment} {sweep : Sweep}
      (here : p.sweepRuns k = .removing now sweep) :
      Comes handler settings p (.expel k fault) (p.expel k now sweep fault)

theorem comes {o : JobAction} (acted : p.act handler settings o = some p') :
    Comes handler settings p o p' := by
  cases o with
  | log d =>
    obtain ⟨w, done, rfl⟩ := Option.map_eq_some_iff.1 acted
    exact .log done
  | start job =>
    simp only [act] at acted
    split at acted
    · next started => exact Option.some.inj acted ▸ .start started
    · exact Option.some.inj acted ▸ .refused (.inl ⟨job, rfl⟩)
  | stop =>
    simp only [act] at acted
    split at acted
    · next stopped => exact Option.some.inj acted ▸ .stop stopped
    · exact Option.some.inj acted ▸ .refused (.inr rfl)
  | settle ended =>
    simp only [act, Option.ite_none_right_eq_some] at acted
    exact Option.some.inj acted.2 ▸ .settle ended
  | abandon => exact Option.some.inj acted ▸ .abandon
  | look k caller now =>
    simp only [act] at acted
    split at acted
    · simp only [Option.ite_none_right_eq_some] at acted
      exact Option.some.inj acted.2 ▸ .look acted.1
    · cases acted
  | list k =>
    simp only [act] at acted
    split at acted
    · next here =>
      split at acted
      · next started => exact Option.some.inj acted ▸ .list here started
      · exact Option.some.inj acted ▸ .unlisted here
    · cases acted
  | expel k fault =>
    simp only [act] at acted
    split at acted
    · next here =>
      split at acted
      · exact Option.some.inj acted ▸ .exhausted here
      · exact Option.some.inj acted ▸ .expel here
    · cases acted

theorem act_others {o : JobAction} {u : Nat} (acted : p.act handler settings o = some p')
    (others : ∀ d, o = .log d → u ≠ d.user) : p'.log.users u = p.log.users u := by
  cases comes acted with
  | @log d w done =>
    rw [log_record]
    exact SharedLog.act_others done (others d rfl)
  | _ => rfl

theorem play_others {actions : List JobAction} {u : Nat}
    (played : p.play handler settings actions = some p')
    (others : ∀ d, .log d ∈ actions → u ≠ d.user) : p'.log.users u = p.log.users u := by
  induction actions generalizing p with
  | nil => rw [Option.some.inj played]
  | cons o rest ih =>
    obtain ⟨middle, acted, onward⟩ := Option.bind_eq_some_iff.1 played
    rw [ih onward fun d member => others d (List.mem_cons_of_mem _ member)]
    exact act_others acted fun d same => others d (same ▸ List.mem_cons_self)

end JobSystem

/-- The effect of an action at the log, together with the site that shows it. -/
inductive SharedLog.Passes (live : Path) (w : SharedLog σ) (s : Site) (d : LogAction) (w' : SharedLog σ)
    (s' : Site) : Prop where
  | quiet (user : LogUser σ) (files : w'.scene.files = w.scene.files)
      (written : w'.written = w.written)
      (users : w'.users = Function.update w.users d.user user)
      (backup : user.backup? = (w.users d.user).backup?)
      (due : user.due = (w.users d.user).due)
      (begins : ∀ stage, user = .ticking (.rotating stage) → stage = .opening)
      (past : s'.past = s.past)
      (still : ∀ p : JobSystem σ, p.log = w → p.record live d w' = { p with log := w' })
  | append {v : Nat} {bytes fresh : Bytes} (own : d = .append v bytes)
      (here : w.users v = .writing fresh)
      (appended : w.scene.files.append live bytes = .ok w'.scene.files)
      (written : w'.written = w.written ++ bytes)
      (users : w'.users = Function.update w.users v (.writing (fresh ++ bytes)))
      (synced : s'.past.synced = s.past.synced)
  | request {v : Nat} {now : Moment} {fault : Option Files.Fault} {t : Turn} {last : Nat}
      {next : Rotation.Stage} (own : d = .carry v now fault)
      (here : w.users v = .ticking (.rotating t.stage)) (turning : s.visits v = .rotating t)
      (move : Rotation.Move (s.rotator (.lone live) v) now fault w.scene.files t.stage
        w'.scene.files last next)
      (advanced : s' = s.advance (.lone live) v t now w'.scene.files last next)
      (written : w'.written = w.written)
      (users : w'.users = Function.update w.users v (.ticking (.rotating next)))
  | opened {v : Nat} {now : Moment} {backup : Path} {tick : Processing (σ × List Record)}
      (own : d = .carry v now none) (here : w.users v = .ticking (.opening backup))
      (files : w'.scene.files = w.scene.files) (written : w'.written = w.written)
      (users : w'.users = Function.update w.users v (.ticking tick))
      (idle : (.ticking tick : LogUser σ).backup? = none ∧ (.ticking tick : LogUser σ).due = none)
      (apart : ∀ stage, tick ≠ .rotating stage) (past : s'.past = s.past)

/-- No step, or a step of a visitor. -/
def Site.Onward (y : Layout) (s s' : Site) : Prop :=
  s' = s ∨ ∃ a, Step y s a s' ∧ s.Honest y a ∧ a.ofVisitor

namespace SharedLog

variable {handler : Handler σ} {settings : Settings} {live : Path} {w w' : SharedLog σ} {s : Site} {v : Nat}
  {d : LogAction} {now : Moment} {fault : Option Files.Fault}

theorem Passes.aside {s' : Site} {old user : LogUser σ} (here : w.users d.user = old)
    (files : w'.scene.files = w.scene.files) (written : w'.written = w.written)
    (users : w'.users = Function.update w.users d.user user)
    (before : old.backup? = none ∧ old.due = none) (after : user.backup? = none ∧ user.due = none)
    (begins : ∀ stage, user = .ticking (.rotating stage) → stage = .opening)
    (past : s'.past = s.past) (other : ∀ v now fault, d ≠ .carry v now fault) :
    w.Passes live s d w' s' := by
  refine .quiet user files written users ?_ ?_ begins past fun p _ => JobSystem.record_other other
  · rw [here, before.1, after.1]
  · rw [here, before.2, after.2]

section Carry

variable (view : w.Shows settings.path s)

include view

theorem Shows.passes_sizing (here : w.users v = .ticking .sizing) :
    ∃ s', (w.carry handler settings v .sizing now fault).Shows settings.path s' ∧
      Site.Onward (.lone settings.path) s s' ∧
      w.Passes settings.path s (.carry v now fault) (w.carry handler settings v .sizing now fault) s' := by
  have stands := view.users v
  rw [here] at stands
  have files : (w.carry handler settings v .sizing now fault).scene.files = w.scene.files :=
    Processing.files_size w.scene.files fault settings.path
  obtain ⟨tick, users, rests⟩ := carry_sizing handler settings w v now fault
  have away : (.ticking tick : LogUser σ).Stands (s.visits v) := by
    rcases rests with rfl | ⟨outcome, rfl⟩ <;> exact stands
  refine ⟨s, view.carry rfl files rfl users away, .inl rfl, .quiet (.ticking tick) files rfl users
    ?_ ?_ ?_ rfl ?_⟩
  · rw [LogAction.user, here]
    rcases rests with rfl | ⟨outcome, rfl⟩ <;> rfl
  · rw [LogAction.user, here]
    rcases rests with rfl | ⟨outcome, rfl⟩ <;> rfl
  · rcases rests with rfl | ⟨outcome, rfl⟩ <;> simp
  · rintro p rfl
    simp only [JobSystem.record, LogAction.user, here]

theorem Shows.passes_rotating {stage : Rotation.Stage} (here : w.users v = .ticking (.rotating stage))
    (honest : (JobAction.log (.carry v now fault)).Honest) :
    ∃ s', (w.carry handler settings v (.rotating stage) now fault).Shows settings.path s' ∧
      Site.Onward (.lone settings.path) s s' ∧ w.Passes settings.path s (.carry v now fault)
        (w.carry handler settings v (.rotating stage) now fault) s' := by
  obtain ⟨t, turning, rfl⟩ := view.stage here
  by_cases asks : (t.stage.asks settings.path).isSome
  · obtain ⟨view', users, -⟩ := view.request asks handler settings v now fault
    have move := Rotation.step_move (w := s.rotation (.lone settings.path) v t) now fault asks
    have files : (w.carry handler settings v (.rotating t.stage) now fault).scene.files =
        ((s.rotation (.lone settings.path) v t).step now fault).files := view'.files.symm
    rw [← files, show (s.rotation (.lone settings.path) v t).files = w.scene.files from view.files]
      at move
    refine ⟨_, view', .inr ⟨_, .request turning asks, ?_, trivial⟩,
      .request rfl here turning move ?_ rfl users⟩
    · rintro other - spoilt rfl taken
      exact absurd taken honest
    · rw [files]
      rfl
  · cases ended : t.stage with
    | done outcome =>
      refine ⟨_, view.release, .inr ⟨_, .finish turning ended, trivial, trivial⟩,
        .quiet _ rfl rfl rfl ?_ ?_ ?_ rfl ?_⟩
      · rw [LogAction.user, here, ended]
        cases outcome <;> rfl
      · rw [LogAction.user, here, ended]
        cases outcome <;> rfl
      · cases outcome <;> rintro _ ⟨⟩
      · rintro p rfl
        simp only [JobSystem.record, LogAction.user, here, ended]
    | _ => exact absurd (by rw [ended]; rfl) asks

theorem Shows.passes_carry {tick : Processing (σ × List Record)} (here : w.users v = .ticking tick)
    (goes : tick.goes fault = true) (honest : (JobAction.log (.carry v now fault)).Honest) :
    ∃ s', (w.carry handler settings v tick now fault).Shows settings.path s' ∧
      Site.Onward (.lone settings.path) s s' ∧
      w.Passes settings.path s (.carry v now fault) (w.carry handler settings v tick now fault) s' := by
  have stands := view.users v
  rw [here] at stands
  cases tick with
  | waiting | done outcome => cases goes
  | sizing => exact view.passes_sizing here
  | rotating stage => exact view.passes_rotating here honest
  | opening backup =>
    obtain rfl : fault = none := Option.isNone_iff_eq_none.1 goes
    obtain ⟨tick, users, rests⟩ := carry_opening handler settings w v backup now
    have files : (w.carry handler settings v (.opening backup) now none).scene.files =
        w.scene.files := rfl
    have away : (.ticking tick : LogUser σ).Stands (s.visits v) := by
      rcases rests with ⟨lines, ending, d, rfl⟩ | ⟨outcome, rfl⟩ <;> exact stands
    refine ⟨s, view.carry rfl files rfl users away, .inl rfl,
      .opened rfl here files rfl users ?_ ?_ rfl⟩
    · rcases rests with ⟨lines, ending, d, rfl⟩ | ⟨outcome, rfl⟩ <;> exact ⟨rfl, rfl⟩
    · rcases rests with ⟨lines, ending, d, rfl⟩ | ⟨outcome, rfl⟩ <;> simp
  | reading backup lines ending d =>
    cases lines with
    | nil | cons line lines =>
      refine ⟨s, view.carry rfl rfl rfl rfl stands, .inl rfl, .quiet _ rfl rfl rfl ?_ ?_ ?_ rfl ?_⟩
      · rw [LogAction.user, here]
        rfl
      · rw [LogAction.user, here]
        rfl
      · rintro _ ⟨⟩
      · rintro p rfl
        simp only [JobSystem.record, LogAction.user, here]

end Carry

theorem Shows.passes (view : w.Shows settings.path s) (acted : w.act handler settings d = some w')
    (honest : (JobAction.log d).Honest) : ∃ s', w'.Shows settings.path s' ∧
      Site.Onward (.lone settings.path) s s' ∧ w.Passes settings.path s d w' s' := by
  have stands := view.users
  cases comes acted with
  | @ask v here | @queue v here =>
    specialize stands v
    rw [here] at stands
    refine ⟨_, (view.relock v (·.request v)).host rfl, .inr ⟨_, .ask stands, trivial, trivial⟩, ?_⟩
    exact .aside here rfl rfl rfl ⟨rfl, rfl⟩ ⟨rfl, rfl⟩ (by simp) rfl (by simp)
  | @write v granted here =>
    specialize stands v
    rw [here] at stands
    have holds := (view.holder v).trans granted
    refine ⟨_, view.host rfl, .inr ⟨_, .write stands holds, trivial, trivial⟩, ?_⟩
    exact .aside here rfl rfl rfl ⟨rfl, rfl⟩ ⟨rfl, rfl⟩ (by simp) rfl (by simp)
  | @rotate v granted here =>
    specialize stands v
    rw [here] at stands
    have holds := (view.holder v).trans granted
    refine ⟨_, view.host ⟨_, rfl, rfl⟩, .inr ⟨_, .rotate stands holds, trivial, trivial⟩, ?_⟩
    refine .aside here rfl rfl rfl ⟨rfl, rfl⟩ ⟨rfl, rfl⟩ (fun stage same => ?_) rfl (by simp)
    cases same
    rfl
  | @append v bytes fresh files here appended =>
    specialize stands v
    rw [here] at stands
    have appended' := appended
    rw [← view.files] at appended'
    exact ⟨_, view.append stands, .inr ⟨_, .append stands appended', trivial, trivial⟩,
      .append rfl here appended rfl rfl rfl⟩
  | @leave v _ here =>
    specialize stands v
    rw [here] at stands
    refine ⟨_, (view.relock v Lock.release).host rfl, .inr ⟨_, .leave stands, trivial, trivial⟩, ?_⟩
    exact .aside here rfl rfl rfl ⟨rfl, rfl⟩ ⟨rfl, rfl⟩ (by simp) rfl (by simp)
  | @begin v here | @finish v _ here =>
    specialize stands v
    rw [here] at stands
    exact ⟨s, view.unseen stands, .inl rfl,
      .aside here rfl rfl rfl ⟨rfl, rfl⟩ ⟨rfl, rfl⟩ (by simp) rfl (by simp)⟩
  | carry here goes => exact view.passes_carry here goes honest

end SharedLog

namespace JobSystem

variable {handler : Handler σ} {settings : Settings} {p p' : JobSystem σ} {s s' : Site} {o : JobAction}

inductive Follows (settings : Settings) (p : JobSystem σ) (s : Site) : JobAction → JobSystem σ → Site → Prop where
  | log {d : LogAction} {w : SharedLog σ} {s' : Site} (passes : p.log.Passes settings.path s d w s') :
      Follows settings p s (.log d) (p.record settings.path d w) s'
  | living {o : JobAction} {life : Lifecycle} : Follows settings p s o { p with life } s
  | turned {o : JobAction} {k : Nat} {sweepRun : SweepRun} (other : ∀ now sweep, sweepRun ≠ .removing now sweep) :
      Follows settings p s o (p.setSweep k sweepRun) s
  | listed {k : Nat} {now : Moment} {sweep : Sweep}
      (started : Sweep.start p.files settings.path settings.retention now = .ok sweep) :
      Follows settings p s (.list k) (p.setSweep k (.removing now sweep))
        { s with sweeps := Function.update s.sweeps k sweep }
  | expelled {k : Nat} {now : Moment} {sweep : Sweep} {fault : Option Files.Fault}
      (here : p.sweepRuns k = .removing now sweep) :
      Follows settings p s (.expel k fault) (p.expel k now sweep fault)
        { s with files := (sweep.step fault p.files).2.1
                 sweeps := Function.update s.sweeps k (sweep.step fault p.files).1 }

/-- A job system seen as a site with its sweeps. -/
structure Viewed (settings : Settings) (p : JobSystem σ) (s : Site) : Prop where
  log : p.log.Shows settings.path s
  orderly : Orderly (.lone settings.path) s
  sweeps : ∀ k now sweep, p.sweepRuns k = .removing now sweep → s.sweeps k = sweep

theorem Viewed.files (viewed : p.Viewed settings s) : s.files = p.files := viewed.log.files

theorem Viewed.sweeps_setSweep (viewed : p.Viewed settings s) {k : Nat} {now : Moment} {sweep : Sweep} :
    ∀ j now' sweep', (p.setSweep k (.removing now sweep)).sweepRuns j = .removing now' sweep' →
      Function.update s.sweeps k sweep j = sweep' := by
  intro j now' sweep' removing
  rcases removing_of_setSweep removing with ⟨rfl, same⟩ | ⟨other, before⟩
  · rw [Function.update_self]
    exact (SweepRun.removing.inj same).2
  · rw [Function.update_of_ne other]
    exact viewed.sweeps j now' sweep' before

theorem Viewed.turned (viewed : p.Viewed settings s) {k : Nat} {sweepRun : SweepRun}
    (other : ∀ now sweep, sweepRun ≠ .removing now sweep) : (p.setSweep k sweepRun).Viewed settings s := by
  refine ⟨viewed.log, viewed.orderly, fun j now sweep removing => ?_⟩
  rcases removing_of_setSweep removing with ⟨-, same⟩ | ⟨-, before⟩
  · exact absurd same (other now sweep)
  · exact viewed.sweeps j now sweep before

theorem Viewed.onward (viewed : p.Viewed settings s) (onward : Site.Onward (.lone settings.path) s s') :
    s'.sweeps = s.sweeps ∧ Orderly (.lone settings.path) s' := by
  rcases onward with rfl | ⟨a, step, fair, visitor⟩
  · exact ⟨rfl, viewed.orderly⟩
  · refine ⟨?_, (step.orderly fair viewed.orderly).2⟩
    cases step with
    | sweep | expel | appear | vanish => exact visitor.elim
    | _ => rfl

theorem Viewed.act (viewed : p.Viewed settings s) (acted : p.act handler settings o = some p')
    (honest : o.Honest) : ∃ s', p'.Viewed settings s' ∧ p.Follows settings s o p' s' ∧
      (s' = s ∨ ∃ a, Step (.lone settings.path) s a s' ∧ s.Honest (.lone settings.path) a) := by
  cases comes acted with
  | log done =>
    obtain ⟨s', view, onward, passes⟩ := viewed.log.passes done honest
    obtain ⟨sweeps, orderly⟩ := viewed.onward onward
    refine ⟨s', ⟨by simpa using view, orderly, ?_⟩, .log passes, ?_⟩
    · rw [sweepRuns_record, sweeps]
      exact viewed.sweeps
    · exact onward.imp_right fun ⟨a, step, fair, _⟩ => ⟨a, step, fair⟩
  | start | stop | refused | settle | abandon =>
    exact ⟨s, ⟨viewed.log, viewed.orderly, viewed.sweeps⟩, .living, .inl rfl⟩
  | look | unlisted | exhausted => exact ⟨s, viewed.turned nofun, .turned nofun, .inl rfl⟩
  | @list k now sweep _ started =>
    have listed := started
    rw [← viewed.files] at listed
    have step : Step (.lone settings.path) s (.sweep k settings.retention now) _ := .sweep listed
    refine ⟨_, ⟨?_, (step.orderly trivial viewed.orderly).2, viewed.sweeps_setSweep⟩, .listed started,
      .inr ⟨_, step, trivial⟩⟩
    exact ⟨viewed.log.files, viewed.log.lock, viewed.log.rotator, viewed.log.written, viewed.log.users⟩
  | @expel k fault now sweep here =>
    have step : Step (.lone settings.path) s (.expel k fault) _ := .expel
    rw [viewed.sweeps k now sweep here, viewed.files] at step
    refine ⟨_, ⟨?_, (step.orderly trivial viewed.orderly).2, viewed.sweeps_setSweep⟩, .expelled here,
      .inr ⟨_, step, trivial⟩⟩
    exact ⟨rfl, viewed.log.lock, viewed.log.rotator, viewed.log.written, viewed.log.users⟩

theorem Viewed.evolves (viewed : p.Viewed settings s) (viewed' : p'.Viewed settings s')
    (onward : s' = s ∨ ∃ a, Step (.lone settings.path) s a s' ∧ s.Honest (.lone settings.path) a) :
    p.files.Evolves p'.files := by
  rw [← viewed.files, ← viewed'.files]
  rcases onward with rfl | ⟨a, step, fair⟩
  · exact .refl _
  · exact (step.orderly fair viewed.orderly).1

theorem Viewed.origin {files : Files} (sound : files.Sound) (state : σ) :
    (fresh files state settings.path).Viewed settings { files } where
  log := ⟨rfl, rfl, rfl, rfl, fun _ => rfl⟩
  orderly := .origin sound
  sweeps _ _ _ removing := nomatch removing

end JobSystem

end AuditTrail
