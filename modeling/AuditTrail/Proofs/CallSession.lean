import AuditTrail.Proofs.Counters
import AuditTrail.Proofs.Sweep
import Mathlib.Algebra.GroupWithZero.Nat
import Mathlib.Data.List.Dedup

/-! A sequence of calls: rotations, processing ticks and sweeps, each step of which may fail, while
others change the files. The state also records how rotations ended, which bytes were read from
backups and which entries were removed. `Agrees` relates the counters to this history, also in the
middle of a call. -/
namespace AuditTrail

variable {σ : Type}

inductive CallState (σ : Type) where
  | none
  | rotating (stage : Rotation.Stage)
  | ticking (tick : Processing σ)
  | sweeping (s : Sweep)

def CallState.left : CallState σ → List Line
  | .ticking (.reading _ lines _ _) => lines
  | _ => []

/-- An effect of a call that the counters report. -/
inductive Effect where
  | rotated (outcome : Except Failure Rotation.Rotated)
  /-- The bytes that were read of a backup, and the failure that ended the reading, if any. -/
  | read (limit : Nat) (bytes : Bytes) (ending : Option IoError)
  | gone (place : Place)

namespace Effect

def counters : Effect → List Counter
  | .rotated outcome => [.rotations outcome.isOk]
  | .read limit bytes ending => ((Lines.heard bytes ending).map (Lines.judge limit)).flatMap Dispatch.counters
  | .gone _ => [.backupsExpired]

def records : Effect → List Record
  | .read limit bytes ending => (Lines.heard bytes ending).filterMap (Dispatch.record? limit)
  | _ => []

/-- The lines that are too long or no records. -/
def failures : Effect → Nat
  | .read limit bytes ending => (Lines.heard bytes ending).countP (Dispatch.fails limit)
  | _ => 0

def isRotation (ok : Bool) : Effect → Bool
  | .rotated outcome => outcome.isOk == ok
  | _ => false

def isGone : Effect → Bool
  | .gone _ => true
  | _ => false

/-- How often an effect raises a counter, apart from the records in it. -/
def tally (c : Counter) (e : Effect) : Nat :=
  match c with
  | .rotations ok => if e.isRotation ok then 1 else 0
  | .linesFailed => e.failures
  | .backupsExpired => if e.isGone then 1 else 0
  | _ => 0

theorem count_counters (e : Effect) (c : Counter) :
    e.counters.count c = (e.records.flatMap Record.counters).count c + e.tally c := by
  cases e with
  | rotated outcome =>
    cases c with
    | rotations ok => cases outcome <;> cases ok <;> rfl
    | _ => rfl
  | read limit bytes ending =>
    rw [counters, Dispatch.count_lines]
    cases c <;> rfl
  | gone place => cases c <;> rfl

def told : Processing σ → List Effect
  | .rotating (.done outcome) => [.rotated outcome]
  | _ => []

/-- The places whose entries are gone. -/
def lost (f f' : Files) : List Place :=
  (f.nodes.map (·.1)).dedup.filter fun place => (f'.node? place).isNone

variable {f : Files} {place : Place}

theorem isSome_of_mem (stored : place ∈ f.nodes.map (·.1)) : (f.node? place).isSome := by
  by_cases root : place = []
  · rw [root]
    rfl
  · obtain ⟨entry, member, rfl⟩ := List.mem_map.1 stored
    rw [Files.node?_eq root, Option.isSome_map, List.find?_isSome]
    exact ⟨entry, member, beq_self_eq_true _⟩

theorem lost_self : lost f f = [] := by
  rw [lost, List.filter_eq_nil_iff]
  intro other member
  have there := isSome_of_mem (List.mem_dedup.1 member)
  rw [Option.isNone_iff_eq_none]
  exact Option.isSome_iff_ne_none.1 there

theorem lost_erase {node : Node} (there : f.node? place = some node) (leaf : node ≠ .directory) :
    lost f (f.erase place) = [place] := by
  have below := Files.ne_root_of_leaf there leaf
  have stored : place ∈ f.nodes.map (·.1) := by
    rw [Files.node?_eq below, Option.map_eq_some_iff] at there
    obtain ⟨entry, found, -⟩ := there
    have same : entry.1 = place := by simpa using List.find?_some found
    exact List.mem_map.2 ⟨entry, List.mem_of_find?_eq_some found, same⟩
  have only : lost f (f.erase place) = (f.nodes.map (·.1)).dedup.filter (· = place) := by
    apply List.filter_congr
    intro other member
    rw [Files.node?_erase below]
    have kept := isSome_of_mem (List.mem_dedup.1 member)
    by_cases same : other = place
    · simp [same]
    · simp [same, kept]
  rw [only, List.filter_eq, List.count_eq_one_of_mem (List.nodup_dedup _) (List.mem_dedup.2 stored)]
  rfl

theorem lost_remove (p : Path) (fault : Option Files.Fault) :
    (lost f (f.serve fault (.remove p)).2).length =
      if (f.serve fault (.remove p)).1.isOk then 1 else 0 := by
  rcases f.remove_answers p fault with ⟨failed, same⟩ | ⟨place, node, leads, leaf, served⟩
  · rw [failed, same, lost_self]
    rfl
  · rw [served, lost_erase (Files.node?_of_find leads).symm leaf]
    rfl

theorem counters_expel {s s' : Sweep} {fault : Option Files.Fault} {files : Files} {notes : Journal}
    (step : s.step fault f = (s', files, notes)) :
    notes.counters = List.replicate (lost f files).length .backupsExpired := by
  unfold Sweep.step at step
  cases pending : s.pending with
  | nil =>
    rw [pending] at step
    obtain ⟨-, rfl, rfl⟩ : s = s' ∧ f = files ∧ [] = notes := by simpa using step
    rw [lost_self]
    rfl
  | cons b rest =>
    rw [pending] at step
    obtain ⟨-, rfl, rfl⟩ : _ ∧ (f.serve fault (.remove b.path)).2 = files ∧
      Sweep.notes b (f.serve fault (.remove b.path)).1 = notes := by simpa using step
    rw [Sweep.counters_notes, lost_remove]
    split <;> rfl

end Effect

namespace Processing

theorem eq_waiting_of_rank {tick : Processing σ} (rank : tick.rank = (4, 0)) : tick = .waiting := by
  cases tick with
  | waiting => rfl
  | _ => cases rank

theorem exists_done_of_rank {tick : Processing σ} (rank : tick.rank = (0, 0)) :
    ∃ outcome, tick = .done outcome := by
  cases tick with
  | done outcome => exact ⟨outcome, rfl⟩
  | _ => cases rank

end Processing

/-- Calls to one processor, one after another. The handler's state comes with the records it was called
with. -/
structure CallSession (σ : Type) where
  rotator : Rotator
  scene : Scene (σ × List Record)
  current : CallState (σ × List Record) := .none
  past : List Effect := []

namespace CallSession

open Effect (told lost)

def turn (d : CallSession σ) (now : Processing (σ × List Record) × Journal) (past : List Effect) : CallSession σ :=
  { d with scene := d.scene.note now.2, current := .ticking now.1, past }

/-- A call begins when no other is under way, others change the files at any time, and the reader of a backup
delivers any bytes in any pieces, to the end or to a failure. -/
inductive Step (s : Settings) : CallSession σ → CallSession σ → Prop where
  | others {d : CallSession σ} (files : Files) : Step s d { d with scene := { d.scene with files } }
  | rotate {d : CallSession σ} (free : d.current = .none) : Step s d { d with current := .rotating .opening }
  | request {d : CallSession σ} {stage : Rotation.Stage} {w : Rotation} (now : Moment)
      (fault : Option Files.Fault) (rotating : d.current = .rotating stage)
      (asks : (stage.asks d.rotator.live).isSome)
      (step : w = Rotation.step now fault ⟨d.rotator, d.scene.files, stage, d.scene.notes⟩) :
      Step s d { d with rotator := w.rotator, current := .rotating w.stage,
                        scene := { d.scene with files := w.files, notes := w.notes } }
  | rotated {d : CallSession σ} {outcome : Except Failure Rotation.Rotated}
      (rotating : d.current = .rotating (.done outcome)) :
      Step s d { d with scene := d.scene.note (Rotation.report s.path outcome), current := .none,
                        past := d.past ++ [.rotated outcome] }
  | process {d : CallSession σ} (free : d.current = .none) : Step s d { d with current := .ticking .sizing }
  | granted {d : CallSession σ} (ticking : d.current = .ticking .waiting) :
      Step s d { d with current := .ticking (.rotating .opening) }
  | carry {d : CallSession σ} {tick : Processing (σ × List Record)} {a : Processing.Course (σ × List Record)}
      (now : Moment) (fault : Option Files.Fault) (ticking : d.current = .ticking tick)
      (closed : ∀ backup, tick ≠ .opening backup)
      (step : a = Processing.Course.step (Dispatch.recorded Violations.handler) s now fault
        ⟨tick, d.rotator, d.scene⟩) :
      Step s d ⟨a.rotator, a.scene, .ticking a.tick, d.past ++ told tick⟩
  | unopened {d : CallSession σ} {backup : Path} (cause : IoError) (ticking : d.current = .ticking (.opening backup)) :
      Step s d (d.turn (Processing.opened backup s.maxLineBytes.toNat d.scene.state (.error cause)) d.past)
  | opened {d : CallSession σ} {backup : Path} (chunks : List Bytes) {after : Source} {ending : Option IoError}
      (follows : Lines.After after ending) (ticking : d.current = .ticking (.opening backup)) :
      Step s d (d.turn
        (Processing.opened backup s.maxLineBytes.toNat d.scene.state (.ok (.ofChunks chunks after)))
        (d.past ++ [.read s.maxLineBytes.toNat chunks.flatten ending]))
  | processed {d : CallSession σ} {outcome : Except Failure (Option Summary)}
      (ticking : d.current = .ticking (.done outcome)) : Step s d { d with current := .none }
  | expire {d : CallSession σ} {sweep : Sweep} (now : Moment) (free : d.current = .none)
      (started : Sweep.start d.scene.files s.path s.retention now = .ok sweep) :
      Step s d { d with current := .sweeping sweep }
  | unlisted {d : CallSession σ} {failure : Failure} (now : Moment) (free : d.current = .none)
      (failed : Sweep.start d.scene.files s.path s.retention now = .error failure) : Step s d d
  | expel {d : CallSession σ} {sweep sweep' : Sweep} {files : Files} {notes : Journal}
      (fault : Option Files.Fault) (sweeping : d.current = .sweeping sweep)
      (step : sweep.step fault d.scene.files = (sweep', files, notes)) :
      Step s d { d with scene := Scene.note { d.scene with files } notes, current := .sweeping sweep',
                        past := d.past ++ (lost d.scene.files files).map .gone }
  | expired {d : CallSession σ} {sweep : Sweep} (sweeping : d.current = .sweeping sweep)
      (ended : sweep.pending = []) : Step s d { d with current := .none }

inductive Run (s : Settings) (start : CallSession σ) : CallSession σ → Prop where
  | here : Run s start start
  | next {d d' : CallSession σ} (run : Run s start d) (step : Step s d d') : Run s start d'

structure Fresh (d : CallSession σ) : Prop where
  free : d.current = .none
  silent : d.scene.notes = []
  uncalled : d.scene.state.2 = []
  past : d.past = []

/-- The counters agree with the effects of the calls, except for the lines still to be read. -/
structure Agrees (d : CallSession σ) : Prop where
  raised : ∀ c, d.scene.notes.raised c + (d.current.left.flatMap Dispatch.counters).count c =
    (d.past.flatMap Effect.counters).count c
  handled : d.scene.state.2 ++ d.current.left.filterMap Dispatch.held? = d.past.flatMap Effect.records

variable {s : Settings} {d d' : CallSession σ}

theorem Fresh.agrees (fresh : Fresh d) : Agrees d where
  raised c := by
    rw [fresh.free, fresh.silent, fresh.past]
    rfl
  handled := by
    rw [fresh.free, fresh.uncalled, fresh.past]
    rfl

theorem Agrees.frame (agrees : Agrees d) (more : List Effect) (before : d.current.left = [])
    (after : d'.current.left = []) (past : d'.past = d.past ++ more)
    (state : d'.scene.state = d.scene.state) (silent : more.flatMap Effect.records = [])
    (notes : ∀ c, d'.scene.notes.raised c = d.scene.notes.raised c + (more.flatMap Effect.counters).count c) :
    Agrees d' where
  raised c := by
    have balance := agrees.raised c
    rw [before] at balance
    rw [after, past, notes, List.flatMap_append, List.count_append]
    simp only [List.flatMap_nil, List.count_nil] at balance ⊢
    omega
  handled := by
    have balance := agrees.handled
    rw [before] at balance
    rw [after, past, state, List.flatMap_append, silent]
    simpa using balance

theorem Agrees.still (agrees : Agrees d) (before : d.current.left = []) (after : d'.current.left = [])
    (past : d'.past = d.past) (scene : d'.scene = d.scene) : Agrees d' :=
  agrees.frame [] before after (by rw [past, List.append_nil]) (by rw [scene]) rfl (by rw [scene]; simp)

theorem raised_note (scene : Scene σ) (notes : Journal) (c : Counter) :
    (scene.note notes).notes.raised c = scene.notes.raised c + notes.counters.count c := by
  rw [Scene.note, Journal.raised_append, Journal.raised_reverse, Nat.add_comm]
  rfl

theorem left_sized (live : Path) (answer : Files.Answer) :
    (CallState.ticking (Processing.sized (σ := σ) live answer).1).left = [] := by
  unfold Processing.sized
  split <;> rfl

theorem left_rotated (live : Path) (outcome : Except Failure Rotation.Rotated) :
    (CallState.ticking (Processing.rotated (σ := σ) live outcome).1).left = [] := by
  cases outcome <;> rfl

theorem Agrees.carry (agrees : Agrees d) {tick : Processing (σ × List Record)} (now : Moment)
    (fault : Option Files.Fault) (ticking : d.current = .ticking tick)
    (closed : ∀ backup, tick ≠ .opening backup) {a : Processing.Course (σ × List Record)}
    (step : a = Processing.Course.step (Dispatch.recorded Violations.handler) s now fault
      ⟨tick, d.rotator, d.scene⟩) :
    Agrees ⟨a.rotator, a.scene, .ticking a.tick, d.past ++ told tick⟩ := by
  subst step
  have before : d.current.left = CallState.left (.ticking tick) := by rw [ticking]
  cases tick with
  | sizing =>
    refine agrees.frame [] before (left_sized _ _) rfl rfl rfl fun c => ?_
    have quiet := Processing.counters_sized (σ := σ × List Record) s.path
      (d.scene.files.serve fault (.size s.path)).1
    exact (raised_note _ _ c).trans (congrArg (fun counters => d.scene.notes.raised c + counters.count c) quiet)
  | waiting => exact agrees.frame [] before rfl rfl rfl rfl fun c => rfl
  | rotating stage =>
    cases stage with
    | done outcome =>
      refine agrees.frame [.rotated outcome] before (left_rotated s.path outcome) rfl rfl rfl fun c => ?_
      have noted := raised_note d.scene (Rotation.report s.path outcome) c
      rw [Rotation.counters_report] at noted
      exact noted
    | _ => exact agrees.frame [] before rfl rfl rfl rfl fun c => Rotation.raised_step now fault _ c
  | opening backup => exact absurd rfl (closed backup)
  | reading backup lines ending r =>
    cases lines with
    | nil => exact agrees.frame [] before rfl rfl rfl rfl fun c => raised_note _ _ c
    | cons line lines =>
      refine ⟨fun c => ?_, ?_⟩
      · have balance := agrees.raised c
        rw [before, CallState.left, List.flatMap_cons, List.count_append] at balance
        have taken := Dispatch.raised_take backup s.maxLineBytes.toNat (c := c)
          (Dispatch.counting_recorded (Dispatch.counting_violations (σ := σ)))
          { r with state := d.scene.state, notes := d.scene.notes } line
        simp only [Processing.Course.step, CallState.left, told, List.append_nil, taken]
        omega
      · have balance := agrees.handled
        rw [before, CallState.left] at balance
        have taken := Dispatch.take_recorded Violations.handler backup s.maxLineBytes.toNat
          { r with state := d.scene.state, notes := d.scene.notes } line
        simp only [Processing.Course.step, CallState.left, told, List.append_nil, taken]
        rw [← balance, List.append_assoc]
        cases held : Dispatch.held? line <;> simp [held]
  | done outcome => exact agrees.frame [] before rfl rfl rfl rfl fun c => rfl

theorem agrees_step (agrees : Agrees d) (step : Step s d d') : Agrees d' := by
  cases step with
  | others files => exact ⟨agrees.raised, agrees.handled⟩
  | rotate free => exact agrees.still (by rw [free]; rfl) rfl rfl rfl
  | @request stage w now fault rotating asks step =>
    refine agrees.frame [] (by rw [rotating]; rfl) rfl (List.append_nil _).symm rfl rfl fun c => ?_
    subst step
    exact Rotation.raised_step now fault _ c
  | @rotated outcome rotating =>
    refine agrees.frame [.rotated outcome] (by rw [rotating]; rfl) rfl rfl rfl rfl fun c => ?_
    exact (raised_note _ _ c).trans (by rw [Rotation.counters_report]; rfl)
  | process free => exact agrees.still (by rw [free]; rfl) rfl rfl rfl
  | granted ticking => exact agrees.still (by rw [ticking]; rfl) rfl rfl rfl
  | carry now fault ticking closed step => exact agrees.carry now fault ticking closed step
  | @unopened backup cause ticking =>
    refine agrees.frame [] (by rw [ticking]; rfl) rfl (List.append_nil _).symm rfl rfl fun c => ?_
    exact (raised_note _ _ c).trans (by rw [Processing.counters_opened]; rfl)
  | @opened backup chunks after ending follows ticking =>
    have before : d.current.left = [] := by rw [ticking]; rfl
    have lines := Lines.read_chunks s.maxLineBytes.toNat chunks follows
    refine ⟨fun c => ?_, ?_⟩
    · have balance := agrees.raised c
      rw [before] at balance
      simp only [turn, Processing.opened, Processing.begin, CallState.left, lines, List.flatMap_append,
        List.count_append, raised_note, List.flatMap_singleton, Effect.counters]
      simpa using balance
    · have balance := agrees.handled
      rw [before] at balance
      simp only [turn, Processing.opened, Processing.begin, CallState.left, lines, List.flatMap_append,
        List.flatMap_singleton, Effect.records, Scene.note]
      rw [← balance]
      simp [List.filterMap_map, Dispatch.held?_judge]
  | processed ticking => exact agrees.still (by rw [ticking]; rfl) rfl rfl rfl
  | expire now free started => exact agrees.still (by rw [free]; rfl) rfl rfl rfl
  | unlisted => exact agrees
  | @expel sweep sweep' files notes fault sweeping step =>
    refine agrees.frame ((lost d.scene.files files).map .gone) (by rw [sweeping]; rfl) rfl rfl rfl
      (by simp [List.flatMap_map, Effect.records]) fun c => (raised_note _ _ c).trans ?_
    have gone : ((lost d.scene.files files).map Effect.gone).flatMap Effect.counters =
        List.replicate (lost d.scene.files files).length .backupsExpired := by
      simp only [List.flatMap_map, Effect.counters]
      rw [← List.map_eq_flatMap, List.map_const']
    rw [gone, Effect.counters_expel step]
  | expired sweeping => exact agrees.still (by rw [sweeping]; rfl) rfl rfl rfl

theorem Run.agrees {start : CallSession σ} (run : Run s start d) (fresh : Fresh start) : Agrees d := by
  induction run with
  | here => exact fresh.agrees
  | next _ step ih => exact agrees_step ih step

/-- The processing tick `a` is under way. -/
structure At (d : CallSession σ) (a : Processing.Course (σ × List Record)) : Prop where
  rotator : d.rotator = a.rotator
  scene : d.scene = a.scene
  current : d.current = .ticking a.tick

theorem exists_opening {backup : Path} (now : Moment) (fault : Option Files.Fault)
    (ticking : d.current = .ticking (.opening backup)) :
    ∃ d', Step s d d' ∧ d'.At (Processing.Course.step (Dispatch.recorded Violations.handler) s now fault
        ⟨.opening backup, d.rotator, d.scene⟩) := by
  cases fault with
  | some spoilt => exact ⟨_, .unopened spoilt.cause ticking, rfl, rfl, rfl⟩
  | none =>
    simp only [Processing.Course.step]
    cases opened : d.scene.files.source backup with
    | error cause => exact ⟨_, .unopened cause ticking, rfl, rfl, rfl⟩
    | ok source =>
      unfold Files.source at opened
      split at opened
      · cases opened
      · obtain rfl := Except.ok.inj opened
        exact ⟨_, .opened [] (.failure _ []) ticking, rfl, rfl, rfl⟩
      · cases opened
      · split at opened
        · obtain rfl := Except.ok.inj opened
          exact ⟨_, .opened [] (.failure _ []) ticking, rfl, rfl, rfl⟩
        · next content _ =>
          obtain rfl := Except.ok.inj opened
          exact ⟨_, .opened [content] .nothing ticking, rfl, rfl, rfl⟩

/-- Every step of a tick is a step of the session. -/
theorem At.step {a : Processing.Course (σ × List Record)} (at_ : d.At a) (s : Settings) (now : Moment)
    (fault : Option Files.Fault) :
    ∃ d', Step s d d' ∧ d'.At (a.step (Dispatch.recorded Violations.handler) s now fault) := by
  obtain ⟨tick, rotator, scene⟩ := a
  obtain ⟨rfl, rfl, ticking⟩ := at_
  by_cases opening : ∃ backup, tick = .opening backup
  · obtain ⟨backup, rfl⟩ := opening
    exact exists_opening now fault ticking
  · exact ⟨_, .carry now fault ticking (fun backup same => opening ⟨backup, same⟩) rfl, rfl, rfl, rfl⟩

theorem At.grant {a : Processing.Course (σ × List Record)} (at_ : d.At a) (waits : a.tick = .waiting) (s : Settings) :
    Step s d { d with current := .ticking (.rotating .opening) } ∧
      At { d with current := .ticking (.rotating .opening) } ⟨.rotating .opening, a.rotator, a.scene⟩ :=
  ⟨.granted (by rw [at_.current, waits]), at_.rotator, at_.scene, rfl⟩

theorem At.run {start : CallSession σ} {a : Processing.Course (σ × List Record)} (at_ : d.At a)
    (run : Run s start d) (now : Moment) (n : Nat) : ∃ d', Run s start d' ∧
      d'.At (Nat.repeat (Processing.Course.step (Dispatch.recorded Violations.handler) s now none) n a) := by
  induction n with
  | zero => exact ⟨d, run, at_⟩
  | succ n ih =>
    obtain ⟨d', run, at_'⟩ := ih
    obtain ⟨d'', step, at_''⟩ := at_'.step s now none
    exact ⟨d'', run.next step, at_''⟩

theorem count_past (past : List Effect) (c : Counter) : (past.flatMap Effect.counters).count c =
    ((past.flatMap Effect.records).flatMap Record.counters).count c + (past.map (Effect.tally c)).sum := by
  induction past with
  | nil => rfl
  | cons e rest ih =>
    rw [List.flatMap_cons, List.count_append, ih, List.flatMap_cons, List.flatMap_append, List.count_append,
      Effect.count_counters, List.map_cons, List.sum_cons]
    omega

theorem sum_countP {α : Type} (p : α → Bool) (items : List α) :
    (items.map fun item => if p item then 1 else 0).sum = items.countP p := by
  induction items with
  | nil => rfl
  | cons item rest ih =>
    rw [List.map_cons, List.sum_cons, ih, List.countP_cons, Nat.add_comm]

/-- Whenever no call is under way, every counter equals the number of its effects: successful and failed
rotations, handled records, failed lines, removed backups, and for each label set the records with messages
and the messages with a status or rule. The order of the lines of a file makes no difference, and every step
of a tick is a step of the session. -/
theorem counters_agree {start : CallSession σ} (run : Run s start d) (fresh : Fresh start) (free : d.current = .none) :
    (∀ ok, d.scene.notes.raised (.rotations ok) = d.past.countP (Effect.isRotation ok)) ∧
    d.scene.notes.raised .recordsProcessed = d.scene.state.2.length ∧
    d.scene.state.2 = d.past.flatMap Effect.records ∧
    d.scene.notes.raised .linesFailed = (d.past.map Effect.failures).sum ∧
    d.scene.notes.raised .backupsExpired = d.past.countP Effect.isGone ∧
    (∀ labels status, d.scene.notes.raised (.transactions labels status) =
      (Record.breaking d.scene.state.2).count (labels, status)) ∧
    (∀ labels rule, d.scene.notes.raised (.ruleViolations labels rule) =
      (Record.broken d.scene.state.2).count (labels, rule)) ∧
    (∀ (chunks chunks' : List Bytes) (limit : Nat) (path : Path) (state : σ) (c : Counter),
      (Lines.cut chunks.flatten).Perm (Lines.cut chunks'.flatten) →
        Journal.raised (Dispatch.run Violations.handler path limit (.ofChunks chunks []) state).2.2 c =
          Journal.raised (Dispatch.run Violations.handler path limit (.ofChunks chunks' []) state).2.2 c) ∧
    ∀ (e : CallSession σ) a now fault, e.At a → ∃ e', Step s e e' ∧
      e'.At (a.step (Dispatch.recorded Violations.handler) s now fault) := by
  obtain ⟨raised, handled⟩ := run.agrees fresh
  have left : d.current.left = [] := by
    rw [free]
    rfl
  rw [left, List.filterMap_nil, List.append_nil] at handled
  have total : ∀ c, d.scene.notes.raised c = ((d.scene.state.2.flatMap Record.counters).count c) +
      (d.past.map (Effect.tally c)).sum := by
    intro c
    have balance := raised c
    rw [left, count_past, ← handled] at balance
    exact balance
  have apart : ∀ c, (∀ e, Effect.tally c e = 0) → (d.past.map (Effect.tally c)).sum = 0 := by
    intro c zero
    rw [funext zero, List.map_const', List.sum_replicate_nat, Nat.mul_zero]
  refine ⟨fun ok => ?_, ?_, handled, ?_, ?_, fun labels status => ?_, fun labels rule => ?_, ?_,
    fun e a now fault at_ => at_.step s now fault⟩
  · rw [total, Record.count_counters, ← sum_countP]
    exact Nat.zero_add _
  · rw [total, Record.count_counters, apart _ fun _ => rfl]
    rfl
  · rw [total, Record.count_counters]
    exact Nat.zero_add _
  · rw [total, Record.count_counters, ← sum_countP]
    exact Nat.zero_add _
  · rw [total, Record.count_counters, apart _ fun _ => rfl]
    rfl
  · rw [total, Record.count_counters, apart _ fun _ => rfl]
    rfl
  · intro chunks chunks' limit path state c same
    exact Dispatch.raised_perm Dispatch.counting_violations same path path state state

theorem counters_agree_handled :
    let s : Settings := { path := ⟨[0x61]⟩ }
    let line := "\x7b\"transaction\":\x7b\"request\":\x7b\"method\":\"GET\",\"uri\":\"/x\"\x7d,\"response\":" ++
      "\x7b\"status\":403\x7d\x7d,\"messages\":[\x7b\"data\":\x7b\"file\":\"f\",\"id\":7\x7d\x7d]\x7d\n"
    let files := (Files.single [0x61] (Utf8.encode line)).addFile [[0x61, 0x2E, 0x35]] []
    let start : CallSession Unit := { rotator := { live := s.path }, scene := { files, state := ((), []) } }
    let labels : Labels := ⟨"GET", "", "/x"⟩
    ∃ d, Run s start d ∧ d.current = .none ∧ d.past.countP (Effect.isRotation true) = 1 ∧
      d.past.countP Effect.isGone = 1 ∧ d.scene.notes.raised (.transactions labels "403") = 1 ∧
      d.scene.notes.raised (.ruleViolations labels "f-7") = 1 := by
  intro s line files start labels
  have fresh : Fresh start := ⟨rfl, rfl, rfl, rfl⟩
  let now : Moment := .ofSeconds 100000 0
  let sweep : Sweep := { pending := [⟨⟨[0x2E, 0x2F, 0x61, 0x2E, 0x35]⟩, 5⟩], scanned := 1 }
  let swept := sweep.step none files
  let step := Processing.Course.step (Dispatch.recorded (Violations.handler (σ := Unit))) s now none
  let sized := Nat.repeat step 1 ⟨.sizing, start.rotator, Scene.note { start.scene with files := swept.2.1 } swept.2.2⟩
  let read := Nat.repeat step 9 ⟨.rotating .opening, sized.rotator, sized.scene⟩
  have listed : (Sweep.start files s.path s.retention now).toOption = some sweep := by decide +kernel
  have waits : sized.tick.rank = (4, 0) := by decide +kernel
  have ends : read.tick.rank = (0, 0) := by decide +kernel
  have labelled : (Record.breaking read.scene.state.2, Record.broken read.scene.state.2) =
      ([(labels, "403")], [(labels, "f-7")]) := by decide +kernel
  have counted : (read.scene.notes.raised (.rotations true), read.scene.notes.raised .backupsExpired) = (1, 1) := by
    decide +kernel
  have sweeping := Run.here.next (Step.expire (s := s) (d := start) now rfl (ok_of_toOption listed))
  have ticking := ((sweeping.next (.expel none rfl rfl)).next (.expired rfl rfl)).next (.process rfl)
  obtain ⟨d₁, sizing, at₁⟩ : ∃ d₁, Run s start d₁ ∧ d₁.At sized := At.run ⟨rfl, rfl, rfl⟩ ticking now 1
  obtain ⟨granted, opening⟩ := at₁.grant (Processing.eq_waiting_of_rank waits) s
  obtain ⟨d₂, reading, at₂⟩ : ∃ d₂, Run s start d₂ ∧ d₂.At read := opening.run (sizing.next granted) now 9
  obtain ⟨outcome, done⟩ := Processing.exists_done_of_rank ends
  have run := reading.next (.processed (done ▸ at₂.current))
  obtain ⟨rotations, -, -, -, gone, transactions, violations, -⟩ := counters_agree run fresh rfl
  obtain ⟨breaking, broken⟩ := Prod.mk.inj labelled
  obtain ⟨rotated, expired⟩ := Prod.mk.inj counted
  refine ⟨_, run, rfl, ?_, ?_, ?_, ?_⟩
  · rw [← rotations, at₂.scene]
    exact rotated
  · rw [← gone, at₂.scene]
    exact expired
  · rw [transactions, at₂.scene, breaking]
    exact List.count_singleton_self
  · rw [violations, at₂.scene, broken]
    exact List.count_singleton_self

end CallSession
end AuditTrail
