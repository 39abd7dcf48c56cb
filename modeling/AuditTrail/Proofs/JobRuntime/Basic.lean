import AuditTrail.Processor
import Mathlib.Data.List.Basic
import Mathlib.Logic.Function.Basic

/-! The runtime of a processor as a transition system. The owner calls the processor and may drop a
call; the loops poll the signal and their timers and step through their ticks in any order; time
passes, and others change the files. An accepted stop is answered when every loop has ended or its
deadline has passed. The history fields are read by no event. -/
namespace AuditTrail

variable {σ : Type}

inductive Call where
  | start (job : Job)
  | stop (deadline : Duration)
  deriving DecidableEq

/-- A call with its answer, if it has one. `waited` and `late` belong to a stop: the time until its answer,
and the jobs that had not ended by then. -/
structure Called where
  call : Call
  answer : Option (Except Failure Unit)
  waited : Nat := 0
  late : List Job := []
  deriving DecidableEq

inductive Owner where
  | free
  | stopping (deadline : Duration) (since : Nat)
  | gone

/-- A line of a backup, with the handler's state before and after it. -/
structure Handling (σ : Type) where
  line : Line
  before : σ
  after : σ
  deriving DecidableEq

/-- What a tick has done. -/
inductive Mark (σ : Type) where
  | rotated (backup : Path)
  | opened (backup : Path) (source : Source)
  | handled (h : Handling σ)
  | returned (outcome : Except Failure (Option Summary))
  | listed (expired : List Backup.Listed)
  | tried (backup : Backup.Listed)
  | swept (outcome : Except Failure Sweep.Summary)
  deriving DecidableEq

structure TickRun (σ : Type) where
  tick : Tick σ
  rotator : Rotator
  scene : Scene σ
  sweep : Option Sweep := none
  marks : List (Mark σ) := []

namespace TickRun

/-- The marks of one step of a processing tick. -/
def told (course next : Processing.Course σ) : List (Mark σ) :=
  match course.tick, next.tick with
  | .rotating _, .opening backup => [.rotated backup]
  | .opening backup, .reading .. => match course.scene.files.source backup with
    | .ok source => [.opened backup source]
    | .error _ => []
  | .reading _ (line :: _) _ _, _ => [.handled ⟨line, course.scene.state, next.scene.state⟩]
  | _, _ => []

def step (handler : Handler σ) (settings : Settings) (now : Moment) (fault : Option Files.Fault)
    (l : TickRun σ) : Option (TickRun σ) :=
  match l.tick with
  | .processing (.done _) | .swept _ => none
  | .processing .waiting => some { l with tick := .processing (.rotating .opening) }
  | .processing tick =>
    let course : Processing.Course σ := ⟨tick, l.rotator, l.scene⟩
    let next := course.step handler settings now fault
    some { l with tick := .processing next.tick, rotator := next.rotator, scene := next.scene,
                  marks := l.marks ++ told course next }
  | .sweeping => match l.sweep with
    | none => match Sweep.start l.scene.files settings.path settings.retention now with
      | .error failure => some { l with tick := .swept (.error failure) }
      | .ok sweep => some { l with sweep := some sweep, marks := l.marks ++ [.listed sweep.pending] }
    | some sweep => match sweep.pending with
      | [] => some { l with tick := .swept (.ok sweep.summary), sweep := none }
      | backup :: _ =>
        let (sweep, files, notes) := sweep.step fault l.scene.files
        some { l with scene := { l.scene with files }.note notes, sweep := some sweep,
                      marks := l.marks ++ [.tried backup] }

end TickRun

def Tick.ending : Tick σ → List (Mark σ)
  | .processing (.done outcome) => [.returned outcome]
  | .swept outcome => [.swept outcome]
  | _ => []

/-- The effects of a poll: the loop goes to sleep, ends, finds the signal not raised, begins a tick, or goes
back to sleep after one. -/
inductive JobLoop.Polls (job : Job) (cancelled : Bool) : JobLoop σ → JobLoop σ → Prop where
  | first {due : Nat} : Polls job cancelled .fresh (.sleeping due)
  | ended {due : Nat} (raised : cancelled = true) : Polls job cancelled (.sleeping due) .ended
  | looked {due : Nat} (calm : cancelled = false) : Polls job cancelled (.sleeping due) (.unsignalled due)
  | slept {due : Nat} : Polls job cancelled (.unsignalled due) (.sleeping due)
  | begun {due next : Nat} : Polls job cancelled (.unsignalled due) (.ticking (Tick.start job) next)
  | rested {tick : Tick σ} {due : Nat} (closed : tick.closing?.isSome) :
      Polls job cancelled (.ticking tick due) (.sleeping due)

theorem JobLoop.polls {job : Job} {period : Duration} {cancelled : Bool} {now : Nat}
    {loop next : JobLoop σ} {notes : Journal}
    (polled : loop.poll job period cancelled now = some (next, notes)) : loop.Polls job cancelled next := by
  cases loop with
  | fresh =>
    obtain ⟨rfl, -⟩ := Prod.mk.inj (Option.some.inj polled)
    exact .first
  | sleeping due =>
    cases cancelled with
    | true =>
      obtain ⟨rfl, -⟩ := Prod.mk.inj (Option.some.inj polled)
      exact .ended rfl
    | false =>
      obtain ⟨rfl, -⟩ := Prod.mk.inj (Option.some.inj polled)
      exact .looked rfl
  | unsignalled due =>
    simp only [poll] at polled
    split at polled <;> obtain ⟨rfl, -⟩ := Prod.mk.inj (Option.some.inj polled)
    · exact .begun
    · exact .slept
  | ticking tick due =>
    obtain ⟨report, closed, same⟩ := Option.map_eq_some_iff.1 polled
    obtain ⟨rfl, -⟩ := Prod.mk.inj same
    exact .rested (by rw [closed]; rfl)
  | ended => cases polled

structure JobRuntime (σ : Type) where
  processor : Processor σ
  scene : Scene σ
  clock : Nat := 0
  owner : Owner := .free
  /-- The sweep of each loop, if one is under way. -/
  sweeps : Nat → Option Sweep := fun _ => none
  /-- The calls, latest first. -/
  past : List Called := []
  /-- The marks of the ticks of each loop, latest tick first. -/
  ticks : Nat → List (List (Mark σ)) := fun _ => []

namespace JobRuntime

inductive Event (σ : Type) where
  | call (c : Call)
  | answer
  | forget
  | abandon
  | poll (k : Nat)
  | carry (k : Nat) (now : Moment) (fault : Option Files.Fault)
  | pass (nanos : Nat)
  /-- Others change the files, or rotate on request. -/
  | meddle (scene : Scene σ) (last : Nat)

def begin (processor : Processor σ) (scene : Scene σ) : JobRuntime σ := { processor, scene }

abbrev life (t : JobRuntime σ) : Lifecycle := t.processor.life

abbrev loops (t : JobRuntime σ) : List (Job × JobLoop σ) := t.processor.loops

def withLife (t : JobRuntime σ) (life : Lifecycle) : JobRuntime σ :=
  { t with processor := { t.processor with life } }

def setLoop (t : JobRuntime σ) (k : Nat) (job : Job) (loop : JobLoop σ) : JobRuntime σ :=
  { t with processor := { t.processor with loops := t.processor.loops.set k (job, loop) } }

def late (t : JobRuntime σ) : List Job := (t.loops.filter fun (_, loop) => !loop.isEnded).map (·.1)

def noted (t : JobRuntime σ) (c : Call) (answer : Option (Except Failure Unit)) : JobRuntime σ :=
  { t with past := ⟨c, answer, 0, []⟩ :: t.past }

def call (t : JobRuntime σ) (c : Call) : JobRuntime σ :=
  match c with
  | .start job => match t.processor.start job with
    | .ok processor => { t.noted c (some (.ok ())) with processor }
    | .error failure => t.noted c (some (.error failure))
  | .stop deadline => match t.life.stop with
    | .ok life => { (t.noted c none).withLife life with owner := .stopping deadline t.clock }
    | .error failure => t.noted c (some (.error failure))

/-- The answer of a stop belongs to the latest call. -/
def answer (t : JobRuntime σ) (deadline : Duration) (since : Nat) : JobRuntime σ :=
  let ended := t.processor.allEnded
  { t.withLife (t.life.settle ended) with
    owner := .free
    past := t.past.modifyHead fun c =>
      { c with answer := some (Lifecycle.verdict deadline ended), waited := t.clock - since, late := t.late } }

def remembered (loop next : JobLoop σ) (ticks : List (List (Mark σ))) : List (List (Mark σ)) :=
  match loop, next with
  | .unsignalled _, .ticking _ _ => [] :: ticks
  | .ticking tick _, .sleeping _ => ticks.modifyHead (· ++ tick.ending)
  | _, _ => ticks

def polled (t : JobRuntime σ) (k : Nat) (job : Job) (loop next : JobLoop σ) (notes : Journal) : JobRuntime σ :=
  { t.setLoop k job next with
    scene := t.scene.note notes
    sweeps := Function.update t.sweeps k none
    ticks := Function.update t.ticks k (remembered loop next (t.ticks k)) }

def tickRun (t : JobRuntime σ) (k : Nat) (tick : Tick σ) : TickRun σ :=
  ⟨tick, t.processor.rotator, t.scene, t.sweeps k, (t.ticks k).headD []⟩

def resume (t : JobRuntime σ) (k : Nat) (job : Job) (due : Nat) (l : TickRun σ) : JobRuntime σ :=
  let t := t.setLoop k job (.ticking l.tick due)
  { t with
    processor := { t.processor with rotator := l.rotator }
    scene := l.scene
    sweeps := Function.update t.sweeps k l.sweep
    ticks := Function.update t.ticks k (l.marks :: (t.ticks k).tail) }

def act (t : JobRuntime σ) : Event σ → Option (JobRuntime σ)
  | .call c => match t.owner with
    | .free => some (t.call c)
    | _ => none
  | .answer => match t.owner with
    | .stopping deadline since =>
      if t.processor.allEnded ∨ since + deadline.nanos ≤ t.clock then some (t.answer deadline since)
      else none
    | _ => none
  | .forget => match t.owner with
    | .stopping _ _ => some { t with owner := .free }
    | _ => none
  | .abandon => match t.owner with
    | .free => some { t.withLife t.life.abandon with owner := .gone }
    | _ => none
  | .poll k => match t.loops[k]? with
    | some (job, loop) =>
      (loop.poll job (t.processor.settings.period job) t.life.cancelled t.clock).map fun (next, notes) =>
        t.polled k job loop next notes
    | none => none
  | .carry k now fault => match t.loops[k]? with
    | some (job, .ticking tick due) =>
      ((t.tickRun k tick).step t.processor.handler t.processor.settings now fault).map (t.resume k job due)
    | _ => none
  | .pass nanos => some { t with clock := t.clock + nanos }
  | .meddle scene last =>
    some { t with scene, processor := { t.processor with rotator := { t.processor.rotator with last } } }

def play (t : JobRuntime σ) : List (Event σ) → Option (JobRuntime σ)
  | [] => some t
  | e :: rest => (t.act e).bind fun t' => t'.play rest

inductive Run (start : JobRuntime σ) : JobRuntime σ → Prop where
  | here : Run start start
  | next {t t' : JobRuntime σ} {e : Event σ} (run : Run start t) (acted : t.act e = some t') : Run start t'

variable {t t' start : JobRuntime σ} {e : Event σ}

theorem Run.one (acted : t.act e = some t') : Run t t' := .next .here acted

theorem Run.trans (first : Run start t) (second : Run t t') : Run start t' := by
  induction second with
  | here => exact first
  | next _ acted ih => exact ih.next acted

theorem run_of_play {events : List (Event σ)} (run : Run start t) (played : t.play events = some t') :
    Run start t' := by
  induction events generalizing t with
  | nil =>
    obtain rfl := Option.some.inj played
    exact run
  | cons e rest ih =>
    obtain ⟨middle, acted, onward⟩ := Option.bind_eq_some_iff.1 played
    exact ih (run.next acted) onward

def spawn (t : JobRuntime σ) (job : Job) : JobRuntime σ :=
  { t with processor := { t.processor with
      life := { t.life with phase := .running, spawned := t.life.spawned ++ [job] }
      loops := t.loops ++ [(job, .fresh)] } }

inductive Answers (t : JobRuntime σ) : Call → JobRuntime σ → Prop where
  | tooLate {job : Job} (ceased : t.life.phase.isOver = true) :
      Answers t (.start job) (t.noted (.start job) (some (.error .stopped)))
  | disabled {job : Job} (live : t.life.phase.isOver = false)
      (off : t.processor.settings.enabled job = false) :
      Answers t (.start job) (t.noted (.start job) (some (.ok ())))
  | again {job : Job} (live : t.life.phase.isOver = false) (on : t.processor.settings.enabled job = true)
      (spawned : job ∈ t.life.spawned) :
      Answers t (.start job) (t.noted (.start job) (some (.error (.running job))))
  | spawned {job : Job} (live : t.life.phase.isOver = false) (on : t.processor.settings.enabled job = true)
      (fresh : job ∉ t.life.spawned) :
      Answers t (.start job) ((t.noted (.start job) (some (.ok ()))).spawn job)
  | notRunning {deadline : Duration} (ceased : t.life.phase.isOver = true) :
      Answers t (.stop deadline) (t.noted (.stop deadline) (some (.error .notRunning)))
  | waits {deadline : Duration} (live : t.life.phase.isOver = false) :
      Answers t (.stop deadline)
        { (t.noted (.stop deadline) none).withLife { t.life with phase := .stopping, cancelled := true } with
          owner := .stopping deadline t.clock }

theorem answers (t : JobRuntime σ) (c : Call) : t.Answers c (t.call c) := by
  cases c with
  | start job =>
    cases ceased : t.life.phase.isOver with
    | true =>
      have started : t.processor.start job = .error .stopped := by
        simp [Processor.start, Lifecycle.start, ceased]
      simp only [call, started]
      exact .tooLate ceased
    | false => cases enabled : t.processor.settings.enabled job with
      | false =>
        have started : t.processor.start job = .ok t.processor := by
          simp [Processor.start, Lifecycle.start, ceased, enabled]
        simp only [call, started]
        exact .disabled ceased enabled
      | true =>
        by_cases spawned : job ∈ t.life.spawned
        · have started : t.processor.start job = .error (.running job) := by
            simp [Processor.start, Lifecycle.start, ceased, enabled, spawned]
          simp only [call, started]
          exact .again ceased enabled spawned
        · have started : t.processor.start job = .ok (t.spawn job).processor := by
            simp [Processor.start, Lifecycle.start, ceased, enabled, spawned, spawn]
          simp only [call, started]
          exact .spawned ceased enabled spawned
  | stop deadline =>
    unfold call Lifecycle.stop
    cases ceased : t.life.phase.isOver with
    | true => exact .notRunning ceased
    | false => exact .waits ceased

inductive Comes (t : JobRuntime σ) : Event σ → JobRuntime σ → Prop where
  | called {c : Call} {t' : JobRuntime σ} (free : t.owner = .free) (answers : t.Answers c t') :
      Comes t (.call c) t'
  | answered {deadline : Duration} {since : Nat} (waits : t.owner = .stopping deadline since)
      (due : t.processor.allEnded = true ∨ since + deadline.nanos ≤ t.clock) :
      Comes t .answer (t.answer deadline since)
  | forgotten {deadline : Duration} {since : Nat} (waits : t.owner = .stopping deadline since) :
      Comes t .forget { t with owner := .free }
  | abandoned (free : t.owner = .free) :
      Comes t .abandon { t.withLife t.life.abandon with owner := .gone }
  | polled {k : Nat} {job : Job} {loop next : JobLoop σ} {notes : Journal}
      (here : t.loops[k]? = some (job, loop))
      (polled : loop.poll job (t.processor.settings.period job) t.life.cancelled t.clock = some (next, notes)) :
      Comes t (.poll k) (t.polled k job loop next notes)
  | carried {k : Nat} {job : Job} {tick : Tick σ} {due : Nat} {now : Moment}
      {fault : Option Files.Fault} {l : TickRun σ} (here : t.loops[k]? = some (job, .ticking tick due))
      (stepped : (t.tickRun k tick).step t.processor.handler t.processor.settings now fault = some l) :
      Comes t (.carry k now fault) (t.resume k job due l)
  | passed {nanos : Nat} : Comes t (.pass nanos) { t with clock := t.clock + nanos }
  | meddled {scene : Scene σ} {last : Nat} : Comes t (.meddle scene last)
      { t with scene, processor := { t.processor with rotator := { t.processor.rotator with last } } }

theorem comes (acted : t.act e = some t') : t.Comes e t' := by
  cases e with
  | call c =>
    simp only [act] at acted
    split at acted
    · next free =>
      obtain rfl := Option.some.inj acted
      exact .called free (answers t c)
    · cases acted
  | answer =>
    simp only [act] at acted
    split at acted
    · next waits =>
      split at acted
      · next due =>
        obtain rfl := Option.some.inj acted
        exact .answered waits due
      · cases acted
    · cases acted
  | forget =>
    simp only [act] at acted
    split at acted
    · next waits =>
      obtain rfl := Option.some.inj acted
      exact .forgotten waits
    · cases acted
  | abandon =>
    simp only [act] at acted
    split at acted
    · next free =>
      obtain rfl := Option.some.inj acted
      exact .abandoned free
    · cases acted
  | poll k =>
    simp only [act] at acted
    split at acted
    · next here =>
      obtain ⟨⟨next, notes⟩, polled, rfl⟩ := Option.map_eq_some_iff.1 acted
      exact .polled here polled
    · cases acted
  | carry k now fault =>
    simp only [act] at acted
    split at acted
    · next here =>
      obtain ⟨l, stepped, rfl⟩ := Option.map_eq_some_iff.1 acted
      exact .carried here stepped
    · cases acted
  | pass nanos =>
    obtain rfl := Option.some.inj acted
    exact .passed
  | meddle scene last =>
    obtain rfl := Option.some.inj acted
    exact .meddled

end JobRuntime

end AuditTrail
