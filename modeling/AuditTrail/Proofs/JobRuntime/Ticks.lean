import AuditTrail.Proofs.Dispatch
import AuditTrail.Proofs.Sweep
import AuditTrail.Proofs.JobRuntime.Automaton

/-! Ticks are never interrupted. A loop leaves a tick only when the tick is over, whatever the
owner does meanwhile. Then the backup was made and every record in it was given to the handler, or
every old backup was tried, or the tick has failed. A signal that is raised between the two polls
of a loop comes too late for the tick that may begin at once, and for no later tick. -/
namespace AuditTrail

variable {σ : Type}

/-! ### What a tick does -/

namespace Dispatch

/-- The handler's state after a line. -/
def handed (handler : Handler σ) (line : Line) (state : σ) : σ :=
  match held? line with
  | some r => (handler state r).state
  | none => state

theorem state_take (handler : Handler σ) (path : Path) (limit : Nat) (d : Dispatch σ) (line : Line) :
    (d.take handler path limit line).state = handed handler line d.state := by
  unfold take handed held?
  cases Reading.ofLine line with
  | oversize | blank | fault cause => rfl
  | record r =>
    dsimp only
    split <;> rfl

theorem counts_take (handler : Handler σ) (path : Path) (limit : Nat) (d : Dispatch σ) (line : Line) :
    (d.take handler path limit line).processed + (d.take handler path limit line).blank +
      (d.take handler path limit line).failed = d.processed + d.blank + d.failed + 1 := by
  unfold take
  cases Reading.ofLine line with
  | oversize | blank | fault cause => simp only [fail, note]; omega
  | record r =>
    dsimp only
    split <;> simp only [fail, note] <;> omega

end Dispatch

/-- What the result of a tick says about the lines handled and the end of the reading. -/
def Accounts (ending : Option IoError) (lines : Nat) : Except Failure (Option Summary) → Prop
  | .ok (some summary) => ending = none ∧ summary.processed + summary.blank = lines
  | .ok none => False
  | .error (.io _ cause) => ending = some cause
  | .error (.records _ failed processed) => ending = none ∧ 0 < failed ∧ failed + processed ≤ lines
  | .error _ => False

theorem Dispatch.accounts_result (path : Path) (d : Dispatch σ) (ending : Option IoError) :
    Accounts ending (d.processed + d.blank + d.failed) ((d.result path ending).map some) := by
  unfold result
  split
  · rfl
  · split
    · exact ⟨rfl, by omega, by omega⟩
    · refine ⟨rfl, ?_⟩
      change d.processed + d.blank = _
      omega

/-- The handler was called with the record of the line, or not at all if it holds none. -/
def Handling.Faithful (handler : Handler σ) (h : Handling σ) : Prop :=
  h.after = Dispatch.handed handler h.line h.before

/-- The marks of a finished tick. -/
inductive Whole (handler : Handler σ) (limit : Nat) : Job → List (Mark σ) → Prop where
  | nothing : Whole handler limit .processing [.returned (.ok none)]
  | unrotated (context : String) (cause : IoError) :
      Whole handler limit .processing [.returned (.error (.io context cause))]
  | unopened (backup : Path) (cause : IoError) : Whole handler limit .processing
      [.rotated backup, .returned (.error (Processing.unopened backup cause))]
  | read (backup : Path) (source : Source) (handled : List (Handling σ))
      {outcome : Except Failure (Option Summary)}
      (every : handled.map (·.line) = (Lines.read limit source).lines)
      (faithful : ∀ h ∈ handled, h.Faithful handler)
      (accounts : Accounts (Lines.read limit source).ending handled.length outcome) :
      Whole handler limit .processing (.rotated backup :: .opened backup source :: handled.map .handled ++
        [.returned outcome])
  | unlisted (failure : Failure) : Whole handler limit .expiration [.swept (.error failure)]
  | swept (expired : List Backup.Listed) {summary : Sweep.Summary}
      (counted : summary.deleted + summary.failed ≤ expired.length) :
      Whole handler limit .expiration (.listed expired :: expired.map .tried ++ [.swept (.ok summary)])

def Rotation.Stage.Plain (stage : Rotation.Stage) : Prop :=
  ∀ failure, stage.outcome? = some (.error failure) → ∃ context cause, failure = .io context cause

/-- The marks of a tick so far. -/
def Tick.Sound (handler : Handler σ) (limit : Nat) (job : Job) (sweep : Option Sweep)
    (marks : List (Mark σ)) : Tick σ → Prop
  | .processing tick => job = .processing ∧ match tick with
    | .sizing | .waiting => marks = []
    | .rotating stage => stage.Plain ∧ marks = []
    | .opening backup => marks = [.rotated backup]
    | .reading backup lines ending d => ∃ (source : Source) (handled : List (Handling σ)),
        (Lines.read limit source).lines = handled.map (·.line) ++ lines ∧
        (Lines.read limit source).ending = ending ∧ (∀ h ∈ handled, h.Faithful handler) ∧
        d.processed + d.blank + d.failed = handled.length ∧
        marks = .rotated backup :: .opened backup source :: handled.map .handled
    | .done outcome => Whole handler limit .processing (marks ++ [.returned outcome])
  | .sweeping => job = .expiration ∧ match sweep with
    | none => marks = []
    | some sweep => ∃ tried, sweep.deleted + sweep.failed ≤ tried.length ∧
        marks = .listed (tried ++ sweep.pending) :: tried.map .tried
  | .swept outcome => job = .expiration ∧ Whole handler limit .expiration (marks ++ [.swept outcome])

namespace Rotation

theorem Stage.plain_search (live : Path) (source suffix bound : Nat) :
    (search live source suffix bound).Plain := by
  unfold search
  split
  · nofun
  · intro failure failed
    obtain rfl := Except.error.inj (Option.some.inj failed)
    exact ⟨_, _, rfl⟩

theorem Stage.plain_next {stage : Stage} (plain : stage.Plain) (r : Rotator) (now : Moment)
    (answer : Files.Answer) : (stage.next r now answer).Plain := by
  have failed : ∀ context cause, (Stage.done (.error (.io context cause))).Plain := by
    intro context cause failure failed
    obtain rfl := Except.error.inj (Option.some.inj failed)
    exact ⟨_, _, rfl⟩
  cases stage with
  | done outcome => exact plain
  | discarding backup cause => exact failed _ _
  | opening => cases answer with
    | ok source => exact plain_search _ _ _ _
    | error cause => exact failed _ _
  | naming source suffix bound => cases answer with
    | ok target => rintro _ ⟨⟩
    | error cause =>
      simp only [next]
      split
      · exact plain_search _ _ _ _
      · exact failed _ _
  | copying | syncing => cases answer <;> rintro _ ⟨⟩
  | truncating => cases answer with
    | ok bytes => rintro _ ⟨⟩
    | error cause => exact failed _ _

theorem plain_step {w : Rotation} (plain : w.stage.Plain) (now : Moment) (fault : Option Files.Fault) :
    (w.step now fault).stage.Plain := by
  unfold step
  split
  · exact plain
  · exact Stage.plain_next plain _ _ _

theorem plain_pending {live : Path} {answer : Files.Answer} {failure : Failure}
    (failed : pending live answer = .error failure) : ∃ context cause, failure = .io context cause := by
  cases answer with
  | ok bytes => cases failed
  | error cause =>
    simp only [pending] at failed
    split at failed
    · cases failed
    · exact ⟨_, _, (Except.error.inj failed).symm⟩

end Rotation

namespace Sweep

variable {files : Files} {live : Path} {retention : Duration} {now : Moment} {s : Sweep}
  {backup : Backup.Listed} {rest : List Backup.Listed} {fault : Option Files.Fault}

theorem counts_start (started : start files live retention now = .ok s) : s.deleted + s.failed = 0 := by
  unfold start at started
  cases listed : Backup.list files live with
  | error failure => rw [listed] at started; cases started
  | ok backups =>
    rw [listed] at started
    obtain rfl := Except.ok.inj started
    rfl

theorem counts_step (pending : s.pending = backup :: rest) :
    (s.step fault files).1.deleted + (s.step fault files).1.failed ≤ s.deleted + s.failed + 1 := by
  simp only [step, pending]
  cases (files.serve fault (.remove backup.path)).1 with
  | ok answer => simp only [next]; omega
  | error cause =>
    simp only [next]
    split <;> simp only <;> omega

end Sweep

namespace TickRun

variable {job : Job} {handler : Handler σ} {settings : Settings} {now : Moment}
  {fault : Option Files.Fault} {l l' : TickRun σ}

theorem sound_start (limit : Nat) (job : Job) : (Tick.start job : Tick σ).Sound handler limit job none [] := by
  cases job <;> exact ⟨rfl, rfl⟩

theorem sound_sized (rotator : Rotator) (scene : Scene σ) :
    let course : Processing.Course σ := ⟨.sizing, rotator, scene⟩
    let next := course.step handler settings now fault
    (Tick.processing next.tick).Sound handler settings.maxLineBytes.toNat .processing none
      ([] ++ told course next) := by
  dsimp only [Processing.Course.step]
  generalize (scene.files.serve fault (.size settings.path)).1 = answer
  unfold Processing.sized
  cases read : Rotation.pending settings.path answer with
  | error failure =>
    obtain ⟨context, cause, rfl⟩ := Rotation.plain_pending read
    exact ⟨rfl, .unrotated context cause⟩
  | ok due => cases due with
    | false => exact ⟨rfl, .nothing⟩
    | true => exact ⟨rfl, rfl⟩

theorem sound_opened (backup : Path) (rotator : Rotator) (scene : Scene σ) :
    let course : Processing.Course σ := ⟨.opening backup, rotator, scene⟩
    let next := course.step handler settings now fault
    (Tick.processing next.tick).Sound handler settings.maxLineBytes.toNat .processing none
      ([.rotated backup] ++ told course next) := by
  dsimp only [Processing.Course.step]
  cases fault with
  | some fault => exact ⟨rfl, .unopened backup _⟩
  | none => cases opened : scene.files.source backup with
    | error cause => exact ⟨rfl, .unopened backup _⟩
    | ok source =>
      refine ⟨rfl, source, [], rfl, rfl, nofun, rfl, ?_⟩
      simp [told, Processing.opened, Processing.begin, opened]

theorem sound_read {backup : Path} {lines : List Line} {ending : Option IoError} {d : Dispatch σ}
    {rotator : Rotator} {scene : Scene σ} {limit : Nat} (bound : settings.maxLineBytes.toNat = limit)
    (sound : (Tick.processing (.reading backup lines ending d)).Sound handler limit job l.sweep l.marks) :
    let course : Processing.Course σ := ⟨.reading backup lines ending d, rotator, scene⟩
    let next := course.step handler settings now fault
    (Tick.processing next.tick).Sound handler limit job l.sweep (l.marks ++ told course next) := by
  obtain ⟨rfl, source, handled, every, rfl, faithful, counted, marks⟩ := sound
  rw [marks]
  cases lines with
  | nil =>
    refine ⟨rfl, ?_⟩
    rw [List.append_nil] at every
    have whole : Whole handler limit .processing _ := .read backup source handled every.symm faithful
      (counted ▸ Dispatch.accounts_result backup d _)
    simpa [told, Processing.Course.step] using whole
  | cons line lines =>
    let taken : Dispatch σ := { d with state := scene.state, notes := scene.notes }
    let h : Handling σ := ⟨line, scene.state, (taken.take handler backup limit line).state⟩
    have heard : h.Faithful handler := Dispatch.state_take handler backup limit taken line
    refine ⟨rfl, source, handled ++ [h], ?_, rfl, ?_, ?_, ?_⟩
    · rw [every]
      simp [h]
    · intro other member
      rcases List.mem_append.1 member with before | last
      · exact faithful other before
      · rwa [List.mem_singleton.1 last]
    · rw [List.length_append, List.length_singleton, ← counted, bound]
      exact Dispatch.counts_take handler backup limit taken line
    · simp [told, Processing.Course.step, h, taken, bound]

theorem sound_step {limit : Nat} (bound : settings.maxLineBytes.toNat = limit)
    (sound : l.tick.Sound handler limit job l.sweep l.marks)
    (stepped : l.step handler settings now fault = some l') :
    l'.tick.Sound handler limit job l'.sweep l'.marks := by
  obtain ⟨tick, rotator, scene, sweep, marks⟩ := l
  cases tick with
  | swept outcome => cases stepped
  | sweeping =>
    obtain ⟨rfl, sound⟩ := sound
    cases sweep with
    | none =>
      obtain rfl : marks = [] := sound
      simp only [step] at stepped
      split at stepped
      · next failure _ =>
        obtain rfl := Option.some.inj stepped
        exact ⟨rfl, .unlisted failure⟩
      · next sweep started =>
        obtain rfl := Option.some.inj stepped
        exact ⟨rfl, [], Nat.le_of_eq (Sweep.counts_start started), rfl⟩
    | some sweep =>
      obtain ⟨tried, counted, rfl⟩ := sound
      simp only [step] at stepped
      split at stepped
      · next emptied =>
        obtain rfl := Option.some.inj stepped
        rw [emptied, List.append_nil]
        exact ⟨rfl, .swept tried counted⟩
      · next backup rest pending =>
        obtain rfl := Option.some.inj stepped
        refine ⟨rfl, tried ++ [backup], ?_, ?_⟩
        · rw [List.length_append, List.length_singleton]
          exact (Sweep.counts_step pending).trans (Nat.add_le_add_right counted 1)
        · simp [pending, Sweep.pending_step]
  | processing tick => cases tick with
    | done outcome => cases stepped
    | waiting =>
      obtain ⟨rfl, sound⟩ := sound
      obtain rfl := Option.some.inj stepped
      exact ⟨rfl, nofun, sound⟩
    | sizing =>
      obtain ⟨rfl, rfl⟩ := sound
      obtain rfl := Option.some.inj stepped
      exact bound ▸ sound_sized rotator scene
    | rotating stage =>
      obtain ⟨rfl, plain, rfl⟩ := sound
      obtain rfl := Option.some.inj stepped
      cases stage with
      | done outcome => cases outcome with
        | error failure =>
          obtain ⟨context, cause, rfl⟩ := plain failure rfl
          exact ⟨rfl, .unrotated context cause⟩
        | ok rotated => exact ⟨rfl, rfl⟩
      | _ => exact ⟨rfl, Rotation.plain_step plain now fault, rfl⟩
    | opening backup =>
      obtain ⟨rfl, rfl⟩ := sound
      obtain rfl := Option.some.inj stepped
      exact bound ▸ sound_opened backup rotator scene
    | reading backup lines ending d =>
      obtain rfl := Option.some.inj stepped
      exact sound_read bound sound

/-- Decreases with every step of a tick. -/
def rank (l : TickRun σ) : Nat × Nat :=
  match l.tick, l.sweep with
  | .processing tick, _ => tick.rank
  | .sweeping, none => (2, 0)
  | .sweeping, some sweep => (1, sweep.pending.length)
  | .swept _, _ => (0, 0)

theorem step_of_open (handler : Handler σ) (settings : Settings) (now : Moment)
    (fault : Option Files.Fault) (unclosed : l.tick.closing? = none) :
    ∃ l', l.step handler settings now fault = some l' := by
  obtain ⟨tick, rotator, scene, sweep, marks⟩ := l
  rw [← Option.isSome_iff_exists]
  cases tick with
  | swept outcome => cases unclosed
  | sweeping =>
    simp only [step]
    cases sweep <;> dsimp only <;> split <;> rfl
  | processing tick => cases tick with
    | done outcome => cases unclosed
    | _ => rfl

theorem rank_step (stepped : l.step handler settings now fault = some l') :
    Prod.Lex (· < ·) (· < ·) l'.rank l.rank := by
  obtain ⟨tick, rotator, scene, sweep, marks⟩ := l
  cases tick with
  | swept outcome => cases stepped
  | sweeping =>
    cases sweep with
    | none =>
      simp only [step] at stepped
      split at stepped <;> obtain rfl := Option.some.inj stepped
      · exact .left _ _ (by decide)
      · exact .left _ _ (by decide)
    | some sweep =>
      simp only [step] at stepped
      split at stepped <;> obtain rfl := Option.some.inj stepped
      · exact .left _ _ (by decide)
      · next pending =>
        refine .right _ ?_
        simp [Sweep.pending_step, pending]
  | processing tick => cases tick with
    | done outcome => cases stepped
    | waiting =>
      obtain rfl := Option.some.inj stepped
      exact .left _ _ (by decide)
    | sizing | rotating stage | opening backup | reading backup lines ending d =>
      obtain rfl := Option.some.inj stepped
      refine @Processing.rank_step _ handler settings now fault ⟨_, rotator, scene⟩ true ?_
      first
        | rfl
        | cases lines <;> rfl

end TickRun

namespace JobRuntime

variable {settings : Settings} {t t' start : JobRuntime σ} {e : Event σ} {a : Automaton} {k : Nat}

/-! ### Events and one loop -/

/-- The effect of an event on one loop: none, its start, its poll, or a step of its tick. -/
inductive Tells (t t' : JobRuntime σ) (k : Nat) : Event σ → Prop where
  | same {e : Event σ} (loop : t'.loops[k]? = t.loops[k]?) (sweep : t'.sweeps k = t.sweeps k)
      (ticks : t'.ticks k = t.ticks k) : Tells t t' k e
  | born {e : Event σ} {job : Job} (absent : t.loops[k]? = none) (loop : t'.loops[k]? = some (job, .fresh))
      (ticks : t'.ticks k = t.ticks k) : Tells t t' k e
  | polled {job : Job} {before after : JobLoop σ} (here : t.loops[k]? = some (job, before))
      (polls : before.Polls job t.life.cancelled after) (loop : t'.loops[k]? = some (job, after))
      (sweep : t'.sweeps k = none) (ticks : t'.ticks k = remembered before after (t.ticks k)) :
      Tells t t' k (.poll k)
  | carried {job : Job} {tick : Tick σ} {due : Nat} {now : Moment} {fault : Option Files.Fault}
      {l : TickRun σ} (here : t.loops[k]? = some (job, .ticking tick due))
      (stepped : (t.tickRun k tick).step t.processor.handler t.processor.settings now fault = some l)
      (loop : t'.loops[k]? = some (job, .ticking l.tick due)) (sweep : t'.sweeps k = l.sweep)
      (ticks : t'.ticks k = l.marks :: (t.ticks k).tail) : Tells t t' k (.carry k now fault)

theorem getElem?_setLoop_self {job : Job} {before after : JobLoop σ}
    (here : t.loops[k]? = some (job, before)) : (t.loops.set k (job, after))[k]? = some (job, after) :=
  List.getElem?_set_self (List.getElem?_eq_some_iff.1 here).1

theorem tells_call {c : Call} (answers : t.Answers c t') (k : Nat) : t.Tells t' k (.call c) := by
  cases answers with
  | @spawned job =>
    rcases Nat.lt_trichotomy k t.loops.length with old | rfl | beyond
    · exact .same (List.getElem?_append_left old) rfl rfl
    · exact .born (List.getElem?_eq_none (Nat.le_refl _)) List.getElem?_concat_length rfl
    · have after : (t.loops ++ [(job, .fresh)])[k]? = t.loops[k]? := by
        rw [List.getElem?_eq_none (Nat.le_of_lt beyond), List.getElem?_eq_none]
        rw [List.length_append]
        exact beyond
      exact .same after rfl rfl
  | _ => exact .same rfl rfl rfl

theorem tells (acted : t.act e = some t') (k : Nat) : t.Tells t' k e := by
  cases comes acted with
  | called free answers => exact tells_call answers k
  | @polled j job loop next notes here polled =>
    by_cases own : j = k
    · subst own
      exact .polled here (JobLoop.polls polled) (getElem?_setLoop_self here) (Function.update_self ..)
        (Function.update_self ..)
    · exact .same (List.getElem?_set_ne own) (Function.update_of_ne (Ne.symm own) ..)
        (Function.update_of_ne (Ne.symm own) ..)
  | @carried j job tick due now fault l here stepped =>
    by_cases own : j = k
    · subst own
      exact .carried here stepped (getElem?_setLoop_self here) (Function.update_self ..)
        (Function.update_self ..)
    · exact .same (List.getElem?_set_ne own) (Function.update_of_ne (Ne.symm own) ..)
        (Function.update_of_ne (Ne.symm own) ..)
  | _ => exact .same rfl rfl rfl

theorem handler_of_build {handler : Handler σ} {p : Processor σ}
    (built : Processor.build settings handler = .ok p) : p.handler = handler := by
  unfold Processor.build at built
  split at built
  · cases built
  · obtain rfl := Except.ok.inj built
    rfl

theorem processor_act (acted : t.act e = some t') :
    t'.processor.handler = t.processor.handler ∧ t'.processor.settings = t.processor.settings := by
  cases comes acted with
  | called _ answers => cases answers <;> exact ⟨rfl, rfl⟩
  | _ => exact ⟨rfl, rfl⟩

/-- All finished ticks of a loop are whole, and the current one is sound. -/
inductive Good (handler : Handler σ) (limit : Nat) :
    Option (Job × JobLoop σ) → Option Sweep → List (List (Mark σ)) → Prop where
  | absent {sweep : Option Sweep} : Good handler limit none sweep []
  | resting {job : Job} {loop : JobLoop σ} {sweep : Option Sweep} {ticks : List (List (Mark σ))}
      (rests : ∀ tick due, loop ≠ .ticking tick due) (whole : ∀ marks ∈ ticks, Whole handler limit job marks) :
      Good handler limit (some (job, loop)) sweep ticks
  | ticking {job : Job} {tick : Tick σ} {due : Nat} {sweep : Option Sweep} {marks : List (Mark σ)}
      {ticks : List (List (Mark σ))} (sound : tick.Sound handler limit job sweep marks)
      (whole : ∀ marks ∈ ticks, Whole handler limit job marks) :
      Good handler limit (some (job, .ticking tick due)) sweep (marks :: ticks)

section

variable {handler : Handler σ} {limit : Nat} {job : Job} {sweep : Option Sweep}

theorem Good.whole {loop : JobLoop σ} {ticks : List (List (Mark σ))}
    (good : Good handler limit (some (job, loop)) sweep ticks) :
    (∀ marks ∈ ticks.tail, Whole handler limit job marks) ∧
      ((∀ tick due, loop ≠ .ticking tick due) → ∀ marks ∈ ticks, Whole handler limit job marks) := by
  cases good with
  | resting _ whole => exact ⟨fun marks member => whole marks (List.mem_of_mem_tail member), fun _ => whole⟩
  | ticking _ whole => exact ⟨whole, fun rests => absurd rfl (rests _ _)⟩

theorem whole_of_closed {tick : Tick σ} {marks : List (Mark σ)}
    (sound : tick.Sound handler limit job sweep marks) (closed : tick.closing?.isSome) :
    Whole handler limit job (marks ++ tick.ending) := by
  cases tick with
  | sweeping => cases closed
  | swept outcome =>
    obtain ⟨rfl, whole⟩ := sound
    exact whole
  | processing tick => cases tick with
    | done outcome =>
      obtain ⟨rfl, whole⟩ := sound
      exact whole
    | _ => cases closed

theorem Good.polled {before after : JobLoop σ} {ticks : List (List (Mark σ))} {cancelled : Bool}
    (good : Good handler limit (some (job, before)) sweep ticks) (polls : before.Polls job cancelled after) :
    Good handler limit (some (job, after)) none (remembered before after ticks) := by
  cases good with
  | resting rests whole =>
    cases polls with
    | begun => exact .ticking (TickRun.sound_start limit job) whole
    | rested => exact absurd rfl (rests _ _)
    | _ => exact .resting nofun whole
  | ticking sound whole =>
    cases polls with
    | rested closed => exact .resting nofun (List.forall_mem_cons.2 ⟨whole_of_closed sound closed, whole⟩)

theorem Good.act (good : Good handler limit t.loops[k]? (t.sweeps k) (t.ticks k))
    (given : t.processor.handler = handler) (bound : t.processor.settings.maxLineBytes.toNat = limit)
    (acted : t.act e = some t') : Good handler limit t'.loops[k]? (t'.sweeps k) (t'.ticks k) := by
  cases tells acted k with
  | same loop sweep ticks => rwa [loop, sweep, ticks]
  | born absent loop ticks =>
    rw [absent] at good
    generalize t.ticks k = told at good ticks
    cases good
    rw [loop, ticks]
    exact .resting nofun nofun
  | polled here polls loop sweep ticks =>
    rw [here] at good
    rw [loop, sweep, ticks]
    exact good.polled polls
  | carried here stepped loop sweep ticks =>
    rw [here] at good
    rw [loop, sweep, ticks]
    rw [given] at stepped
    unfold tickRun at stepped
    generalize t.ticks k = told at good stepped
    generalize t.sweeps k = swept at good stepped
    cases good with
    | resting rests => exact absurd rfl (rests _ _)
    | ticking sound whole => exact .ticking (TickRun.sound_step bound sound stepped) whole

end

theorem good_run {p : Processor σ} {scene : Scene σ} (fresh : p.loops = []) (run : Run (begin p scene) t) :
    t.processor.handler = p.handler ∧ t.processor.settings = p.settings ∧ ∀ k,
      Good p.handler p.settings.maxLineBytes.toNat t.loops[k]? (t.sweeps k) (t.ticks k) := by
  induction run with
  | here =>
    refine ⟨rfl, rfl, fun k => ?_⟩
    have absent : (begin p scene).loops[k]? = none := by simp [loops, begin, fresh]
    rw [absent]
    exact .absent
  | next _ acted ih =>
    obtain ⟨handler, settings, good⟩ := ih
    obtain ⟨handler', settings'⟩ := processor_act acted
    exact ⟨handler'.trans handler, settings'.trans settings,
      fun k => (good k).act handler (by rw [settings]) acted⟩

/-! ### After the signal -/

theorem cancelled_act (raised : t.life.cancelled = true) (acted : t.act e = some t') :
    t'.life.cancelled = true := by
  cases comes acted with
  | called _ answers =>
    cases answers with
    | waits => rfl
    | _ => exact raised
  | answered => simp only [answer, withLife, Lifecycle.settle]; split <;> exact raised
  | abandoned => rfl
  | _ => exact raised

/-- One if the loop has polled the signal and polls its timer next. -/
def pending : Option (Job × JobLoop σ) → Nat
  | some (_, .unsignalled _) => 1
  | _ => 0

theorem pending_le_one (loop : Option (Job × JobLoop σ)) : pending loop ≤ 1 := by
  unfold pending
  split <;> decide

theorem pending_eq_zero {loop : Option (Job × JobLoop σ)} :
    pending loop = 0 ↔ ∀ job due, loop ≠ some (job, .unsignalled due) := by
  unfold pending
  split
  · simp
  · next other => simpa using fun job due same => other job due same

theorem begun_act {handler : Handler σ} {limit : Nat}
    (good : Good handler limit t.loops[k]? (t.sweeps k) (t.ticks k)) (raised : t.life.cancelled = true)
    (acted : t.act e = some t') : (t.ticks k).length ≤ (t'.ticks k).length ∧
      (t'.ticks k).length + pending t'.loops[k]? ≤ (t.ticks k).length + pending t.loops[k]? := by
  cases tells acted k with
  | same loop _ ticks =>
    rw [loop, ticks]
    exact ⟨Nat.le_refl _, Nat.le_refl _⟩
  | born _ loop ticks =>
    rw [loop, ticks]
    exact ⟨Nat.le_refl _, Nat.le_add_right ..⟩
  | polled here polls loop _ ticks =>
    rw [here, loop, ticks]
    cases polls with
    | looked calm => rw [raised] at calm; cases calm
    | first | ended => exact ⟨Nat.le_refl _, Nat.le_refl _⟩
    | slept => exact ⟨Nat.le_refl _, Nat.le_succ _⟩
    | begun => exact ⟨Nat.le_succ _, Nat.le_refl _⟩
    | rested =>
      simp only [remembered, List.length_modifyHead]
      exact ⟨Nat.le_refl _, Nat.le_refl _⟩
  | carried here _ loop _ ticks =>
    rw [here] at good ⊢
    rw [loop, ticks]
    generalize t.ticks k = told at good
    cases good with
    | resting rests => exact absurd rfl (rests _ _)
    | ticking => exact ⟨Nat.le_refl _, Nat.le_refl _⟩

theorem begun_run {p : Processor σ} {scene : Scene σ} (fresh : p.loops = []) (run : Run (begin p scene) t)
    (raised : t.life.cancelled = true) (onward : Run t t') (k : Nat) :
    t'.life.cancelled = true ∧ (t.ticks k).length ≤ (t'.ticks k).length ∧
      (t'.ticks k).length + pending t'.loops[k]? ≤ (t.ticks k).length + pending t.loops[k]? := by
  induction onward with
  | here => exact ⟨raised, Nat.le_refl _, Nat.le_refl _⟩
  | next onward acted ih =>
    obtain ⟨raised, more, fewer⟩ := ih
    obtain ⟨more', fewer'⟩ := begun_act ((good_run fresh (run.trans onward)).2.2 k) raised acted
    exact ⟨cancelled_act raised acted, Nat.le_trans more more', Nat.le_trans fewer' fewer⟩

/-! ### The end of a tick -/

theorem ticking_act {job : Job} {tick : Tick σ} {due : Nat}
    (here : t.loops[k]? = some (job, .ticking tick due)) (acted : t.act e = some t') :
    (∃ tick', t'.loops[k]? = some (job, .ticking tick' due)) ∨
      t'.loops[k]? = some (job, .sleeping due) := by
  cases tells acted k with
  | same loop => exact .inl ⟨tick, loop.trans here⟩
  | born absent => rw [here] at absent; cases absent
  | polled before polls loop =>
    obtain ⟨rfl, rfl⟩ := Prod.mk.inj (Option.some.inj (before.symm.trans here))
    cases polls with
    | rested => exact .inr loop
  | carried before _ loop =>
    obtain ⟨rfl, same⟩ := Prod.mk.inj (Option.some.inj (before.symm.trans here))
    obtain ⟨rfl, rfl⟩ := JobLoop.ticking.inj same
    exact .inl ⟨_, loop⟩

theorem ended_act {job : Job} {loop : JobLoop σ} (here : t.loops[k]? = some (job, loop))
    (acted : t.act e = some t') (ends : t'.loops[k]? = some (job, .ended)) :
    loop = .ended ∨ (∃ due, loop = .sleeping due) ∧ t.life.cancelled = true := by
  cases tells acted k with
  | same after => exact .inl (Prod.mk.inj (Option.some.inj (here.symm.trans (after.symm.trans ends)))).2
  | born absent => rw [here] at absent; cases absent
  | polled before polls after =>
    obtain ⟨-, rfl⟩ := Prod.mk.inj (Option.some.inj (before.symm.trans here))
    obtain ⟨-, rfl⟩ := Prod.mk.inj (Option.some.inj (after.symm.trans ends))
    cases polls with
    | ended raised => exact .inr ⟨⟨_, rfl⟩, raised⟩
  | carried _ _ after => cases (Prod.mk.inj (Option.some.inj (after.symm.trans ends))).2

/-- A tick can run to its end by its own steps, whatever its owner does. -/
theorem finishes (t : JobRuntime σ) {job : Job} {tick : Tick σ} {due : Nat}
    (here : t.loops[k]? = some (job, .ticking tick due)) :
    ∃ t', Run t t' ∧ t'.loops[k]? = some (job, .sleeping due) ∧ t'.life = t.life ∧ t'.owner = t.owner := by
  cases closing : tick.closing? with
  | some notes =>
    have acted : t.act (.poll k) = some (t.polled k job (.ticking tick due) (.sleeping due) notes) := by
      simp only [act, here, JobLoop.poll, closing, Option.map_some]
    exact ⟨_, .one acted, getElem?_setLoop_self here, rfl, rfl⟩
  | none =>
    obtain ⟨l, stepped⟩ := TickRun.step_of_open (l := t.tickRun k tick) t.processor.handler
      t.processor.settings ⟨0⟩ none closing
    have acted : t.act (.carry k ⟨0⟩ none) = some (t.resume k job due l) := by
      simp only [act, here, stepped, Option.map_some]
    have next : (t.resume k job due l).loops[k]? = some (job, .ticking l.tick due) :=
      getElem?_setLoop_self here
    have nearer : Prod.Lex (· < ·) (· < ·) ((t.resume k job due l).tickRun k l.tick).rank
        (t.tickRun k tick).rank := by
      have swept : (t.resume k job due l).sweeps k = l.sweep := Function.update_self ..
      have same : ((t.resume k job due l).tickRun k l.tick).rank = l.rank := by
        simp only [TickRun.rank, tickRun, swept]
      rw [same]
      exact TickRun.rank_step stepped
    obtain ⟨t', onward, sleeping, life, owner⟩ := finishes (t.resume k job due l) next
    exact ⟨t', (Run.one acted).trans onward, sleeping, life, owner⟩
termination_by (t.tickRun k tick).rank
decreasing_by exact nearer

theorem Kept.rests (kept : t.Kept settings a) (stopped : a.phase = .stopped) (acted : t.act e = some t') :
    (∃ b, t'.Kept settings b ∧ b.phase = .stopped) ∧ ∀ k, t'.ticks k = t.ticks k := by
  have ended := kept.ended stopped
  have phase : t.life.phase = .stopped := kept.phase.trans stopped
  have still : t'.life.phase = .stopped := by
    cases comes acted with
    | called _ answers =>
      cases answers with
      | spawned live | waits live => rw [phase] at live; cases live
      | _ => exact phase
    | answered waits =>
      obtain ⟨-, -, b, -, -, -, rfl⟩ := kept.waits _ _ waits
      cases stopped
    | _ => exact phase
  obtain ⟨b, kept'⟩ := kept.act acted
  refine ⟨⟨b, kept', kept'.phase.symm.trans still⟩, fun k => ?_⟩
  cases tells acted k with
  | same _ _ ticks | born _ _ ticks => exact ticks
  | polled here polls =>
    rw [not_allEnded here (by cases polls <;> rfl)] at ended
    cases ended
  | carried here =>
    rw [not_allEnded here rfl] at ended
    cases ended

theorem Kept.rests_run (kept : t.Kept settings a) (stopped : a.phase = .stopped) (onward : Run t t') :
    (∃ b, t'.Kept settings b ∧ b.phase = .stopped) ∧ ∀ k, t'.ticks k = t.ticks k := by
  induction onward with
  | here => exact ⟨⟨a, kept, stopped⟩, fun _ => rfl⟩
  | next _ acted ih =>
    obtain ⟨⟨b, kept, stopped⟩, same⟩ := ih
    obtain ⟨after, same'⟩ := kept.rests stopped acted
    exact ⟨after, fun k => (same' k).trans (same k)⟩

theorem life_own (own : t.act (.poll k) = some t' ∨ ∃ now fault, t.act (.carry k now fault) = some t') :
    t'.life = t.life ∧ t'.owner = t.owner := by
  rcases own with acted | ⟨now, fault, acted⟩
  · cases comes acted with
    | polled => exact ⟨rfl, rfl⟩
  · cases comes acted with
    | carried => exact ⟨rfl, rfl⟩

/-- Ticks are never interrupted. A job has one loop with at most one tick under way, all its earlier ticks are
whole, a tick is left only when it is over, and it can always run to its end. After the signal is raised a
loop begins at most one more tick, and only if it had polled the signal before. After a successful stop all
loops have ended. No result of a tick ends a loop or changes the state of the processor. -/
theorem ticks_uninterrupted {handler : Handler σ} {p : Processor σ} {scene : Scene σ}
    (built : Processor.build settings handler = .ok p) (run : Run (begin p scene) t) :
    let whole := Whole handler settings.maxLineBytes.toNat
    (t.loops.map (·.1)).Nodup ∧
    (∀ k job loop, t.loops[k]? = some (job, loop) →
      (∀ marks ∈ (t.ticks k).tail, whole job marks) ∧
      ((∀ tick due, loop ≠ .ticking tick due) → ∀ marks ∈ t.ticks k, whole job marks)) ∧
    (∀ k job tick due, t.loops[k]? = some (job, .ticking tick due) →
      (∀ e t', t.act e = some t' → (∃ tick', t'.loops[k]? = some (job, .ticking tick' due)) ∨
        t'.loops[k]? = some (job, .sleeping due) ∧ ∀ marks ∈ t'.ticks k, whole job marks) ∧
      ∃ t', Run t t' ∧ t'.loops[k]? = some (job, .sleeping due) ∧ t'.life = t.life ∧ t'.owner = t.owner) ∧
    (t.life.cancelled = true → ∀ t', Run t t' → ∀ k, (t'.ticks k).length ≤ (t.ticks k).length + 1 ∧
      ((∀ job due, t.loops[k]? ≠ some (job, .unsignalled due)) →
        (t'.ticks k).length = (t.ticks k).length)) ∧
    (∀ c ∈ t.past, ∀ deadline, c.call = .stop deadline → c.answer = some (.ok ()) → ∀ t', Run t t' →
      t'.processor.allEnded = true ∧ ∀ k, t'.ticks k = t.ticks k) ∧
    (∀ k t', (t.act (.poll k) = some t' ∨ ∃ now fault, t.act (.carry k now fault) = some t') →
      t'.life = t.life ∧ t'.owner = t.owner) ∧
    ∀ (e : Event σ) (t' : JobRuntime σ) (k : Nat) (job : Job) (loop : JobLoop σ), t.act e = some t' →
      t.loops[k]? = some (job, loop) → t'.loops[k]? = some (job, .ended) →
      loop = .ended ∨ (∃ due, loop = .sleeping due) ∧ t.life.cancelled = true := by
  intro whole
  obtain ⟨a, kept⟩ := (kept_begin built scene).run run
  have fresh : p.loops = [] := List.map_eq_nil_iff.1 (kept_begin built scene).jobs
  have given : p.handler = handler := handler_of_build built
  have configured : p.settings = settings := (kept_begin built scene).settings_eq
  have all_whole : ∀ {t}, Run (begin p scene) t → ∀ {k job loop}, t.loops[k]? = some (job, loop) →
      (∀ marks ∈ (t.ticks k).tail, whole job marks) ∧
        ((∀ tick due, loop ≠ .ticking tick due) → ∀ marks ∈ t.ticks k, whole job marks) := by
    intro t run k job loop here
    have good := (good_run fresh run).2.2 k
    rw [here, given, configured] at good
    exact good.whole
  refine ⟨kept.jobs ▸ kept.follows.spawned.1, fun k job loop here => all_whole run here,
    fun k job tick due here => ⟨fun e t' acted => ?_, finishes t here⟩, ?_, ?_,
    fun k t' own => life_own own, fun e t' k job loop acted here ends => ended_act here acted ends⟩
  · rcases ticking_act here acted with on | left
    · exact .inl on
    · exact .inr ⟨left, (all_whole (run.next acted) left).2 nofun⟩
  · intro raised t' onward k
    obtain ⟨-, more, fewer⟩ := begun_run fresh run raised onward k
    refine ⟨?_, fun seen => ?_⟩
    · have one := pending_le_one t.loops[k]?
      omega
    · have unseen := pending_eq_zero.2 seen
      omega
  · intro c member deadline stop well t' onward
    obtain ⟨⟨b, kept', stopped⟩, same⟩ :=
      kept.rests_run (kept.follows.stopped member stop well) onward
    exact ⟨kept'.ended stopped, same⟩

/-- A stop that times out while a tick is about to handle a line. The tick runs to its end and is the last
one. -/
theorem ticks_uninterrupted_timeout :
    let settings : Settings := { path := ⟨[0x61]⟩, processingInterval := .ofNanos 10, retention := .zero }
    let handler := Collecting.handler []
    let line : Bytes := "\x7b\"transaction\":\x7b\"id\":\"b\"\x7d\x7d".toUTF8.toList
    let carry : Event (List String) := .carry 0 (.ofSeconds 5 0) none
    let events := [.call (.start .processing), .poll 0, .pass 10, .poll 0, .poll 0] ++
      List.replicate 9 carry ++ [.call (.stop (.ofNanos 5)), .pass 5, .answer]
    let backup := Backup.path settings.path 5
    let marks : List (Mark (List String)) := [.rotated backup, .opened backup [.bytes (line ++ [0x0A])]]
    let handled : List (Mark (List String)) := [.handled ⟨.text line, [], ["b"]⟩, .returned (.ok (some ⟨1, 0⟩))]
    ∃ p t t', Processor.build settings handler = .ok p ∧
      (begin p ⟨.single [0x61] (line ++ [0x0A]), [], []⟩).play events = some t ∧
      t.past.map (·.answer) = [some (.error (.timeout (.ofNanos 5))), some (.ok ())] ∧
      t.ticks 0 = [marks] ∧ t.play [carry, carry, .poll 0] = some t' ∧ t'.ticks 0 = [marks ++ handled] ∧
      Whole handler settings.maxLineBytes.toNat .processing (marks ++ handled) ∧
      ∀ t'', Run t t'' → (t''.ticks 0).length = 1 := by
  intro settings handler line carry events backup marks handled
  let p : Processor (List String) := { settings, handler, rotator := { live := settings.path } }
  have valid : settings.validate = .ok () := by decide +kernel
  have built : Processor.build settings handler = .ok p := by rw [Processor.build, valid]
  let scene : Scene (List String) := ⟨.single [0x61] (line ++ [0x0A]), [], []⟩
  let played := (begin p scene).play events
  have remembers : played.map (fun t => (t.past.map (·.answer), t.ticks 0)) =
      some ([some (.error (.timeout (.ofNanos 5))), some (.ok ())], [marks]) := by decide +kernel
  have at_work : played.map (fun t => (t.life.cancelled, pending t.loops[0]?)) = some (true, 0) := by
    decide +kernel
  have goes_on : (played.bind (·.play [carry, carry, .poll 0])).map
      (fun t => (t.ticks 0, t.loops[0]?.map fun (job, loop) => (job, loop.due?))) =
      some ([marks ++ handled], some (.processing, some 20)) := by decide +kernel
  obtain ⟨t, reached, remembers⟩ := Option.map_eq_some_iff.1 remembers
  obtain ⟨answers, ticks⟩ := Prod.mk.inj remembers
  rw [reached] at at_work goes_on
  obtain ⟨raised, unseen⟩ := Prod.mk.inj (Option.some.inj at_work)
  obtain ⟨t', onward, closed⟩ := Option.map_eq_some_iff.1 goes_on
  obtain ⟨ticks', asleep⟩ := Prod.mk.inj closed
  obtain ⟨⟨job, loop⟩, here, same⟩ := Option.map_eq_some_iff.1 asleep
  obtain ⟨rfl, due⟩ := Prod.mk.inj same
  have rests : ∀ tick due, loop ≠ .ticking tick due := by rintro tick due' rfl; cases due
  have run := run_of_play .here reached
  obtain ⟨-, -, -, calm, -⟩ := ticks_uninterrupted built run
  obtain ⟨-, whole, -⟩ := ticks_uninterrupted built (run_of_play run onward)
  refine ⟨p, t, t', built, reached, answers, ticks, onward, ticks', ?_, fun t'' later => ?_⟩
  · exact (whole 0 _ loop here).2 rests _ (by rw [ticks']; exact List.mem_singleton_self _)
  · rw [(calm raised t'' later 0).2 (pending_eq_zero.1 unseen), ticks]
    rfl

/-- A tick begins after the signal is raised, because its loop had polled the signal before. A tick whose
rotation fails ends without a backup. -/
theorem begins_after_signal :
    let settings : Settings := { path := ⟨[0x61]⟩, processingInterval := .ofNanos 10, retention := .zero }
    let handler := Collecting.handler []
    let looked : List (Event (List String)) := [.call (.start .processing), .poll 0, .pass 10, .poll 0]
    let carry : Event (List String) := .carry 0 (.ofSeconds 5 0) none
    ∃ p, Processor.build settings handler = .ok p ∧
      (∃ t t', (begin p ⟨.single [0x61] [0x7B, 0x7D, 0x0A], [], []⟩).play
          (looked ++ [.call (.stop (.ofNanos 5))]) = some t ∧
        t.life.cancelled = true ∧ t.ticks 0 = [] ∧ t.act (.poll 0) = some t' ∧ t'.ticks 0 = [[]]) ∧
      ∃ t, (begin p ⟨Files.empty.add [[0x61]] .directory, [], []⟩).play
          (looked ++ [.poll 0] ++ List.replicate 4 carry ++ [.poll 0]) = some t ∧
        t.loops[0]?.map (fun (job, loop) => (job, loop.due?)) = some (.processing, some 20) ∧
        t.ticks 0 = [[.returned (.error (.io "failed to open audit log a" (.ofKind .isADirectory)))]] := by
  intro settings handler looked carry
  let p : Processor (List String) := { settings, handler, rotator := { live := settings.path } }
  have valid : settings.validate = .ok () := by decide +kernel
  have built : Processor.build settings handler = .ok p := by rw [Processor.build, valid]
  let stopped := (begin p ⟨.single [0x61] [0x7B, 0x7D, 0x0A], [], []⟩).play
    (looked ++ [.call (.stop (.ofNanos 5))])
  have raised : stopped.map (fun t => (t.life.cancelled, t.ticks 0)) = some (true, []) := by decide +kernel
  have begun : (stopped.bind (·.act (.poll 0))).map (·.ticks 0) = some [[]] := by decide +kernel
  have failed : ((begin p ⟨Files.empty.add [[0x61]] .directory, [], []⟩).play
      (looked ++ [.poll 0] ++ List.replicate 4 carry ++ [.poll 0])).map
      (fun t => (t.loops[0]?.map (fun (job, loop) => (job, loop.due?)), t.ticks 0)) =
      some (some (.processing, some 20),
        [[.returned (.error (.io "failed to open audit log a" (.ofKind .isADirectory)))]]) := by
    decide +kernel
  obtain ⟨t, reached, same⟩ := Option.map_eq_some_iff.1 raised
  obtain ⟨cancelled, ticks⟩ := Prod.mk.inj same
  rw [reached] at begun
  obtain ⟨t', acted, ticks'⟩ := Option.map_eq_some_iff.1 begun
  obtain ⟨t₂, reached₂, same₂⟩ := Option.map_eq_some_iff.1 failed
  obtain ⟨asleep, returned⟩ := Prod.mk.inj same₂
  exact ⟨p, built, ⟨t, t', reached, cancelled, ticks, acted, ticks'⟩, t₂, reached₂, asleep, returned⟩

end JobRuntime

end AuditTrail
