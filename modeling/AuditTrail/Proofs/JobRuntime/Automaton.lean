import AuditTrail.Proofs.JobRuntime.Basic
import Mathlib.Data.List.Nodup

/-! The lifecycle of a processor as its owner sees it. `Automaton.Takes` gives the answer to each
call and the state after it, without loops or time, and every run of the runtime follows it. -/
namespace AuditTrail

variable {σ : Type}

/-- The phase of a processor and the jobs that were spawned. -/
structure Automaton where
  phase : Phase := .idle
  spawned : List Job := []

namespace Automaton

/-- A stop was accepted. -/
def Over (a : Automaton) : Prop := a.phase = .stopping ∨ a.phase = .stopped

inductive Takes (settings : Settings) (a : Automaton) : Called → Automaton → Prop where
  | tooLate {job : Job} (ceased : a.Over) :
      Takes settings a ⟨.start job, some (.error .stopped), 0, []⟩ a
  | disabled {job : Job} (live : ¬ a.Over) (off : settings.enabled job = false) :
      Takes settings a ⟨.start job, some (.ok ()), 0, []⟩ a
  | again {job : Job} (live : ¬ a.Over) (on : settings.enabled job = true) (spawned : job ∈ a.spawned) :
      Takes settings a ⟨.start job, some (.error (.running job)), 0, []⟩ a
  | spawned {job : Job} (live : ¬ a.Over) (on : settings.enabled job = true) (fresh : job ∉ a.spawned) :
      Takes settings a ⟨.start job, some (.ok ()), 0, []⟩ ⟨.running, a.spawned ++ [job]⟩
  | notRunning {deadline : Duration} (ceased : a.Over) :
      Takes settings a ⟨.stop deadline, some (.error .notRunning), 0, []⟩ a
  /-- The stop has no answer yet. It never gets one if its caller goes away. -/
  | waiting {deadline : Duration} (live : ¬ a.Over) :
      Takes settings a ⟨.stop deadline, none, 0, []⟩ ⟨.stopping, a.spawned⟩
  | inTime {deadline : Duration} {waited : Nat} (live : ¬ a.Over) :
      Takes settings a ⟨.stop deadline, some (.ok ()), waited, []⟩ ⟨.stopped, a.spawned⟩
  | timeout {deadline : Duration} {waited : Nat} {late : List Job} (live : ¬ a.Over) (some_late : late ≠ [])
      (among : ∀ job ∈ late, job ∈ a.spawned) (passed : deadline.nanos ≤ waited) :
      Takes settings a ⟨.stop deadline, some (.error (.timeout deadline)), waited, late⟩
        ⟨.stopping, a.spawned⟩

/-- The calls, latest first, lead the automaton from idle to its state. -/
inductive Follows (settings : Settings) : List Called → Automaton → Prop where
  | built : Follows settings [] {}
  | called {past : List Called} {a b : Automaton} {c : Called} (before : Follows settings past a)
      (takes : Takes settings a c b) : Follows settings (c :: past) b

end Automaton

def Called.Accepted (c : Called) : Prop :=
  (∃ deadline, c.call = .stop deadline) ∧ c.answer ≠ some (.error .notRunning)

namespace Automaton

variable {settings : Settings} {past : List Called} {a b : Automaton} {c : Called}

theorem Takes.over_iff (takes : a.Takes settings c b) : b.Over ↔ a.Over ∨ c.Accepted := by
  cases takes with
  | tooLate ceased | notRunning ceased => simp [Called.Accepted, ceased]
  | disabled | again => simp [Called.Accepted]
  | spawned live => simpa [Called.Accepted, Over] using live
  | waiting | inTime | timeout => simp [Called.Accepted, Over]

theorem Follows.over_iff (follows : Follows settings past a) : a.Over ↔ ∃ c ∈ past, c.Accepted := by
  induction follows with
  | built => simp [Over]
  | called _ takes ih => rw [takes.over_iff, ih]; simp [or_comm]

theorem Follows.phase (follows : Follows settings past a) (live : ¬ a.Over) :
    a.phase = if a.spawned = [] then .idle else .running := by
  induction follows with
  | built => rfl
  | called _ takes ih =>
    cases takes with
    | tooLate ceased | notRunning ceased => exact absurd ceased live
    | disabled | again => exact ih live
    | spawned => simp
    | waiting => exact absurd (.inl rfl) live
    | inTime => exact absurd (.inr rfl) live
    | timeout => exact absurd (.inl rfl) live

theorem Follows.idle_iff (follows : Follows settings past a) :
    a.phase = .idle ↔ a.spawned = [] ∧ ¬ a.Over := by
  by_cases live : a.Over
  · rcases live with stopping | stopped <;> simp [Over, *]
  · rw [follows.phase live]
    split <;> simp [*]

theorem Follows.running_iff (follows : Follows settings past a) :
    a.phase = .running ↔ a.spawned ≠ [] ∧ ¬ a.Over := by
  by_cases live : a.Over
  · rcases live with stopping | stopped <;> simp [Over, *]
  · rw [follows.phase live]
    split <;> simp [*]

theorem Follows.spawned (follows : Follows settings past a) :
    a.spawned.Nodup ∧ ∀ job ∈ a.spawned, settings.enabled job = true := by
  induction follows with
  | built => exact ⟨.nil, nofun⟩
  | called _ takes ih =>
    cases takes with
    | spawned _ on fresh =>
      obtain ⟨once, enabled⟩ := ih
      refine ⟨?_, ?_⟩
      · rw [List.nodup_append]
        refine ⟨once, List.nodup_singleton _, fun job old other new => ?_⟩
        obtain rfl := List.mem_singleton.1 new
        rintro rfl
        exact fresh old
      · rw [List.forall_mem_append]
        exact ⟨enabled, List.forall_mem_singleton.2 on⟩
    | _ => exact ih

theorem Follows.stopped (follows : Follows settings past a) (member : c ∈ past) {deadline : Duration}
    (stop : c.call = .stop deadline) (well : c.answer = some (.ok ())) : a.phase = .stopped := by
  induction follows with
  | built => cases member
  | called _ takes ih =>
    rcases List.mem_cons.1 member with rfl | member
    · cases takes with
      | inTime => rfl
      | notRunning | waiting | timeout => cases well
      | tooLate | disabled | again | spawned => cases stop
    · have ceased := ih member
      cases takes with
      | tooLate | notRunning => exact ceased
      | disabled live | again live | spawned live | waiting live | inTime live | timeout live =>
        exact absurd (.inr ceased) live

end Automaton

theorem Settings.period_pos {s : Settings} {job : Job} (on : s.enabled job = true) :
    0 < (s.period job).nanos := by
  cases job <;>
    simp only [enabled, processingEnabled, expirationEnabled, Duration.isZero, Bool.and_eq_true,
      Bool.not_eq_true', beq_eq_false_iff_ne, period] at on ⊢ <;> omega

theorem Phase.isOver_eq_true {phase : Phase} :
    phase.isOver = true ↔ phase = .stopping ∨ phase = .stopped := by
  cases phase <;> simp [isOver]

namespace JobRuntime

variable {settings : Settings} {t t' start : JobRuntime σ} {e : Event σ} {a : Automaton}

theorem map_fst_set {loops : List (Job × JobLoop σ)} {k : Nat} {job : Job} {loop next : JobLoop σ}
    (here : loops[k]? = some (job, loop)) : (loops.set k (job, next)).map (·.1) = loops.map (·.1) := by
  obtain ⟨inside, same⟩ := List.getElem?_eq_some_iff.1 here
  have unchanged : (loops.set k loops[k]).map (·.1) = loops.map (·.1) := by
    rw [List.set_getElem_self]
  rw [same, List.map_set] at unchanged
  rw [List.map_set]
  exact unchanged

/-- The invariant of a runtime that follows an automaton. -/
structure Kept (settings : Settings) (t : JobRuntime σ) (a : Automaton) : Prop where
  settings_eq : t.processor.settings = settings
  follows : Automaton.Follows settings t.past a
  phase : t.life.phase = a.phase
  spawned : t.life.spawned = a.spawned
  jobs : t.loops.map (·.1) = a.spawned
  cancelled : t.life.cancelled = true ↔ a.Over ∨ t.owner = .gone
  waits : ∀ deadline since, t.owner = .stopping deadline since → since ≤ t.clock ∧
    ∃ rest b, t.past = ⟨.stop deadline, none, 0, []⟩ :: rest ∧ Automaton.Follows settings rest b ∧
      ¬ b.Over ∧ a = ⟨.stopping, b.spawned⟩
  ended : a.phase = .stopped → t.processor.allEnded = true

theorem Kept.frame (kept : t.Kept settings a) (settings_eq : t'.processor.settings = t.processor.settings)
    (life : t'.life = t.life) (past : t'.past = t.past) (clock : t.clock ≤ t'.clock)
    (owner : t'.owner = t.owner ∨ t'.owner = .free ∧ t.owner ≠ .gone)
    (jobs : t'.loops.map (·.1) = t.loops.map (·.1))
    (ended : t.processor.allEnded = true → t'.processor.allEnded = true) : t'.Kept settings a where
  settings_eq := settings_eq.trans kept.settings_eq
  follows := past ▸ kept.follows
  phase := life ▸ kept.phase
  spawned := life ▸ kept.spawned
  jobs := jobs.trans kept.jobs
  cancelled := by
    rw [life, kept.cancelled]
    rcases owner with same | ⟨free, present⟩
    · rw [same]
    · simp [free, present]
  waits := by
    intro deadline since waits
    rcases owner with same | ⟨free, -⟩
    · obtain ⟨before, rest⟩ := kept.waits deadline since (same ▸ waits)
      exact ⟨Nat.le_trans before clock, past ▸ rest⟩
    · rw [free] at waits
      cases waits
  ended := fun stopped => ended (kept.ended stopped)

theorem not_allEnded {k : Nat} {job : Job} {loop : JobLoop σ} (here : t.loops[k]? = some (job, loop))
    (live : loop.isEnded = false) : t.processor.allEnded = false := by
  rw [Processor.allEnded, List.all_eq_false]
  exact ⟨_, List.mem_of_getElem? here, by simp [live]⟩

theorem late_eq_nil : t.late = [] ↔ t.processor.allEnded = true := by
  simp [late, Processor.allEnded, List.filter_eq_nil_iff]

theorem Kept.called (kept : t.Kept settings a) (free : t.owner = .free) {c : Call}
    (answers : t.Answers c t') : ∃ b, t'.Kept settings b := by
  obtain rfl := kept.settings_eq
  have over_iff : t.life.phase.isOver = true ↔ a.Over := by
    rw [Phase.isOver_eq_true, kept.phase, Automaton.Over]
  have live_iff : t.life.phase.isOver = false ↔ ¬ a.Over := by rw [← over_iff, Bool.not_eq_true]
  have unasked : ∀ {deadline since}, t.owner ≠ .stopping deadline since := by rw [free]; nofun
  have same : ∀ {answer}, a.Takes t.processor.settings ⟨c, answer, 0, []⟩ a →
      (t.noted c answer).Kept t.processor.settings a := fun takes =>
    { kept with
      follows := .called kept.follows takes
      waits := fun _ _ waits => absurd waits unasked }
  cases answers with
  | tooLate ceased => exact ⟨a, same (.tooLate (over_iff.1 ceased))⟩
  | disabled live off => exact ⟨a, same (.disabled (live_iff.1 live) off)⟩
  | again live on spawned => exact ⟨a, same (.again (live_iff.1 live) on (kept.spawned ▸ spawned))⟩
  | notRunning ceased => exact ⟨a, same (.notRunning (over_iff.1 ceased))⟩
  | @spawned job live on fresh =>
    have live := live_iff.1 live
    have calm : ¬ (⟨.running, a.spawned ++ [job]⟩ : Automaton).Over := by simp [Automaton.Over]
    have cancelled := kept.cancelled
    simp only [live, false_or] at cancelled
    exact ⟨⟨.running, a.spawned ++ [job]⟩,
      { settings_eq := rfl
        follows := .called kept.follows (.spawned live on (kept.spawned ▸ fresh))
        phase := rfl
        spawned := congrArg (· ++ [job]) kept.spawned
        jobs := by rw [← kept.jobs]; exact List.map_append
        cancelled := by simp only [calm, false_or]; exact cancelled
        waits := fun _ _ waits => absurd waits unasked
        ended := nofun }⟩
  | waits live =>
    have live := live_iff.1 live
    exact ⟨⟨.stopping, a.spawned⟩,
      { settings_eq := rfl
        follows := .called kept.follows (.waiting live)
        phase := rfl
        spawned := kept.spawned
        jobs := kept.jobs
        cancelled := by simp [Automaton.Over, withLife]
        waits := fun deadline since waits => by
          obtain ⟨rfl, rfl⟩ := Owner.stopping.inj waits
          exact ⟨Nat.le_refl _, t.past, a, rfl, kept.follows, live, rfl⟩
        ended := nofun }⟩

theorem Kept.answered (kept : t.Kept settings a) {deadline : Duration} {since : Nat}
    (waits : t.owner = .stopping deadline since)
    (due : t.processor.allEnded = true ∨ since + deadline.nanos ≤ t.clock) :
    ∃ b, (t.answer deadline since).Kept settings b := by
  obtain ⟨begun, rest, b, past, before, live, rfl⟩ := kept.waits deadline since waits
  have among : ∀ job ∈ t.late, job ∈ b.spawned := by
    intro job member
    obtain ⟨l, inside, rfl⟩ := List.mem_map.1 member
    rw [← kept.jobs]
    exact List.mem_map_of_mem (List.mem_of_mem_filter inside)
  have raised : t.life.cancelled = true := kept.cancelled.2 (.inl (.inl rfl))
  cases ended : t.processor.allEnded with
  | true =>
    have none_late := late_eq_nil.2 ended
    exact ⟨⟨.stopped, b.spawned⟩,
      { settings_eq := kept.settings_eq
        follows := by
          simp only [answer, past, ended, none_late, List.modifyHead_cons]
          exact .called before (.inTime live)
        phase := by simp [answer, withLife, ended, Lifecycle.settle]
        spawned := by simpa [answer, withLife, ended, Lifecycle.settle] using kept.spawned
        jobs := kept.jobs
        cancelled := by simpa [answer, withLife, ended, Lifecycle.settle, Automaton.Over] using raised
        waits := nofun
        ended := fun _ => ended }⟩
  | false =>
    have some_late : t.late ≠ [] := fun none_late => by rw [late_eq_nil.1 none_late] at ended; cases ended
    have passed : since + deadline.nanos ≤ t.clock := due.resolve_left (by simp [ended])
    exact ⟨⟨.stopping, b.spawned⟩,
      { settings_eq := kept.settings_eq
        follows := by
          simp only [answer, past, ended, List.modifyHead_cons]
          exact .called before (.timeout live some_late among (by omega))
        phase := by simpa [answer, withLife, ended, Lifecycle.settle] using kept.phase
        spawned := by simpa [answer, withLife, ended, Lifecycle.settle] using kept.spawned
        jobs := kept.jobs
        cancelled := by simpa [answer, withLife, ended, Lifecycle.settle, Automaton.Over] using raised
        waits := nofun
        ended := nofun }⟩

theorem Kept.act (kept : t.Kept settings a) (acted : t.act e = some t') : ∃ b, t'.Kept settings b := by
  cases comes acted with
  | called free answers => exact kept.called free answers
  | answered waits due => exact kept.answered waits due
  | forgotten waits =>
    exact ⟨a, kept.frame rfl rfl rfl (Nat.le_refl _) (.inr ⟨rfl, by rw [waits]; nofun⟩) rfl id⟩
  | abandoned free =>
    exact ⟨a, { kept with
      cancelled := by simp [withLife, Lifecycle.abandon]
      waits := nofun }⟩
  | @polled k job loop next notes here polled =>
    refine ⟨a, kept.frame rfl rfl rfl (Nat.le_refl _) (.inl rfl) (map_fst_set here) fun all => ?_⟩
    have live : loop.isEnded = false := by cases JobLoop.polls polled <;> rfl
    rw [not_allEnded here live] at all
    cases all
  | carried here stepped =>
    refine ⟨a, kept.frame rfl rfl rfl (Nat.le_refl _) (.inl rfl) (map_fst_set here) fun all => ?_⟩
    rw [not_allEnded here rfl] at all
    cases all
  | passed => exact ⟨a, kept.frame rfl rfl rfl (Nat.le_add_right ..) (.inl rfl) rfl id⟩
  | meddled => exact ⟨a, kept.frame rfl rfl rfl (Nat.le_refl _) (.inl rfl) rfl id⟩

theorem kept_begin {handler : Handler σ} {p : Processor σ} (built : Processor.build settings handler = .ok p)
    (scene : Scene σ) : (begin p scene).Kept settings {} := by
  unfold Processor.build at built
  split at built
  · cases built
  · obtain rfl := Except.ok.inj built
    exact
      { settings_eq := rfl
        follows := .built
        phase := rfl
        spawned := rfl
        jobs := rfl
        cancelled := by simp [begin, Automaton.Over]
        waits := nofun
        ended := nofun }

theorem Kept.run (kept : start.Kept settings a) (run : Run start t) : ∃ b, t.Kept settings b := by
  induction run with
  | here => exact ⟨a, kept⟩
  | next _ acted ih =>
    obtain ⟨b, kept⟩ := ih
    exact kept.act acted

theorem Answers.past {c : Call} (answers : t.Answers c t') :
    ∃ answer, t'.past = ⟨c, answer, 0, []⟩ :: t.past := by
  cases answers <;> exact ⟨_, rfl⟩

theorem answer_ended {deadline : Duration} {since : Nat} (waits : t.owner = .stopping deadline since)
    (ended : t.processor.allEnded = true) :
    t.act .answer = some (t.answer deadline since) ∧ (t.answer deadline since).life.phase = .stopped := by
  refine ⟨?_, by simp [answer, withLife, ended, Lifecycle.settle]⟩
  simp only [act, waits, ended, true_or, if_true]

theorem answer_late {deadline : Duration} {since nanos : Nat} (waits : t.owner = .stopping deadline since)
    (passed : since + deadline.nanos ≤ t.clock + nanos) :
    (t.act (.pass nanos)).bind (·.act .answer) =
      some ({ t with clock := t.clock + nanos }.answer deadline since) := by
  simp only [act, Option.bind_some, waits, passed, or_true, if_true]

/-- The calls of a processor and their answers follow the automaton. There is one loop for each spawned job,
no job is spawned twice or with a period of zero, the phase is determined by the spawned jobs and the accepted
stop, and a stop is answered when all loops have ended or its deadline has passed. -/
theorem lives_as_automaton {handler : Handler σ} {p : Processor σ} {scene : Scene σ}
    (built : Processor.build settings handler = .ok p) (run : Run (begin p scene) t) :
    let told := ∃ c ∈ t.past, c.Accepted
    (∃ a, Automaton.Follows settings t.past a ∧ t.life.phase = a.phase ∧ t.life.spawned = a.spawned) ∧
    (t.loops.map (·.1) = t.life.spawned ∧ t.life.spawned.Nodup ∧
      ∀ job ∈ t.life.spawned, settings.enabled job = true ∧ 0 < (settings.period job).nanos) ∧
    ((t.life.phase = .idle ↔ t.life.spawned = [] ∧ ¬ told) ∧
      (t.life.phase = .running ↔ t.life.spawned ≠ [] ∧ ¬ told) ∧
      (t.life.cancelled = true ↔ told ∨ t.owner = .gone)) ∧
    (t.owner = .free → ∀ c, ∃ t' answer, t.act (.call c) = some t' ∧
      t'.past = ⟨c, answer, 0, []⟩ :: t.past) ∧
    ∀ deadline since, t.owner = .stopping deadline since → t.life.phase = .stopping ∧
      (t.life.spawned = [] → t.processor.allEnded = true) ∧
      (t.processor.allEnded = true → ∃ t' rest, t.act .answer = some t' ∧ t'.life.phase = .stopped ∧
        t'.past = ⟨.stop deadline, some (.ok ()), t.clock - since, []⟩ :: rest) ∧
      ∀ nanos, since + deadline.nanos ≤ t.clock + nanos → t.processor.allEnded = false →
        ∃ t' rest, (t.act (.pass nanos)).bind (·.act .answer) = some t' ∧ t'.life.phase = .stopping ∧
          t'.past = ⟨.stop deadline, some (.error (.timeout deadline)), t.clock + nanos - since,
            t.late⟩ :: rest := by
  intro told
  obtain ⟨a, kept⟩ := (kept_begin built scene).run run
  have ceased : a.Over ↔ told := kept.follows.over_iff
  obtain ⟨once, enabled⟩ := kept.follows.spawned
  refine ⟨⟨a, kept.follows, kept.phase, kept.spawned⟩, ⟨kept.jobs.trans kept.spawned.symm,
    kept.spawned ▸ once, ?_⟩, ⟨?_, ?_, ?_⟩, ?_, ?_⟩
  · rw [kept.spawned]
    exact fun job member => ⟨enabled job member, Settings.period_pos (enabled job member)⟩
  · rw [kept.phase, kept.spawned, kept.follows.idle_iff, ceased]
  · rw [kept.phase, kept.spawned, kept.follows.running_iff, ceased]
  · rw [kept.cancelled, ceased]
  · intro free c
    obtain ⟨answer, past⟩ := (t.answers c).past
    exact ⟨t.call c, answer, by simp only [act, free], past⟩
  · intro deadline since waits
    obtain ⟨begun, rest, b, past, before, live, rfl⟩ := kept.waits deadline since waits
    refine ⟨kept.phase, fun none_spawned => ?_, fun ended => ?_, fun nanos passed running => ?_⟩
    · have no_loop : t.processor.loops = [] :=
        List.map_eq_nil_iff.1 (kept.jobs.trans (kept.spawned.symm.trans none_spawned))
      rw [Processor.allEnded, no_loop]
      rfl
    · obtain ⟨answered, stopped⟩ := answer_ended waits ended
      refine ⟨_, rest, answered, stopped, ?_⟩
      simp only [answer, past, ended, late_eq_nil.2 ended, List.modifyHead_cons]
      rfl
    · refine ⟨_, rest, answer_late waits passed, ?_, ?_⟩
      · simpa [answer, withLife, running, Lifecycle.settle] using kept.phase
      · simp only [answer, past, running, List.modifyHead_cons]
        rfl

/-- A processor with one job is started twice and stopped with a deadline that passes. Nothing can be started
afterwards. -/
theorem lives_as_automaton_timeout :
    let settings : Settings := { path := ⟨[0x61]⟩, retention := .zero }
    let events : List (Event Unit) := [.call (.start .expiration), .call (.start .processing),
      .call (.start .processing), .poll 0, .call (.stop (.ofNanos 5)), .pass 5, .answer, .poll 0,
      .call (.start .expiration), .call (.stop .zero)]
    let past : List Called := [⟨.stop .zero, some (.error .notRunning), 0, []⟩,
      ⟨.start .expiration, some (.error .stopped), 0, []⟩,
      ⟨.stop (.ofNanos 5), some (.error (.timeout (.ofNanos 5))), 5, [.processing]⟩,
      ⟨.start .processing, some (.error (.running .processing)), 0, []⟩,
      ⟨.start .processing, some (.ok ()), 0, []⟩, ⟨.start .expiration, some (.ok ()), 0, []⟩]
    ∃ p t, Processor.build settings Violations.handler = .ok p ∧
      (begin p ⟨.empty, (), []⟩).play events = some t ∧ t.life.phase = .stopping ∧ t.past = past ∧
      ∃ a, Automaton.Follows settings past a ∧ t.life.phase = a.phase ∧ t.life.spawned = a.spawned := by
  intro settings events past
  let p : Processor Unit := { settings, handler := Violations.handler, rotator := { live := settings.path } }
  have valid : settings.validate = .ok () := by decide +kernel
  have built : Processor.build settings Violations.handler = .ok p := by rw [Processor.build, valid]
  have ends : ((begin p ⟨.empty, (), []⟩).play events).map (fun t => (t.life.phase, t.past)) =
      some (.stopping, past) := by decide +kernel
  obtain ⟨t, played, results⟩ := Option.map_eq_some_iff.1 ends
  obtain ⟨phase, same⟩ := Prod.mk.inj results
  exact ⟨p, t, built, played, phase, same,
    same ▸ (lives_as_automaton built (run_of_play .here played)).1⟩

end JobRuntime

end AuditTrail
