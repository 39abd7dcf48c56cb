import AuditTrail.Proofs.Startup
import AuditTrail.Proofs.JobRuntime.Automaton

/-! The runtime of a service. The owner starts both jobs at once and shuts down within the
configured time. Starting makes one call for each job and undoes nothing, so in principle it could
fail halfway. It never does: the jobs that were spawned are always all that are enabled, or none. -/
namespace AuditTrail

variable {σ : Type}

namespace Settings

/-- The enabled jobs in their starting order. -/
def jobs (s : Settings) : List Job := [.processing, .expiration].filter s.enabled

theorem count_jobs (s : Settings) (job : Job) : s.jobs.count job = if s.enabled job then 1 else 0 := by
  cases first : s.enabled .processing <;> cases second : s.enabled .expiration <;> cases job <;>
    simp [jobs, first, second]

end Settings

/-- The calls of a start of all jobs, latest first. The second is made only if the first succeeds. -/
def Processor.startCalls (p : Processor σ) : List Called :=
  match p.start .processing with
  | .error failure => [⟨.start .processing, some (.error failure), 0, []⟩]
  | .ok p => [⟨.start .expiration, some ((p.start .expiration).map fun _ => ()), 0, []⟩,
      ⟨.start .processing, some (.ok ()), 0, []⟩]

def JobRuntime.startAll (t : JobRuntime σ) : JobRuntime σ :=
  { t with processor := (Service.start t.processor).2.1, past := t.processor.startCalls ++ t.past }

namespace Service

inductive Event (σ : Type) where
  | start
  | shutdown
  | other (e : JobRuntime.Event σ) (silent : ∀ call, e ≠ .call call)

def act (c : Config) (t : JobRuntime σ) : Event σ → Option (JobRuntime σ)
  | .start => match t.owner with
    | .free => some t.startAll
    | _ => none
  | .shutdown => t.act (.call (.stop c.general.shutdownTimeout))
  | .other e _ => t.act e

def play (c : Config) (t : JobRuntime σ) : List (Event σ) → Option (JobRuntime σ)
  | [] => some t
  | e :: rest => (act c t e).bind fun t' => play c t' rest

inductive Run (c : Config) (origin : JobRuntime σ) : JobRuntime σ → Prop where
  | here : Run c origin origin
  | next {t t' : JobRuntime σ} {e : Event σ} (run : Run c origin t) (acted : act c t e = some t') :
      Run c origin t'

variable {c : Config} {t t' origin : JobRuntime σ} {e : Event σ}

theorem run_of_play {events : List (Event σ)} (run : Run c origin t)
    (played : play c t events = some t') : Run c origin t' := by
  induction events generalizing t with
  | nil =>
    obtain rfl := Option.some.inj played
    exact run
  | cons e rest ih =>
    obtain ⟨middle, acted, onward⟩ := Option.bind_eq_some_iff.1 played
    exact ih (run.next acted) onward

inductive Comes (t : JobRuntime σ) : JobRuntime σ → Prop where
  | started (free : t.owner = .free) : Comes t t.startAll
  | passed {e : JobRuntime.Event σ} {t' : JobRuntime σ} (silent : ∀ job, e ≠ .call (.start job))
      (acted : t.act e = some t') : Comes t t'

theorem comes (acted : act c t e = some t') : Comes t t' := by
  cases e with
  | start =>
    simp only [act] at acted
    split at acted
    · next free =>
      obtain rfl := Option.some.inj acted
      exact .started free
    · cases acted
  | shutdown => exact .passed (e := .call (.stop c.general.shutdownTimeout)) (by simp) acted
  | other e silent => exact .passed (e := e) (fun job => silent (.start job)) acted

/-! ### The runtime of a service is a runtime -/

theorem run_startAll (free : t.owner = .free) : JobRuntime.Run t t.startAll := by
  have call : ∀ {t : JobRuntime σ} (job : Job), t.owner = .free →
      t.act (.call (.start job)) = some (t.call (.start job)) := by
    intro t job free
    simp only [JobRuntime.act, free]
  cases first : t.processor.start .processing with
  | error failure =>
    have same : t.call (.start .processing) = t.startAll := by
      simp [JobRuntime.call, JobRuntime.startAll, Processor.startCalls, start, Processor.startAll, first, JobRuntime.noted]
    exact .one (same ▸ call .processing free)
  | ok p =>
    let middle := t.call (.start .processing)
    have still : middle.owner = .free := by simp [middle, JobRuntime.call, first, JobRuntime.noted, free]
    have same : middle.call (.start .expiration) = t.startAll := by
      cases second : p.start .expiration <;>
        simp [middle, JobRuntime.call, JobRuntime.startAll, Processor.startCalls, start, Processor.startAll, first,
          second, JobRuntime.noted, Except.map]
    exact (JobRuntime.Run.one (call .processing free)).next (same ▸ call .expiration still)

theorem Run.runtime (run : Run c origin t) : JobRuntime.Run origin t := by
  induction run with
  | here => exact .here
  | next _ acted ih => cases comes acted with
    | started free => exact ih.trans (run_startAll free)
    | passed _ acted => exact ih.next acted

/-! ### All jobs or none -/

theorem spawned_act {e : JobRuntime.Event σ} (silent : ∀ job, e ≠ .call (.start job))
    (acted : t.act e = some t') : t'.life.spawned = t.life.spawned := by
  cases JobRuntime.comes acted with
  | called _ answers => cases answers with
    | tooLate | disabled | again | spawned => exact absurd rfl (silent _)
    | notRunning | waits => rfl
  | answered =>
    unfold JobRuntime.answer Lifecycle.settle
    cases t.processor.allEnded <;> rfl
  | forgotten | abandoned | polled | carried | passed | meddled => rfl

variable {p : Processor σ}

theorem start_over (ceased : p.life.phase.isOver = true) :
    (start p).1 = .error (.job Failure.stopped.toService) ∧ (start p).2.1 = p := by
  simp [start, Processor.startAll, Processor.start, Lifecycle.start, ceased]

theorem start_idle (idle : p.life.phase = .idle) (fresh : p.life.spawned = []) (unlooped : p.loops = []) :
    (start p).1 = .ok () ∧
    (start p).2.1 = { p with
      life := ⟨if p.settings.jobs = [] then .idle else .running, p.settings.jobs, p.life.cancelled⟩
      loops := p.settings.jobs.map (·, .fresh) } := by
  obtain ⟨settings, handler, rotator, ⟨phase, spawned, cancelled⟩, loops⟩ := p
  obtain rfl : phase = .idle := idle
  obtain rfl : spawned = [] := fresh
  obtain rfl : loops = [] := unlooped
  cases first : settings.enabled .processing <;> cases second : settings.enabled .expiration <;>
    simp [start, Processor.startAll, Processor.start, Lifecycle.start, Phase.isOver, Settings.jobs, first, second]

theorem start_running {job : Job} (running : p.life.phase = .running)
    (all : p.life.spawned = p.settings.jobs) (first : p.settings.jobs.head? = some job) :
    (start p).1 = .error (.job (Failure.running job).toService) ∧ (start p).2.1 = p := by
  obtain ⟨settings, handler, rotator, ⟨phase, spawned, cancelled⟩, loops⟩ := p
  obtain rfl : phase = .running := running
  obtain rfl : spawned = settings.jobs := all
  cases processing : settings.enabled .processing <;> cases expiration : settings.enabled .expiration <;>
    simp [Settings.jobs, processing, expiration] at first <;> obtain rfl := first <;>
    simp [start, Processor.startAll, Processor.start, Lifecycle.start, Phase.isOver, Settings.jobs, processing,
      expiration]

/-- The outcome of a start: every enabled job is spawned, or nothing changes. -/
inductive Starts (p : Processor σ) : Except StartupError Unit → Processor σ → Prop where
  | all (idle : p.life.phase = .idle) (fresh : p.life.spawned = []) (unlooped : p.loops = []) :
      Starts p (.ok ()) { p with
        life := ⟨if p.settings.jobs = [] then .idle else .running, p.settings.jobs, p.life.cancelled⟩
        loops := p.settings.jobs.map (·, .fresh) }
  | again {job : Job} (running : p.life.phase = .running) (first : p.settings.jobs.head? = some job) :
      Starts p (.error (.job (Failure.running job).toService)) p
  | late (ceased : p.life.phase.isOver = true) : Starts p (.error (.job Failure.stopped.toService)) p

def Whole (p : Processor σ) : Prop := p.life.spawned = [] ∨ p.life.spawned = p.settings.jobs

theorem Starts.whole {q : Processor σ} {outcome : Except StartupError Unit} (starts : Starts p outcome q)
    (whole : Whole p) : Whole q := by
  cases starts with
  | all => exact .inr rfl
  | again | late => exact whole

variable {settings : Settings} {a : Automaton}

theorem Whole.starts (whole : Whole t.processor) (kept : t.Kept settings a) :
    Starts t.processor (start t.processor).1 (start t.processor).2.1 := by
  by_cases ceased : a.Over
  · have past : t.life.phase.isOver = true := by rw [Phase.isOver_eq_true, kept.phase]; exact ceased
    obtain ⟨outcome, same⟩ := start_over past
    rw [outcome, same]
    exact .late past
  · by_cases fresh : t.life.spawned = []
    · have idle : t.life.phase = .idle := by
        rw [kept.phase, kept.follows.idle_iff, ← kept.spawned]
        exact ⟨fresh, ceased⟩
      have unlooped : t.processor.loops = [] :=
        List.map_eq_nil_iff.1 (kept.jobs.trans (kept.spawned.symm.trans fresh))
      obtain ⟨outcome, started⟩ := start_idle idle fresh unlooped
      rw [outcome, started]
      exact .all idle fresh unlooped
    · have running : t.life.phase = .running := by
        rw [kept.phase, kept.follows.running_iff, ← kept.spawned]
        exact ⟨fresh, ceased⟩
      have all := whole.resolve_left fresh
      obtain ⟨job, rest, jobs⟩ := List.exists_cons_of_ne_nil (all ▸ fresh)
      have first : t.processor.settings.jobs.head? = some job := by rw [jobs]; rfl
      obtain ⟨outcome, same⟩ := start_running running all first
      rw [outcome, same]
      exact .again running first

theorem Run.whole (run : Run c origin t) (kept : origin.Kept settings a) (whole : Whole origin.processor) :
    Whole t.processor := by
  induction run with
  | here => exact whole
  | @next t t' e run acted ih =>
    obtain ⟨b, before⟩ := kept.run run.runtime
    cases comes acted with
    | started free => exact (ih.starts before).whole ih
    | passed silent acted =>
      obtain ⟨b', after⟩ := before.act acted
      unfold Whole
      rw [spawned_act silent acted, after.settings_eq, ← before.settings_eq]
      exact ih

theorem processor_of_build {refused : Option String} {handler : Handler σ} {s : Service σ}
    (built : (build refused handler c).1 = .ok s) : Processor.build c.settings handler = .ok s.processor := by
  cases accepted : c.validate with
  | error fault => simp [build, accepted] at built
  | ok =>
    obtain ⟨listening, valid⟩ := listening_of_build accepted built
    rw [build_of_valid accepted listening valid] at built
    obtain rfl := Except.ok.inj built
    exact Processor.build_eq_ok valid

/-- A start of an idle service spawns every enabled job exactly once. Every other start fails and leaves the
processor unchanged. -/
theorem starts_all_or_none {refused : Option String} {handler : Handler σ} {s : Service σ} {scene : Scene σ}
    (built : (build refused handler c).1 = .ok s) (run : Run c (.begin s.processor scene) t)
    (free : t.owner = .free) :
    let jobs := c.settings.jobs
    let p := t.processor
    (∀ job, jobs.count job = if c.settings.enabled job then 1 else 0) ∧
    (p.life.phase = .idle → p.life.spawned = [] ∧ p.loops = [] ∧ (start p).1 = .ok () ∧
      (start p).2.1 = { p with
        life := ⟨if jobs = [] then .idle else .running, jobs, false⟩, loops := jobs.map (·, .fresh) }) ∧
    (p.life.phase ≠ .idle → (start p).2.1 = p ∧ ∃ failure : Failure,
      (start p).1 = .error (.job failure.toService) ∧
      (p.life.phase = .running ∧ (∃ job, jobs.head? = some job ∧ failure = .running job) ∨
        p.life.phase.isOver = true ∧ failure = .stopped)) := by
  intro jobs p
  have begins := JobRuntime.kept_begin (processor_of_build built) scene
  obtain ⟨a, kept⟩ := begins.run run.runtime
  have starts := (run.whole begins (.inl begins.spawned)).starts kept
  have same : t.processor.settings.jobs = jobs := by rw [kept.settings_eq]
  generalize (start p).1 = outcome, (start p).2.1 = q at starts ⊢
  refine ⟨Settings.count_jobs _, fun idle => ?_, fun busy => ?_⟩
  · have calm : t.processor.life.cancelled = false := by
      rw [← Bool.not_eq_true, kept.cancelled, free, Automaton.Over, ← kept.phase, idle]
      simp
    cases starts with
    | all _ fresh unlooped => exact ⟨fresh, unlooped, rfl, by rw [same, calm]⟩
    | again running => rw [idle] at running; cases running
    | late ceased => rw [idle] at ceased; cases ceased
  · cases starts with
    | all idle => exact absurd idle busy
    | @again job running first => exact ⟨rfl, _, rfl, .inl ⟨running, job, same ▸ first, rfl⟩⟩
    | late ceased => exact ⟨rfl, _, rfl, .inr ⟨ceased, rfl⟩⟩

theorem starts_all_or_none_late :
    let c : Config := { auditLog := { path := "a" } }
    let events : List (Event Unit) := [.start, .other (.poll 0) (by simp), .start, .shutdown,
      .other (.pass c.general.shutdownTimeout.nanos) (by simp), .other .answer (by simp)]
    ∃ s t, (build none Violations.handler c).1 = .ok s ∧
      play c (.begin s.processor ⟨.empty, (), []⟩) events = some t ∧
      t.life = ⟨.stopping, [.processing, .expiration], true⟩ ∧ t.owner = .free ∧
      (start t.processor).2.1 = t.processor ∧
      (start t.processor).1 = .error (.job Failure.stopped.toService) := by
  intro c events
  let s : Service Unit := ofProcessor c (fresh Violations.handler c)
  have accepted : c.validate = .ok () := by decide +kernel
  have listening : (listen none c.metrics).1 = .ok () := by decide +kernel
  have valid : c.settings.validate = .ok () := by decide +kernel
  have built : (build none Violations.handler c).1 = .ok s := build_of_valid accepted listening valid
  have ends : (play c (.begin s.processor ⟨.empty, (), []⟩) events).map
      (fun t => (t.life, t.owner matches .free)) =
      some (⟨.stopping, [.processing, .expiration], true⟩, true) := by decide +kernel
  obtain ⟨t, played, results⟩ := Option.map_eq_some_iff.1 ends
  obtain ⟨life, idle⟩ := Prod.mk.inj results
  have free : t.owner = .free := by
    cases owner : t.owner with
    | free => rfl
    | stopping | gone => rw [owner] at idle; cases idle
  have ceased : t.life.phase = .stopping := by rw [life]
  obtain ⟨-, -, refused⟩ := starts_all_or_none built (run_of_play .here played) free
  obtain ⟨same, failure, outcome, ⟨running, -⟩ | ⟨-, rfl⟩⟩ := refused (by rw [ceased]; decide)
  · rw [ceased] at running
    cases running
  · exact ⟨s, t, built, played, life, free, same, outcome⟩

end Service
end AuditTrail
