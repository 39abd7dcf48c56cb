import AuditTrail.Proofs.JobSystem.Basic

/-! A retention of zero. The expiration job is never spawned then, so without sweeps on request no
file is removed except a backup whose copy failed. A sweep on request does not check for a zero
retention and removes every backup older than its reading of the clock. -/
namespace AuditTrail

variable {σ : Type}

def JobAction.Unasked : JobAction → Prop
  | .look _ .request _ => False
  | _ => True

theorem Lifecycle.spawned_start {settings : Settings} {job other : Job} {l l' : Lifecycle}
    (started : l.start settings job = .ok l') (off : settings.enabled other = false)
    (absent : other ∉ l.spawned) : other ∉ l'.spawned := by
  unfold start at started
  split at started
  · cases started
  split at started
  · obtain rfl := Except.ok.inj started
    exact absent
  next on =>
  split at started
  · cases started
  · obtain rfl := Except.ok.inj started
    rw [List.mem_append, List.mem_singleton, not_or]
    refine ⟨absent, ?_⟩
    rintro rfl
    exact on (by rw [off]; rfl)

theorem Lifecycle.spawned_stop {l l' : Lifecycle} (stopped : l.stop = .ok l') :
    l'.spawned = l.spawned := by
  unfold stop at stopped
  split at stopped
  · cases stopped
  · obtain rfl := Except.ok.inj stopped
    rfl

theorem Lifecycle.spawned_settle (l : Lifecycle) (ended : Bool) :
    (l.settle ended).spawned = l.spawned := by
  unfold settle
  split <;> rfl

namespace JobSystem

variable {handler : Handler σ} {settings : Settings} {p p' : JobSystem σ} {s : Site} {o : JobAction}
  {place : Place} {node : Node}

/-- The place of a backup whose rotation is not finished. -/
def Unfinished (p : JobSystem σ) (place : Place) : Prop :=
  ∃ v stage backup node?, p.log.users v = .ticking (.rotating stage) ∧
    stage.backup? = some backup ∧ p.files.find false backup = .ok ⟨place, node?⟩

structure Calm (p : JobSystem σ) : Prop where
  unspawned : .expiration ∉ p.life.spawned
  idle : ∀ k, p.sweepRuns k = .idle

theorem Calm.act (calm : p.Calm) (off : settings.enabled .expiration = false)
    (acted : p.act handler settings o = some p') (unasked : o.Unasked) : p'.Calm := by
  obtain ⟨unspawned, idle⟩ := calm
  cases comes acted with
  | log =>
    constructor
    · rw [life_record]
      exact unspawned
    · rw [sweepRuns_record]
      exact idle
  | start started => exact ⟨Lifecycle.spawned_start started off unspawned, idle⟩
  | stop stopped => exact ⟨(Lifecycle.spawned_stop stopped).symm ▸ unspawned, idle⟩
  | settle ended => exact ⟨(Lifecycle.spawned_settle p.life ended).symm ▸ unspawned, idle⟩
  | refused | abandon => exact ⟨unspawned, idle⟩
  | @look k caller now may =>
    cases caller with
    | request => exact unasked.elim
    | job =>
      simp only [mayLook, Bool.and_eq_true, List.contains_iff_mem] at may
      exact absurd may.1 unspawned
  | list here | unlisted here | exhausted here | expel here =>
    rw [idle] at here
    cases here

theorem Viewed.stays (viewed : p.Viewed settings s) (calm : p.Calm)
    (acted : p.act handler settings o = some p') (honest : o.Honest) (unasked : o.Unasked)
    (there : p.files.node? place = some node) (done : ¬ p.Unfinished place) :
    p'.files.node? place = some node ∧ ¬ p'.Unfinished place := by
  obtain ⟨s', viewed', follows, onward⟩ := viewed.act acted honest
  have evolves := viewed.evolves viewed' onward
  have before : ∀ v stage backup node?, p.log.users v = .ticking (.rotating stage) →
      stage.backup? = some backup → p'.files.find false backup ≠ .ok ⟨place, node?⟩ := by
    intro v stage backup node? here has leads
    exact done ⟨v, stage, backup, _, here, has, evolves.ways.symm.find leads⟩
  cases follows with
  | living => exact ⟨there, done⟩
  | turned => exact ⟨there, done⟩
  | listed => exact ⟨there, done⟩
  | expelled here =>
    rw [calm.idle] at here
    cases here
  | @log d w _ passes =>
    simp only [JobSystem.files, Unfinished, log_record] at there done before evolves ⊢
    cases passes with
    | quiet user files _ users _ _ begins =>
      rw [files]
      refine ⟨there, ?_⟩
      rintro ⟨v, stage, backup, node?, here, has, leads⟩
      rw [users, Function.update_apply] at here
      split at here
      · obtain rfl := begins stage here
        cases has
      · exact before v stage backup node? here has (files.symm ▸ leads)
    | @append v bytes fresh own here appended _ users =>
      constructor
      · rcases Files.append_cases appended with ⟨free, found, made⟩ | ⟨n, -, revised⟩
        · rw [made]
          exact Files.stays_addFile (Files.node?_of_find found).symm there
        · rw [revised, Files.node?_revise]
          exact there
      · rintro ⟨u, stage, backup, node?, turning, has, leads⟩
        rw [users, Function.update_apply] at turning
        split at turning
        · cases turning
        · exact before u stage backup node? turning has leads
    | @request v now fault t last next own here turning move _ _ users =>
      constructor
      · apply move.node? there
        intro backup cause node' stage leads
        exact done ⟨v, _, backup, _, here, stage ▸ rfl, leads⟩
      · rintro ⟨u, stage, backup, node?, turning', has, leads⟩
        rw [users, Function.update_apply] at turning'
        split at turning'
        · cases turning'
          rcases move.backup? has with old | ⟨free, found⟩
          · exact before v _ backup node? here old leads
          · have back := evolves.ways.symm.find leads
            rw [found] at back
            obtain ⟨rfl, empty⟩ := Files.Found.mk.inj (Except.ok.inj back)
            rw [there] at empty
            cases empty
        · exact before u stage backup node? turning' has leads
    | opened own here files _ users _ apart =>
      rw [files]
      refine ⟨there, ?_⟩
      rintro ⟨u, stage, backup, node?, turning, has, leads⟩
      rw [users, Function.update_apply] at turning
      split at turning
      · cases turning
        exact apart stage rfl
      · exact before u stage backup node? turning has (files.symm ▸ leads)

theorem Run.stays (run : Run handler settings (fun _ o => o.Honest ∧ o.Unasked) p p')
    (off : settings.enabled .expiration = false) (viewed : p.Viewed settings s) (calm : p.Calm) :
    (∃ s', p'.Viewed settings s') ∧ p'.Calm ∧ ∀ place node, p.files.node? place = some node →
      ¬ p.Unfinished place → p'.files.node? place = some node ∧ ¬ p'.Unfinished place := by
  induction run with
  | here => exact ⟨⟨s, viewed⟩, calm, fun _ _ there done => ⟨there, done⟩⟩
  | next _ fair acted ih =>
    obtain ⟨⟨s', viewed'⟩, calm', stays⟩ := ih
    obtain ⟨s'', viewed'', -⟩ := viewed'.act acted fair.1
    refine ⟨⟨s'', viewed''⟩, calm'.act off acted fair.2, fun place node there done => ?_⟩
    obtain ⟨there', done'⟩ := stays place node there done
    exact viewed'.stays calm' acted fair.1 fair.2 there' done'

end JobSystem

/-- If the retention is zero and no sweep is requested, the expiration job is never spawned, and every entry
stays, except for the backup of a rotation that has not finished. -/
theorem kept_forever (handler : Handler σ) (settings : Settings)
    (zero : settings.retention.isZero = true) {files : Files} (sound : files.Sound) (state : σ)
    {p p' : JobSystem σ}
    (run : JobSystem.Run handler settings (fun _ o => o.Honest ∧ o.Unasked)
      (.fresh files state settings.path) p)
    (onward : JobSystem.Run handler settings (fun _ o => o.Honest ∧ o.Unasked) p p') :
    p'.Calm ∧ ∀ place node, p.files.node? place = some node → ¬ p.Unfinished place →
      p'.files.node? place = some node := by
  have off : settings.enabled .expiration = false := by
    simp [Settings.enabled, Settings.expirationEnabled, zero]
  have calm : (JobSystem.fresh files state settings.path).Calm := ⟨List.not_mem_nil, fun _ => rfl⟩
  obtain ⟨⟨s, viewed⟩, calm, -⟩ := run.stays off (.origin sound state) calm
  obtain ⟨-, calm', stays⟩ := onward.stays off viewed calm
  exact ⟨calm', fun place node there done => (stays place node there done).1⟩

theorem kept_forever_beside : ∃ p' : JobSystem Unit,
    JobSystem.Run Violations.handler { path := ⟨[0x61]⟩, retention := .zero }
      (fun _ o => o.Honest ∧ o.Unasked)
      (.fresh ((Files.single [0x61] [0x7B, 0x7D, 0x0A]).addFile [[0x61, 0x2E, 0x33]] []) ()
        ⟨[0x61]⟩) p' ∧
    p'.life.spawned = [.processing] ∧ p'.files.node? [[0x61, 0x2E, 0x35]] = some (.file 2) ∧
    p'.files.node? [[0x61, 0x2E, 0x33]] = some (.file 1) := by
  let settings : Settings := { path := ⟨[0x61]⟩, retention := .zero }
  let files := (Files.single [0x61] [0x7B, 0x7D, 0x0A]).addFile [[0x61, 0x2E, 0x33]] []
  let carry : JobAction := .log (.carry 0 (.ofSeconds 5 0) none)
  let actions : List JobAction := [.start .processing, .start .expiration, .log (.begin 0), carry,
    .log (.ask 0), .log (.enter 0)] ++ List.replicate 9 carry ++ [.stop, .log (.finish 0),
    .settle true]
  have ends : ((JobSystem.fresh files () settings.path).play Violations.handler settings actions).map
      (fun p => (p.life.spawned, p.files.node? [[0x61, 0x2E, 0x35]])) =
      some ([.processing], some (.file 2)) := by decide +kernel
  obtain ⟨p', played, results⟩ := Option.map_eq_some_iff.1 ends
  obtain ⟨spawned, new⟩ := Prod.mk.inj results
  have run : JobSystem.Run Violations.handler settings (fun _ o => o.Honest ∧ o.Unasked)
      (.fresh files () settings.path) p' :=
    JobSystem.run_of_play .here played (by simp [actions, carry, JobAction.Honest, JobAction.Unasked])
  have sound : files.Sound := (Files.sound_single _ _).addFile rfl _
  have done : ¬ (JobSystem.fresh files () settings.path).Unfinished [[0x61, 0x2E, 0x33]] := by
    rintro ⟨v, stage, backup, node?, here, -⟩
    cases here
  obtain ⟨-, stays⟩ := kept_forever Violations.handler settings rfl sound () .here run
  exact ⟨p', run, spawned, new, stays _ _ rfl done⟩

/-- A requested sweep removes a backup even if the retention is zero. -/
theorem not_kept_on_request : ∃ (settings : Settings) (files : Files) (p : JobSystem Unit),
    settings.validate = .ok () ∧ settings.retention = .zero ∧
    JobSystem.Run Violations.handler settings (fun _ o => o.Honest) (.fresh files () settings.path) p ∧
    files.read (Backup.path settings.path 5) = .ok [0x78] ∧
    p.files.read (Backup.path settings.path 5) = .error (.ofKind .notFound) := by
  let settings : Settings := { path := ⟨[0x61]⟩, retention := .zero }
  let files := (Files.single [0x61] []).addFile [[0x61, 0x2E, 0x35]] [0x78]
  let actions : List JobAction := [.look 0 .request (.ofSeconds 1000 0), .list 0, .expel 0 none]
  have valid : settings.validate = .ok () :=
    Settings.validate_eq_ok.2 ⟨by decide, by decide +kernel, by decide⟩
  have ends : ((JobSystem.fresh files () settings.path).play Violations.handler settings actions).map
      (fun p => p.files) = some (files.erase [[0x61, 0x2E, 0x35]]) := by decide +kernel
  obtain ⟨p, played, left⟩ := Option.map_eq_some_iff.1 ends
  refine ⟨settings, files, p, valid, rfl,
    JobSystem.run_of_play .here played (by simp [actions, JobAction.Honest]), rfl, ?_⟩
  rw [left]
  rfl

end AuditTrail
