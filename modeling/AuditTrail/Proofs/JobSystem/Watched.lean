import AuditTrail.Proofs.JobSystem.Basic

/-! When a sweep can remove the backup of a tick that has not opened it yet. A sweep goes by the
names of the backups and takes no lock, so it does so only if its reading of the clock is later
than that of the tick by more than the retention. `Watched` is the invariant. -/
namespace AuditTrail

variable {σ : Type}

namespace LogUser

/-- The suffixes that a tick tries are not less than the second it has read. -/
structure Dated (live : Path) (second : Nat) (user : LogUser σ) : Prop where
  tries : ∀ source suffix bound, user = .ticking (.rotating (.naming source suffix bound)) →
    second ≤ suffix
  given : ∀ backup, user.backup? = some backup →
    ∃ suffix, backup = Backup.path live suffix ∧ second ≤ suffix ∧ suffix < UInt64.size

variable {live : Path} {second second' : Nat}

theorem dated_of_idle {user : LogUser σ} (idle : user.backup? = none)
    (apart : ∀ source suffix bound, user ≠ .ticking (.rotating (.naming source suffix bound))) :
    user.Dated live second where
  tries _ _ _ same := absurd same (apart _ _ _)
  given backup has := by
    rw [idle] at has
    cases has

theorem dated_search {suffix : Nat} (late : second ≤ suffix) (source bound : Nat) :
    (.ticking (.rotating (.search live source suffix bound)) : LogUser σ).Dated live second := by
  unfold Rotation.Stage.search
  split
  · refine ⟨?_, nofun⟩
    intro _ _ _ same
    cases same
    exact late
  · exact dated_of_idle rfl nofun

theorem Dated.move {r : Rotator} {now : Moment} {fault : Option Files.Fault} {f files : Files}
    {stage next : Rotation.Stage} {last : Nat}
    (dated : (.ticking (.rotating stage) : LogUser σ).Dated r.live second)
    (move : Rotation.Move r now fault f stage files last next)
    (low : ∀ source suffix bound, stage = .naming source suffix bound → suffix < UInt64.size)
    (read : stage = .opening ∧ second' = now.seconds ∨ stage ≠ .opening ∧ second' = second) :
    (.ticking (.rotating next) : LogUser σ).Dated r.live second' := by
  cases move with
  | opened _ first =>
    obtain ⟨-, rfl⟩ := read.resolve_right fun other => other.1 rfl
    apply dated_search
    rw [first]
    exact Nat.le_max_left _ _
  | unopened => exact dated_of_idle rfl nofun
  | taken =>
    obtain ⟨-, rfl⟩ := read.resolve_left nofun
    have late := dated.tries _ _ _ rfl
    exact dated_search (by omega) _ _
  | uncreated | removed | kept | unemptied => exact dated_of_idle rfl nofun
  | created =>
    obtain ⟨-, rfl⟩ := read.resolve_left nofun
    refine ⟨nofun, fun backup has => ?_⟩
    obtain rfl := Option.some.inj has
    exact ⟨_, rfl, dated.tries _ _ _ rfl, low _ _ _ rfl⟩
  | copied | broken | unread | synced | unsynced | emptied =>
    obtain ⟨-, rfl⟩ := read.resolve_left nofun
    exact ⟨nofun, fun backup has => dated.given backup has⟩

end LogUser

namespace JobSystem

variable {handler : Handler σ} {settings : Settings} {p p' : JobSystem σ} {s s' : Site} {o : JobAction}
  {live : Path} {w : SharedLog σ} {d : LogAction} {u v : Nat} {now : Moment} {fault : Option Files.Fault}
  {stage : Rotation.Stage}

theorem seconds_record (here : p.log.users v = .ticking (.rotating stage)) :
    stage = .opening ∧ (p.record live (.carry v now fault) w).seconds v = now.seconds ∨
      stage ≠ .opening ∧ (p.record live (.carry v now fault) w).seconds v = p.seconds v := by
  simp only [record, LogAction.user, here]
  cases stage with
  | opening => exact .inl ⟨rfl, Function.update_self ..⟩
  | _ => exact .inr ⟨(by simp), rfl⟩

theorem seconds_record_other (other : u ≠ d.user) : (p.record live d w).seconds u = p.seconds u := by
  unfold record
  split
  · exact Function.update_of_ne other _ _
  · rfl
  · rfl
  · rfl

/-- The invariant of all runs, including those with late sweeps. -/
structure Watched (settings : Settings) (p : JobSystem σ) (s : Site) : Prop where
  viewed : p.Viewed settings s
  lasting : Lasting (.lone settings.path) s
  expired : ∀ k now sweep, p.sweepRuns k = .removing now sweep → ∀ b ∈ sweep.pending,
    Backup.isExpired settings.retention now b = true
  dated : ∀ v, (p.log.users v).Dated settings.path (p.seconds v)

theorem Watched.dated_record (watched : p.Watched settings s)
    (passes : p.log.Passes settings.path s d w s') :
    ∀ u, (w.users u).Dated settings.path ((p.record settings.path d w).seconds u) := by
  have others : ∀ {user}, w.users = Function.update p.log.users d.user user →
      user.Dated settings.path ((p.record settings.path d w).seconds d.user) →
      ∀ u, (w.users u).Dated settings.path ((p.record settings.path d w).seconds u) := by
    intro user users own u
    rw [users, Function.update_apply]
    split
    · next same =>
      rw [same]
      exact own
    · next other =>
      rw [seconds_record_other other]
      exact watched.dated u
  cases passes with
  | quiet user _ _ users backup _ begins _ still =>
    refine others users ⟨?_, ?_⟩
    · intro _ _ _ same
      cases begins _ same
    · rw [still p rfl, backup]
      exact (watched.dated d.user).given
  | append own _ _ _ users =>
    subst own
    exact others users (LogUser.dated_of_idle rfl nofun)
  | @request v now fault t last next own here turning move _ _ users =>
    subst own
    have dated := watched.dated v
    rw [here] at dated
    have low : ∀ source suffix bound, t.stage = .naming source suffix bound →
        suffix < UInt64.size := fun _ _ _ naming =>
      Rotator.lt_size (watched.viewed.orderly.searched turning naming).1
    exact others users (dated.move move low (seconds_record here))
  | opened own _ _ _ users idle apart =>
    subst own
    refine others users (LogUser.dated_of_idle idle.1 ?_)
    intro _ _ _ same
    cases same
    exact apart _ rfl

theorem Watched.expired_setSweep (watched : p.Watched settings s) {k : Nat} (sweepRun : SweepRun)
    (own : ∀ now sweep, sweepRun = .removing now sweep → ∀ b ∈ sweep.pending,
      Backup.isExpired settings.retention now b = true) :
    ∀ j now sweep, (p.setSweep k sweepRun).sweepRuns j = .removing now sweep → ∀ b ∈ sweep.pending,
      Backup.isExpired settings.retention now b = true := by
  intro j now sweep removing
  rcases removing_of_setSweep removing with ⟨-, same⟩ | ⟨-, before⟩
  · exact own now sweep same
  · exact watched.expired j now sweep before

theorem Watched.act (watched : p.Watched settings s) (acted : p.act handler settings o = some p')
    (honest : o.Honest) : ∃ s', p'.Watched settings s' ∧ p.Follows settings s o p' s' ∧
      (s' = s ∨ ∃ a, Step (.lone settings.path) s a s' ∧ s.Honest (.lone settings.path) a) := by
  obtain ⟨s', viewed, follows, onward⟩ := watched.viewed.act acted honest
  have lasting : Lasting (.lone settings.path) s' := by
    rcases onward with rfl | ⟨a, step, fair⟩
    · exact watched.lasting
    · exact step.lasting fair (fun _ _ => rfl) watched.viewed.orderly watched.lasting
  refine ⟨s', ⟨viewed, lasting, ?_, ?_⟩, follows, onward⟩
  · cases follows with
    | log =>
      rw [sweepRuns_record]
      exact watched.expired
    | living => exact watched.expired
    | turned other =>
      exact watched.expired_setSweep _ fun now sweep same => absurd same (other now sweep)
    | listed started =>
      obtain ⟨_, -, among⟩ := Sweep.of_start started
      apply watched.expired_setSweep
      rintro _ _ ⟨⟩
      exact fun b member => (among b member).2
    | @expelled k now sweep fault here =>
      apply watched.expired_setSweep (.removing now (sweep.step fault p.files).1)
      rintro _ _ ⟨⟩ b member
      rw [Sweep.pending_step] at member
      exact watched.expired k now sweep here b (List.mem_of_mem_tail member)
  · cases follows with
    | log passes =>
      rw [log_record]
      exact watched.dated_record passes
    | living | turned | listed | expelled => exact watched.dated

theorem Watched.late (watched : p.Watched settings s) {k : Nat} {sweep : Sweep}
    (here : p.sweepRuns k = .removing now sweep) {backup : Path} {place : Place} {node : Node}
    (has : (p.log.users v).backup? = some backup)
    (leads : p.files.find false backup = .ok ⟨place, some node⟩)
    (gone : (sweep.step fault p.files).2.1.node? place ≠ p.files.node? place) :
    (settings.retention.nanos : Int) < now.nanos - p.seconds v * 1000000000 := by
  obtain ⟨b, pending, other, found⟩ := Sweep.step_expels gone
  have fromEntry := watched.lasting.fromEntry k
  rw [watched.viewed.sweeps k now sweep here, watched.viewed.files] at fromEntry
  have slot := (fromEntry b pending).slot found
  obtain ⟨suffix, rfl, dated, -⟩ := (watched.dated v).given backup has
  have named := Backup.head?_of_find leads
  have same := slot.eq named
  have older := Backup.lt_of_isExpired (watched.expired k now sweep here b pending)
  omega

theorem Watched.origin {files : Files} (sound : files.Sound)
    (apart : Backup.Apart files settings.path) (state : σ) :
    (fresh files state settings.path).Watched settings { files } where
  viewed := .origin sound state
  lasting := .origin apart
  expired _ _ _ removing := nomatch removing
  dated _ := LogUser.dated_of_idle rfl nofun

variable {start : JobSystem σ}

theorem Run.watched (run : Run handler settings (fun _ o => o.Honest) start p)
    (watched : ∃ s, start.Watched settings s) : ∃ s, p.Watched settings s := by
  induction run with
  | here => exact watched
  | next _ honest acted ih =>
    obtain ⟨s, before⟩ := ih
    obtain ⟨s', after, -⟩ := before.act acted honest
    exact ⟨s', after⟩

/-- A removal takes the unopened backup of a tick only if the sweep is late for it. -/
def Spares (handler : Handler σ) (settings : Settings) (p : JobSystem σ) : Prop :=
  ∀ k fault p', p.act handler settings (.expel k fault) = some p' →
    ∀ v backup n, (p.log.users v).backup? = some backup → p.files.Names backup n →
      p'.files.Names backup n ∨ ∃ now sweep, p.sweepRuns k = .removing now sweep ∧
        (settings.retention.nanos : Int) < now.nanos - p.seconds v * 1000000000

theorem Watched.spares (watched : p.Watched settings s) : p.Spares handler settings := by
  intro k fault p' acted v backup n has names
  obtain ⟨s', viewed, -, onward⟩ := watched.viewed.act acted trivial
  have evolves := watched.viewed.evolves viewed onward
  cases comes acted with
  | refused calls => rcases calls with ⟨job, calls⟩ | calls <;> cases calls
  | exhausted => exact .inl names
  | @expel _ _ now sweep here =>
    obtain ⟨place, found⟩ := names
    by_cases stays : (sweep.step fault p.files).2.1.node? place = p.files.node? place
    · exact .inl ⟨place, evolves.ways.find_stays found stays⟩
    · exact .inr ⟨now, sweep, here, watched.late here has found stays⟩

end JobSystem

end AuditTrail
