import AuditTrail.Proofs.JobSystem.Watched

/-! Backups that a tick has made but not read yet, beside concurrent expiration sweeps. If no sweep
removes such a backup, it stays until its tick opens it, and everything that leaves the live log is
parsed. `Kept` is the invariant. -/
namespace AuditTrail

variable {σ : Type}

namespace JobSystem

variable {handler : Handler σ} {settings : Settings} {p p' : JobSystem σ} {s s' : Site} {o : JobAction}
  {live : Path} {w : SharedLog σ} {d : LogAction} {u v : Nat} {now : Moment} {fault : Option Files.Fault}
  {stage : Rotation.Stage}

/-- The backup exists, and the content with which it was synced is known. -/
def Stored (s : Site) (backup : Path) : Prop :=
  ∃ n content, s.files.Names backup n ∧ s.past.synced n = some content

/-- What a rotation has on disk at each stage, if no sweep has removed its backup. -/
def Holding (live : Path) (s : Site) : Rotation.Stage → Prop
  | .opening | .done (.error _) => True
  | .naming source _ _ => s.files.number live = .ok source
  | .copying source backup target | .syncing source backup target _ =>
    s.files.number live = .ok source ∧ s.files.Names backup target
  | .truncating source backup _ => s.files.number live = .ok source ∧
    ∃ n, s.files.Names backup n ∧ s.past.synced n = some (s.files.text live)
  | .discarding backup _ => (∃ source, s.files.number live = .ok source) ∧
    ∃ n, s.files.Names backup n
  | .done (.ok rotated) => Stored s rotated.backup

def Keeps (live : Path) (s : Site) : LogUser σ → Prop
  | .ticking (.rotating stage) => Holding live s stage
  | .ticking (.opening backup) => Stored s backup
  | _ => True

theorem Holding.present (holding : Holding live s stage) {backup : Path}
    (has : stage.held? = some backup) : ∃ n, s.files.Names backup n := by
  cases stage with
  | opening | naming => cases has
  | copying | syncing =>
    obtain rfl := Option.some.inj has
    exact ⟨_, holding.2⟩
  | truncating =>
    obtain rfl := Option.some.inj has
    obtain ⟨-, n, names, -⟩ := holding
    exact ⟨n, names⟩
  | discarding =>
    obtain rfl := Option.some.inj has
    exact holding.2
  | done outcome =>
    cases outcome with
    | error failure => cases has
    | ok rotated =>
      obtain rfl := Option.some.inj has
      obtain ⟨n, content, names, -⟩ := holding
      exact ⟨n, names⟩

theorem Keeps.present {user : LogUser σ} (keeps : Keeps live s user) {backup : Path}
    (has : user.backup? = some backup) : ∃ n, s.files.Names backup n := by
  unfold LogUser.backup? at has
  split at has
  · exact Holding.present keeps has
  · obtain rfl := Option.some.inj has
    obtain ⟨n, content, names, -⟩ := keeps
    exact ⟨n, names⟩
  · cases has

theorem Keeps.frame {user : LogUser σ} (keeps : Keeps live s user)
    (agree : (∃ stage, user = .ticking (.rotating stage)) → s.files.Agree s'.files live)
    (names : ∀ backup n, user.backup? = some backup → s.files.Names backup n →
      s'.files.Names backup n)
    (synced : ∀ n content, s.past.synced n = some content → s'.past.synced n = some content) :
    Keeps live s' user := by
  have stored : ∀ backup, user.backup? = some backup → Stored s backup → Stored s' backup := by
    rintro backup has ⟨n, content, there, kept⟩
    exact ⟨n, content, names backup n has there, synced n content kept⟩
  unfold Keeps at keeps ⊢
  split at keeps
  · next stage =>
    have same := agree ⟨stage, rfl⟩
    cases stage with
    | opening => trivial
    | naming => exact (same.number _).2 keeps
    | copying | syncing => exact ⟨(same.number _).2 keeps.1, names _ _ rfl keeps.2⟩
    | truncating =>
      obtain ⟨leads, n, there, kept⟩ := keeps
      refine ⟨(same.number _).2 leads, n, names _ _ rfl there, ?_⟩
      rw [same.text]
      exact synced _ _ kept
    | discarding =>
      obtain ⟨⟨source, leads⟩, n, there⟩ := keeps
      exact ⟨⟨source, (same.number _).2 leads⟩, n, names _ _ rfl there⟩
    | done outcome =>
      cases outcome with
      | error failure => trivial
      | ok rotated => exact stored _ rfl keeps
  · exact stored _ rfl keeps
  · trivial

theorem Keeps.stored {user : LogUser σ} (keeps : Keeps live s user) {backup : Path}
    (due : user.due = some backup) : Stored s backup := by
  unfold LogUser.due at due
  split at due
  · obtain rfl := Option.some.inj due
    exact keeps
  · obtain rfl := Option.some.inj due
    exact keeps
  · cases due

theorem text_stored {y : Layout} (lasting : Lasting y s) {backup : Path} {n : Nat} {content : Bytes}
    (names : s.files.Names backup n) (kept : s.past.synced n = some content) :
    s.files.source backup = .ok [.bytes content] ∧ s.files.text backup = content := by
  have regular := (lasting.synced n content kept).2
  exact ⟨Files.source_of_number names.number regular, Files.text_of_number names.number regular⟩

/-- The invariant of runs in which no sweep is late. -/
structure Kept (settings : Settings) (initial : Bytes) (p : JobSystem σ) (s : Site) : Prop where
  watched : p.Watched settings s
  plain : p.files.Plain settings.path
  apart : ∀ u v backup, (p.log.users u).backup? = some backup →
    (p.log.users v).backup? = some backup → u = v
  keeps : ∀ v, Keeps settings.path s (p.log.users v)
  split : p.taken.flatten ++ p.files.text settings.path = initial ++ p.log.written
  balance : Balance p.parsed p.taken fun v => ((p.log.users v).due.map p.files.text).toList

variable {initial : Bytes} {user : LogUser σ}

theorem Keeps.text_due {y : Layout} {user : LogUser σ} (keeps : Keeps live s user)
    (lasting : Lasting y s) (lasting' : Lasting y s')
    (names : ∀ backup n, user.backup? = some backup → s.files.Names backup n →
      s'.files.Names backup n)
    (synced : ∀ n content, s.past.synced n = some content → s'.past.synced n = some content) :
    user.due.map s'.files.text = user.due.map s.files.text := by
  cases due : user.due with
  | none => rfl
  | some backup =>
    obtain ⟨n, content, there, kept⟩ := keeps.stored due
    have has : user.backup? = some backup := by
      unfold LogUser.due at due
      split at due
      · exact due
      · exact due
      · cases due
    rw [Option.map_some, Option.map_some, (text_stored lasting there kept).2,
      (text_stored lasting' (names backup n has there) (synced n content kept)).2]

/-- The step of one user, which may take over a backup or open one. -/
theorem Kept.change (kept : p.Kept settings initial s) (paid new : List Bytes)
    (watched : p'.Watched settings s') (plain : p'.files.Plain settings.path)
    (users : p'.log.users = Function.update p.log.users v user)
    (own : Keeps settings.path s' user)
    (others : ∀ u, u ≠ v → (∃ stage, p.log.users u = .ticking (.rotating stage)) →
      p.files.Agree p'.files settings.path)
    (names : ∀ u, u ≠ v → ∀ backup n, (p.log.users u).backup? = some backup →
      p.files.Names backup n → p'.files.Names backup n)
    (synced : ∀ n content, s.past.synced n = some content → s'.past.synced n = some content)
    (apart : ∀ u, u ≠ v → ∀ backup, user.backup? = some backup →
      (p.log.users u).backup? ≠ some backup)
    (split : p'.taken.flatten ++ p'.files.text settings.path = initial ++ p'.log.written)
    (parsed : p'.parsed = p.parsed ++ paid) (taken : p'.taken = p.taken ++ new)
    (moved : ((p.log.users v).due.map p.files.text).toList ++ new =
      paid ++ (user.due.map p'.files.text).toList) : p'.Kept settings initial s' := by
  have files := kept.watched.viewed.files
  have files' := watched.viewed.files
  have same : ∀ u, u ≠ v → p'.log.users u = p.log.users u := by
    intro u other
    rw [users, Function.update_of_ne other]
  obtain rfl : p'.log.users v = user := by rw [users, Function.update_self]
  refine ⟨watched, plain, ?_, ?_, split, ?_⟩
  · intro u w backup first second
    by_cases here : u = v
    · by_cases there : w = v
      · rw [here, there]
      · rw [here] at first
        rw [same w there] at second
        exact absurd second (apart w there backup first)
    · rw [same u here] at first
      by_cases there : w = v
      · rw [there] at second
        exact absurd first (apart u here backup second)
      · rw [same w there] at second
        exact kept.apart u w backup first second
  · intro u
    by_cases here : u = v
    · rw [here]
      exact own
    · rw [same u here]
      refine (kept.keeps u).frame ?_ ?_ synced
      · rw [files, files']
        exact others u here
      · rw [files, files']
        exact names u here
  · rw [parsed, taken]
    refine kept.balance.pay (fun u other => ?_) moved
    simp only [same u other]
    rw [← files, ← files']
    rw [(kept.keeps u).text_due kept.watched.lasting watched.lasting ?_ synced]
    rw [files, files']
    exact names u other

section Move

variable {files : Files} {last : Nat} {t : Turn} {next : Rotation.Stage}

theorem Watched.live_move (watched : p.Watched settings s)
    (here : p.log.users v = .ticking (.rotating stage))
    (move : Rotation.Move (s.rotator (.lone settings.path) v) now fault p.files stage files last next)
    (evolves : p.files.Evolves files) {n : Nat} (leads : p.files.number settings.path = .ok n) :
    files.number settings.path = .ok n := by
  obtain ⟨place, found⟩ := Files.number_eq_ok.1 leads
  have there := (Files.node?_of_find found).symm
  have stays : files.node? place = some (.file n) := by
    apply move.node? there
    rintro backup cause node rfl other
    obtain ⟨suffix, rfl, -, low⟩ := (watched.dated v).given backup (by rw [here]; rfl)
    have sound := watched.viewed.orderly.sound
    have apart := watched.lasting.apart
    rw [watched.viewed.files] at sound apart
    have slot := Backup.slot_of_find sound leads other low
    cases apart _ _ _ slot found
  exact Files.number_eq_ok.2 ⟨place, evolves.ways.find_stays found (stays.trans there.symm)⟩

theorem Kept.names_move (kept : p.Kept settings initial s)
    (here : p.log.users v = .ticking (.rotating stage))
    (move : Rotation.Move (s.rotator (.lone settings.path) v) now fault p.files stage files last next)
    (evolves : p.files.Evolves files) (other : u ≠ v) {backup : Path} {n : Nat}
    (has : (p.log.users u).backup? = some backup) (names : p.files.Names backup n) :
    files.Names backup n := by
  obtain ⟨place, found⟩ := names
  have there := (Files.node?_of_find found).symm
  have stays : files.node? place = some (.file n) := by
    apply move.node? there
    rintro own cause node rfl leads
    have held : (p.log.users v).backup? = some own := by
      rw [here]
      rfl
    obtain ⟨suffix, rfl, -⟩ := (kept.watched.dated u).given backup has
    obtain ⟨suffix', rfl, -⟩ := (kept.watched.dated v).given own held
    have named := Backup.head?_of_find found
    have named' := Backup.head?_of_find leads
    obtain rfl := Backup.name_injective (Option.some.inj (named.symm.trans named'))
    exact other (kept.apart u v _ has held)
  exact ⟨place, evolves.ways.find_stays found (stays.trans there.symm)⟩

theorem holding_search {source suffix bound : Nat} (leads : s.files.number live = .ok source) :
    Holding live s (.search live source suffix bound) := by
  unfold Rotation.Stage.search
  split
  · exact leads
  · trivial

/-- The rotation has just truncated the live log. -/
structure Emptied (live : Path) (f : Files) (s' : Site) (stage next : Rotation.Stage) : Prop where
  was : ∃ source backup bytes, stage = .truncating source backup bytes
  done : ∃ rotated, next = .done (.ok rotated) ∧
    ∃ n, s'.files.Names rotated.backup n ∧ s'.past.synced n = some (f.text live)
  empty : s'.files.text live = []
  plain : s'.files.Plain live

/-- The files that a rotation relies on after a step. The live log is unchanged unless the step truncates
it. -/
theorem Kept.holding_move (kept : p.Kept settings initial s)
    (here : p.log.users v = .ticking (.rotating t.stage)) (turning : s.visits v = .rotating t)
    (move : Rotation.Move (s.rotator (.lone settings.path) v) now fault p.files t.stage files last next)
    (evolves : p.files.Evolves files)
    (advanced : s' = s.advance (.lone settings.path) v t now files last next) :
    Holding settings.path s' next ∧
      (p.files.Agree files settings.path ∧ (∀ rotated, next ≠ .done (.ok rotated)) ∨
        Emptied settings.path p.files s' t.stage next) := by
  have orderly := kept.watched.viewed.orderly
  have lasting := kept.watched.lasting
  have began := kept.watched.viewed.files
  have live_move : ∀ n, p.files.number settings.path = .ok n → files.number settings.path = .ok n :=
    fun n leads => kept.watched.live_move here move evolves leads
  have holding := kept.keeps v
  rw [here] at holding
  have holds := (lasting.turns v t turning).holds
  have ended : s'.files = files := by rw [advanced]; rfl
  have synced : s'.past.synced = (s.past.after 0 s.files t next).synced := by rw [advanced]; rfl
  have beside : ∀ {backup source target}, Made (.lone settings.path) s backup target →
      p.files.number settings.path = .ok source → source ≠ target := by
    rintro backup source target ⟨g, listed, rfl, -⟩ leads rfl
    rw [← began] at leads
    exact lasting.unlive orderly g listed leads
  unfold Keeps Holding at holding
  unfold Holds at holds
  rw [began] at holding
  generalize was : t.stage = stage at move holding holds
  cases move with
  | opened leads =>
    exact ⟨holding_search (ended ▸ leads),
      .inl ⟨.refl _ _, fun _ => Rotation.Stage.search_ne_done⟩⟩
  | taken =>
    exact ⟨holding_search (ended ▸ holding),
      .inl ⟨.refl _ _, fun _ => Rotation.Stage.search_ne_done⟩⟩
  | unopened | uncreated => exact ⟨trivial, .inl ⟨.refl _ _, (by simp)⟩⟩
  | created found =>
    have apart := Files.number_old (began ▸ orderly.sound) holding
    have after := live_move _ holding
    refine ⟨⟨ended ▸ after, ended ▸ Files.names_addFile found⟩,
      .inl ⟨.of_number holding after ?_, (by simp)⟩⟩
    rw [Files.inode?_addFile, if_neg (Nat.ne_of_lt apart)]
  | copied =>
    have after := live_move _ holding.1
    exact ⟨⟨ended ▸ after, ended ▸ holding.2.revise _⟩, .inl ⟨.of_number holding.1 after
      (Files.inode?_revise_other (beside holds.1 holding.1)), (by simp)⟩⟩
  | broken =>
    have after := live_move _ holding.1
    exact ⟨⟨⟨_, ended ▸ after⟩, _, ended ▸ holding.2.revise _⟩, .inl ⟨.of_number holding.1 after
      (Files.inode?_revise_other (beside holds.1 holding.1)), (by simp)⟩⟩
  | unread | unsynced =>
    exact ⟨⟨⟨_, ended ▸ holding.1⟩, _, ended ▸ holding.2⟩, .inl ⟨.refl _ _, (by simp)⟩⟩
  | @synced source target bytes backup =>
    obtain ⟨-, -, content, whole, regular⟩ := holds
    refine ⟨⟨ended ▸ holding.1, target, ended ▸ holding.2, ?_⟩, .inl ⟨.refl _ _, (by simp)⟩⟩
    have text : p.files.text settings.path = content := by
      rw [began] at whole
      simp [Files.text, Files.read, holding.1, whole, Except.toOption]
    rw [synced, ended, text]
    simp [History.after, was, Files.contentOf_regular regular, Except.toOption]
  | removed found =>
    obtain ⟨⟨source, leads⟩, -⟩ := holding
    exact ⟨trivial, .inl ⟨.of_number leads (live_move _ leads) (Files.inode?_erase _), (by simp)⟩⟩
  | kept | unemptied => exact ⟨trivial, .inl ⟨.refl _ _, (by simp)⟩⟩
  | @emptied source bytes backup content regular =>
    obtain ⟨leads, n, names, known⟩ := holding
    have after := live_move _ leads
    have empty : (p.files.revise source fun _ => []).inode? source = some (.regular []) :=
      Files.inode?_revise_same regular
    have known' : s'.past.synced n = some (p.files.text settings.path) := by
      rw [synced]
      simpa [History.after, was] using known
    have names' : s'.files.Names backup n := ended ▸ names.revise _
    refine ⟨⟨n, _, names', known'⟩, .inr ⟨⟨_, _, _, rfl⟩, ⟨_, rfl, n, names', known'⟩, ?_, ?_⟩⟩
    · rw [ended]
      exact Files.text_of_number after empty
    · rw [ended]
      exact Files.plain_of_number after empty

end Move

theorem parsed_record (here : p.log.users v = .ticking (.rotating stage)) :
    (p.record live (.carry v now fault) w).parsed = p.parsed := by
  simp only [record, LogAction.user, here]
  cases stage <;> rfl

theorem taken_record {next : Rotation.Stage} (here : p.log.users v = .ticking (.rotating stage))
    (there : w.users v = .ticking (.rotating next)) (other : ∀ rotated, next ≠ .done (.ok rotated)) :
    (p.record live (.carry v now fault) w).taken = p.taken := by
  simp only [record, LogAction.user, here]
  cases stage with
  | truncating =>
    simp only [there, detached]
    split
    · next rotated same =>
      cases same
      exact absurd rfl (other rotated)
    · exact List.append_nil _
  | _ => rfl

theorem taken_record_emptied {next : Rotation.Stage} {f : Files} {s' : Site}
    (here : p.log.users v = .ticking (.rotating stage))
    (there : w.users v = .ticking (.rotating next)) (emptied : Emptied live f s' stage next) :
    (p.record live (.carry v now fault) w).taken = p.taken ++ [p.files.text live] := by
  obtain ⟨source, backup, bytes, rfl⟩ := emptied.was
  obtain ⟨rotated, rfl, -⟩ := emptied.done
  simp only [record, LogAction.user, here, there, detached]

theorem due_of_move {r : Rotator} {f files : Files} {next : Rotation.Stage} {last : Nat}
    (move : Rotation.Move r now fault f stage files last next) :
    (.ticking (.rotating stage) : LogUser σ).due = none := by
  cases move <;> rfl

theorem Viewed.unturned (viewed : p.Viewed settings s) (inside : (s.visits v).inside) (other : u ≠ v) :
    ¬ ∃ stage, p.log.users u = .ticking (.rotating stage) := by
  rintro ⟨stage, here⟩
  obtain ⟨t, turning, -⟩ := viewed.log.stage here
  exact viewed.orderly.exclusive.unturned (w := u) inside rfl other t turning

theorem Kept.request (kept : p.Kept settings initial s) {t : Turn} {next : Rotation.Stage} {last : Nat}
    (here : p.log.users v = .ticking (.rotating t.stage)) (turning : s.visits v = .rotating t)
    (move : Rotation.Move (s.rotator (.lone settings.path) v) now fault p.files t.stage
      w.scene.files last next)
    (advanced : s' = s.advance (.lone settings.path) v t now w.scene.files last next)
    (written : w.written = p.log.written)
    (users : w.users = Function.update p.log.users v (.ticking (.rotating next)))
    (watched : (p.record settings.path (.carry v now fault) w).Watched settings s')
    (evolves : p.files.Evolves w.scene.files)
    (synced : ∀ n content, s.past.synced n = some content → s'.past.synced n = some content) :
    (p.record settings.path (.carry v now fault) w).Kept settings initial s' := by
  have inside : (s.visits v).inside := by
    rw [turning]
    trivial
  have there : w.users v = .ticking (.rotating next) := by rw [users, Function.update_self]
  have files : (p.record settings.path (.carry v now fault) w).files = w.scene.files := files_record
  have began : s'.files = w.scene.files := by rw [advanced]; rfl
  obtain ⟨holding, outcome⟩ := kept.holding_move here turning move evolves advanced
  have undue : (p.log.users v).due = none := by
    rw [here]
    exact due_of_move move
  have others : ∀ u, u ≠ v → (∃ stage, p.log.users u = .ticking (.rotating stage)) →
      p.files.Agree (p.record settings.path (.carry v now fault) w).files settings.path :=
    fun u other rotating => absurd rotating (kept.watched.viewed.unturned inside other)
  have names : ∀ u, u ≠ v → ∀ backup n, (p.log.users u).backup? = some backup →
      p.files.Names backup n →
      (p.record settings.path (.carry v now fault) w).files.Names backup n := by
    intro u other backup n has there
    rw [files]
    exact kept.names_move here move evolves other has there
  have apart : ∀ u, u ≠ v → ∀ backup, (.ticking (.rotating next) : LogUser σ).backup? = some backup →
      (p.log.users u).backup? ≠ some backup := by
    intro u other backup has same
    have fresh : t.stage.held? = some backup ∨
        ∃ place, p.files.find false backup = .ok ⟨place, none⟩ := move.held? has
    rcases fresh with old | ⟨place, free⟩
    · refine other (kept.apart u v backup same ?_)
      rw [here]
      exact old
    · obtain ⟨n, place', found⟩ := (kept.keeps u).present same
      rw [kept.watched.viewed.files, free] at found
      cases found
  have same : (p.record settings.path (.carry v now fault) w).log.users =
      Function.update p.log.users v (.ticking (.rotating next)) := by rw [log_record, users]
  rcases outcome with ⟨agree, other⟩ | emptied
  · refine kept.change [] [] watched (files ▸ agree.plain kept.plain) same holding others names synced
      apart ?_ ?_ ?_ ?_
    · rw [taken_record here there other, files, agree.text, log_record, written]
      exact kept.split
    · rw [parsed_record here, List.append_nil]
    · rw [taken_record here there other, List.append_nil]
    · rw [undue, (SharedLog.owed_unready other 0 w.scene.files.text).2]
      rfl
  · have empty := emptied.empty
    have plain := emptied.plain
    rw [began] at empty plain
    refine kept.change [] [p.files.text settings.path] watched (files ▸ plain) same holding others
      names synced apart ?_ ?_ ?_ ?_
    · rw [taken_record_emptied here there emptied, files, empty, log_record, written,
        List.flatten_append, List.flatten_singleton, List.append_nil]
      exact kept.split
    · rw [parsed_record here, List.append_nil]
    · exact taken_record_emptied here there emptied
    · obtain ⟨rotated, rfl, n, names, known⟩ := emptied.done
      have text := (text_stored watched.lasting names known).2
      rw [began] at text
      rw [undue, files]
      simp only [LogUser.due, Option.map_some, Option.map_none, Option.toList_none, Option.toList_some,
        text]

theorem holds_of_begun {user : LogUser σ}
    (begins : ∀ stage, user = .ticking (.rotating stage) → stage = .opening)
    (due : ∀ backup, user.due = some backup → Stored s backup) : Keeps live s user := by
  unfold Keeps
  split
  · next stage =>
    obtain rfl := begins stage rfl
    trivial
  · exact due _ rfl
  · trivial

section Log

variable (kept : p.Kept settings initial s)

include kept

theorem Kept.quiet (watched : (p.record settings.path d w).Watched settings s')
    (synced : ∀ n content, s.past.synced n = some content → s'.past.synced n = some content)
    (same : w.scene.files = p.log.scene.files) (written : w.written = p.log.written)
    (users : w.users = Function.update p.log.users d.user user)
    (backup : user.backup? = (p.log.users d.user).backup?) (due : user.due = (p.log.users d.user).due)
    (begins : ∀ stage, user = .ticking (.rotating stage) → stage = .opening)
    (recorded : p.record settings.path d w = { p with log := w }) :
    (p.record settings.path d w).Kept settings initial s' := by
  have began := kept.watched.viewed.files
  have files : (p.record settings.path d w).files = w.scene.files := files_record
  have agree : p.files.Agree (p.record settings.path d w).files settings.path := by
    rw [files, same]
    exact .refl _ _
  have ended : s'.files = s.files := by rw [watched.viewed.files, files, same, began]; rfl
  refine kept.change [] [] watched (agree.plain kept.plain) (by rw [log_record, users]) ?_
    (fun _ _ _ => agree) ?_ synced ?_ ?_ ?_ ?_ ?_
  · apply holds_of_begun begins
    intro b has
    rw [due] at has
    obtain ⟨n, content, names, known⟩ := (kept.keeps _).stored has
    exact ⟨n, content, ended ▸ names, synced n content known⟩
  · intro u _ b n _ names
    rw [files, same]
    exact names
  · intro u other b has second
    rw [backup] at has
    exact other (kept.apart u _ b second has)
  · rw [agree.text, log_record, written, recorded]
    exact kept.split
  · rw [recorded, List.append_nil]
  · rw [recorded, List.append_nil]
  · rw [due, files, same, List.append_nil]
    rfl

theorem Kept.append {bytes fresh : Bytes}
    (watched : (p.record settings.path (.append v bytes) w).Watched settings s')
    (synced : ∀ n content, s.past.synced n = some content → s'.past.synced n = some content)
    (here : p.log.users v = .writing fresh)
    (appended : p.log.scene.files.append settings.path bytes = .ok w.scene.files)
    (written : w.written = p.log.written ++ bytes)
    (users : w.users = Function.update p.log.users v (.writing (fresh ++ bytes))) :
    (p.record settings.path (.append v bytes) w).Kept settings initial s' := by
  have files : (p.record settings.path (.append v bytes) w).files = w.scene.files := files_record
  obtain ⟨text, plain⟩ := Files.text_append kept.plain appended
  have recorded : p.record settings.path (.append v bytes) w = { p with log := w } := record_other nofun
  have inside : (s.visits v).inside := by
    have stands := kept.watched.viewed.log.users v
    rw [here] at stands
    rw [stands]
    trivial
  have turned : (p.record settings.path (.append v bytes) w).log.users =
      Function.update p.log.users v (.writing (fresh ++ bytes)) := by rw [log_record, users]
  refine kept.change [] [] watched (files ▸ plain) turned trivial ?_ ?_ synced nofun ?_ ?_ ?_ ?_
  · exact fun u other rotating => absurd rotating (kept.watched.viewed.unturned inside other)
  · intro u _ b n _ names
    rw [files]
    rcases Files.append_cases appended with ⟨place, found, made⟩ | ⟨m, -, revised⟩
    · rw [made]
      exact names.addFile (Files.node?_of_find found).symm
    · rw [revised]
      exact names.revise _
  · rw [files, text, log_record, written, ← List.append_assoc, ← List.append_assoc, ← kept.split,
      recorded]
  · rw [recorded, List.append_nil]
  · rw [recorded, List.append_nil]
  · rw [here]
    rfl

theorem Kept.opened {backup : Path} {tick : Processing (σ × List Record)}
    (watched : (p.record settings.path (.carry v now none) w).Watched settings s')
    (synced : ∀ n content, s.past.synced n = some content → s'.past.synced n = some content)
    (here : p.log.users v = .ticking (.opening backup)) (same : w.scene.files = p.log.scene.files)
    (written : w.written = p.log.written)
    (users : w.users = Function.update p.log.users v (.ticking tick))
    (idle : (.ticking tick : LogUser σ).backup? = none ∧ (.ticking tick : LogUser σ).due = none)
    (apart : ∀ stage, tick ≠ .rotating stage) :
    (p.record settings.path (.carry v now none) w).Kept settings initial s' := by
  have files : (p.record settings.path (.carry v now none) w).files = w.scene.files := files_record
  have due : (p.log.users v).due = some backup := by rw [here]; rfl
  obtain ⟨n, content, names, known⟩ := (kept.keeps v).stored due
  obtain ⟨source, text⟩ := text_stored kept.watched.lasting names known
  rw [kept.watched.viewed.files] at source text
  have agree : p.files.Agree (p.record settings.path (.carry v now none) w).files settings.path := by
    rw [files, same]
    exact .refl _ _
  have recorded : p.record settings.path (.carry v now none) w =
      { p with log := w, parsed := p.parsed ++ [content] } := by
    simp only [record, LogAction.user, here, given, source]
  refine kept.change [content] [] watched (agree.plain kept.plain) (by rw [log_record, users]) ?_
    (fun _ _ _ => agree) ?_ synced ?_ ?_ ?_ ?_ ?_
  · refine holds_of_begun ?_ ?_
    · intro stage other
      cases other
      exact absurd rfl (apart stage)
    · intro b has
      rw [idle.2] at has
      cases has
  · intro u _ b n _ names
    rw [files, same]
    exact names
  · intro u _ b has
    rw [idle.1] at has
    cases has
  · rw [agree.text, log_record, written, recorded]
    exact kept.split
  · rw [recorded]
  · rw [recorded, List.append_nil]
  · rw [idle.2, here]
    simp only [LogUser.due, Option.map_some, text]
    rfl

theorem Kept.follow_log (passes : p.log.Passes settings.path s d w s')
    (watched : (p.record settings.path d w).Watched settings s')
    (evolves : p.files.Evolves (p.record settings.path d w).files)
    (synced : ∀ n content, s.past.synced n = some content → s'.past.synced n = some content) :
    (p.record settings.path d w).Kept settings initial s' := by
  cases passes with
  | quiet user same written users backup due begins past still =>
    exact kept.quiet watched synced same written users backup due begins (still p rfl)
  | append own here appended written users =>
    subst own
    exact kept.append watched synced here appended written users
  | request own here turning move advanced written users =>
    subst own
    rw [files_record] at evolves
    exact kept.request here turning move advanced written users watched evolves synced
  | opened own here same written users idle apart =>
    subst own
    exact kept.opened watched synced here same written users idle apart

end Log

/-- No sweep is late: the clock it has read exceeds the second of every tick with an unopened backup by no
more than the retention. -/
def Prompt (settings : Settings) (p : JobSystem σ) : JobAction → Prop
  | .expel k _ => ∀ now sweep, p.sweepRuns k = .removing now sweep →
    ∀ v, (p.log.users v).backup? ≠ none →
      now.nanos - p.seconds v * 1000000000 ≤ settings.retention.nanos
  | _ => True

theorem Kept.expelled (kept : p.Kept settings initial s) {k : Nat} {sweep : Sweep}
    (here : p.sweepRuns k = .removing now sweep) (prompt : p.Prompt settings (.expel k fault))
    (watched : (p.expel k now sweep fault).Watched settings s') (past : s'.past = s.past)
    (evolves : p.files.Evolves (p.expel k now sweep fault).files) :
    (p.expel k now sweep fault).Kept settings initial s' := by
  have began := kept.watched.viewed.files
  have ended := watched.viewed.files
  have orderly := kept.watched.viewed.orderly
  have sweeps := kept.watched.viewed.sweeps k now sweep here
  have names : ∀ v backup n, (p.log.users v).backup? = some backup →
      p.files.Names backup n → (p.expel k now sweep fault).files.Names backup n := by
    rintro v backup n has ⟨place, found⟩
    refine ⟨place, evolves.ways.find_stays found ?_⟩
    by_contra gone
    have late := kept.watched.late here has found gone
    have early := prompt now sweep here v (by rw [has]; nofun)
    omega
  have agree : p.files.Agree (p.expel k now sweep fault).files settings.path := by
    have left := kept.watched.lasting.agree_expel orderly k fault
    rwa [sweeps, began] at left
  have synced : ∀ n content, s.past.synced n = some content → s'.past.synced n = some content := by
    rw [past]
    exact fun _ _ known => known
  refine ⟨watched, agree.plain kept.plain, kept.apart, fun v => ?_, ?_, ?_⟩
  · refine (kept.keeps v).frame ?_ ?_ synced
    · rw [began, ended]
      exact fun _ => agree
    · rw [began, ended]
      exact names v
  · rw [agree.text]
    exact kept.split
  · have texts : ∀ v, (p.log.users v).due.map (p.expel k now sweep fault).files.text =
        (p.log.users v).due.map p.files.text := by
      intro v
      rw [← began, ← ended]
      refine (kept.keeps v).text_due kept.watched.lasting watched.lasting ?_ synced
      rw [began, ended]
      exact names v
    have owed : (fun v => (((p.expel k now sweep fault).log.users v).due.map
        (p.expel k now sweep fault).files.text).toList) =
        fun v => ((p.log.users v).due.map p.files.text).toList :=
      funext fun v => congrArg Option.toList (texts v)
    rw [owed]
    exact kept.balance

theorem Kept.act (kept : p.Kept settings initial s) (acted : p.act handler settings o = some p')
    (honest : o.Honest) (prompt : p.Prompt settings o) : ∃ s', p'.Kept settings initial s' := by
  obtain ⟨s', watched, follows, onward⟩ := kept.watched.act acted honest
  have evolves := kept.watched.viewed.evolves watched.viewed onward
  have synced : ∀ n content, s.past.synced n = some content → s'.past.synced n = some content := by
    rcases onward with rfl | ⟨a, step, -⟩
    · exact fun _ _ known => known
    · exact fun _ _ known => kept.watched.lasting.synced_step step known
  have still : ∀ v, s'.files = s.files → Keeps settings.path s' (p.log.users v) := by
    intro v same
    refine (kept.keeps v).frame ?_ ?_ synced
    · rw [same]
      exact fun _ => .refl _ _
    · rw [same]
      exact fun _ _ _ names => names
  refine ⟨s', ?_⟩
  cases follows with
  | log passes => exact kept.follow_log passes watched evolves synced
  | living | turned | listed =>
    exact ⟨watched, kept.plain, kept.apart, fun v => still v rfl, kept.split, kept.balance⟩
  | expelled here => exact kept.expelled here prompt watched rfl evolves

theorem Kept.origin {files : Files} (sound : files.Sound) (plain : files.Plain settings.path)
    (apart : Backup.Apart files settings.path) (state : σ) :
    (fresh files state settings.path).Kept settings (files.text settings.path) { files } where
  watched := .origin sound apart state
  plain := plain
  apart _ _ _ first := nomatch first
  keeps _ := trivial
  split := (List.append_nil _).symm
  balance := ⟨[], List.nodup_nil, fun _ _ => rfl, .refl _⟩

variable {start : JobSystem σ}

theorem Run.kept (run : Run handler settings (fun p o => o.Honest ∧ p.Prompt settings o) start p)
    (kept : ∃ s, start.Kept settings initial s) : ∃ s, p.Kept settings initial s := by
  induction run with
  | here => exact kept
  | next _ fair acted ih =>
    obtain ⟨s, before⟩ := ih
    exact before.act acted fair.1 fair.2

end JobSystem

end AuditTrail
