import AuditTrail.Proofs.Site.Basic

/-! Rotation loses and duplicates no byte, as long as all who use the live log share one lock: the
backups whose rotation has truncated the log, followed by the log, hold the initial content
followed by what was appended. `Faithful` describes a rotation at each of its stages, and `Ledger`
is the invariant. -/
namespace AuditTrail

def Action.ofVisitor : Action → Prop
  | .sweep .. | .expel .. | .appear .. | .vanish .. => False
  | _ => True

/-- The backup of a rotation that has opened `source` is a file of its own, other than the live log and the
earlier backups. -/
structure Detached (live : Path) (f : Files) (emptied : List Path) (source : Nat) (backup : Path)
    (target : Nat) : Prop where
  opened : f.number live = .ok source
  named : f.Names backup target
  apart : source ≠ target
  others : ∀ b ∈ emptied, ∃ n, f.Names b n ∧ n ≠ target

/-- What a rotation has achieved at each of its stages. -/
def Faithful (live : Path) (f : Files) (past : History) : Rotation.Stage → Prop
  | .opening | .done _ => True
  | .naming source _ _ => f.number live = .ok source
  | .copying source backup target => Detached live f past.emptied source backup target ∧
    ∃ held, f.inode? target = some (.regular held) ∧ held <+: f.text live
  | .syncing source backup target _ => Detached live f past.emptied source backup target ∧
    f.inode? target = some (.regular (f.text live))
  | .truncating source backup _ => ∃ target, Detached live f past.emptied source backup target ∧
    f.inode? target = some (.regular (f.text live)) ∧ past.synced target = some (f.text live)
  | .discarding backup _ => ∃ source target, Detached live f past.emptied source backup target

structure Ledger (y : Layout) (initial : Bytes) (s : Site) : Prop where
  sound : s.files.Sound
  exclusive : s.Exclusive y
  plain : s.files.Plain y.live
  backups : ∀ b ∈ s.past.emptied, ∃ n, s.files.Names b n ∧ s.files.number y.live ≠ .ok n
  regular : ∀ b ∈ s.past.emptied, s.files.Plain b
  turns : ∀ v t, s.visits v = .rotating t → Faithful y.live s.files s.past t.stage
  balance : s.past.emptied.flatMap s.files.text ++ s.files.text y.live = initial ++ s.past.written

variable {y : Layout} {initial : Bytes} {s s' : Site} {a : Action} {v w : Nat} {t : Turn}
  {f g : Files} {live backup : Path} {emptied : List Path} {source target : Nat}

theorem Detached.revise (detached : Detached live f emptied source backup target)
    (change : Bytes → Bytes) : Detached live (f.revise target change) emptied source backup target where
  opened := Files.number_revise change detached.opened
  named := detached.named.revise change
  apart := detached.apart
  others b member := by
    obtain ⟨n, names, other⟩ := detached.others b member
    exact ⟨n, names.revise change, other⟩

theorem Ledger.apart_live (ledger : Ledger y initial s)
    (opened : s.files.number y.live = .ok source) :
    ∀ b ∈ s.past.emptied, ∃ n, s.files.Names b n ∧ n ≠ source := by
  intro b member
  obtain ⟨n, names, unlive⟩ := ledger.backups b member
  refine ⟨n, names, ?_⟩
  rintro rfl
  exact unlive opened

theorem Ledger.apart_new (ledger : Ledger y initial s) :
    ∀ b ∈ s.past.emptied, ∃ n, s.files.Names b n ∧ n ≠ s.files.inodes.length := by
  intro b member
  obtain ⟨n, names, -⟩ := ledger.backups b member
  exact ⟨n, names, Nat.ne_of_lt (names.old ledger.sound)⟩

/-- The earlier backups are unchanged when another file changes. -/
theorem Ledger.spared (ledger : Ledger y initial s) (beside : s.files.Beside g target)
    (others : ∀ b ∈ s.past.emptied, ∃ n, s.files.Names b n ∧ n ≠ target) :
    (∀ b ∈ s.past.emptied, g.text b = s.files.text b) ∧ (∀ b ∈ s.past.emptied, g.Plain b) ∧
      ∀ b ∈ s.past.emptied, ∃ n, g.Names b n ∧ n ≠ target := by
  refine ⟨?_, ?_, ?_⟩
  all_goals
    intro b member
    obtain ⟨n, names, other⟩ := others b member
  · exact beside.text names.number other
  · exact (ledger.regular b member).beside beside names.number other
  · exact ⟨n, beside.names b n other names, other⟩

theorem Ledger.detached (ledger : Ledger y initial s) {place : Place}
    (opened : s.files.number y.live = .ok source)
    (found : s.files.find false backup = .ok ⟨place, none⟩) :
    Detached y.live (s.files.addFile place []) s.past.emptied source backup s.files.inodes.length where
  opened := Files.number_addFile (Files.node?_of_find found).symm opened
  named := Files.names_addFile found
  apart := Nat.ne_of_lt (Files.number_old ledger.sound opened)
  others b member := by
    obtain ⟨n, names, other⟩ := ledger.apart_new b member
    exact ⟨n, names.addFile (Files.node?_of_find found).symm, other⟩

/-- A change of a file other than the live log and the earlier backups. -/
theorem Ledger.beside (ledger : Ledger y initial s) (beside : s.files.Beside s'.files target)
    (sound : s'.files.Sound) (opened : s.files.number y.live = .ok source) (apart : source ≠ target)
    (others : ∀ b ∈ s.past.emptied, ∃ n, s.files.Names b n ∧ n ≠ target)
    (emptied : s'.past.emptied = s.past.emptied) (written : s'.past.written = s.past.written)
    (exclusive : s'.Exclusive y)
    (turns : ∀ v t, s'.visits v = .rotating t → Faithful y.live s'.files s'.past t.stage) :
    Ledger y initial s' := by
  obtain ⟨same, plain, -⟩ := ledger.spared beside others
  refine { sound, exclusive, turns, plain := ledger.plain.beside beside opened apart, backups := ?_,
           regular := ?_, balance := ?_ }
  · intro b member
    rw [emptied] at member
    obtain ⟨n, names, other⟩ := others b member
    obtain ⟨m, names', unlive⟩ := ledger.backups b member
    obtain rfl := names.unique names'
    refine ⟨n, beside.names b n other names, fun leads => unlive ?_⟩
    rw [beside.numbers _ _ apart opened] at leads
    rw [opened, Except.ok.inj leads]
  · rw [emptied]
    exact plain
  · rw [emptied, written, beside.text opened apart, ← ledger.balance, List.flatMap_congr same]

theorem Ledger.contentOf (ledger : Ledger y initial s) (opened : s.files.number y.live = .ok source) :
    s.files.contentOf source = .ok (s.files.text y.live) :=
  Files.contentOf_regular (ledger.plain.inode? opened)

theorem Ledger.unturned (ledger : Ledger y initial s) (shared : ∀ v w, y.lockOf v = y.lockOf w)
    (inside : (s.visits v).inside) (other : w ≠ v) : s.visits w ≠ .rotating t :=
  ledger.exclusive.unturned inside (shared w v) other t

theorem Ledger.still (ledger : Ledger y initial s) (files : s'.files = s.files)
    (emptied : s'.past.emptied = s.past.emptied) (written : s'.past.written = s.past.written)
    (exclusive : s'.Exclusive y)
    (turns : ∀ v t, s'.visits v = .rotating t → Faithful y.live s'.files s'.past t.stage) :
    Ledger y initial s' where
  sound := files ▸ ledger.sound
  exclusive := exclusive
  plain := files ▸ ledger.plain
  backups := by
    rw [emptied, files]
    exact ledger.backups
  regular := by
    rw [emptied, files]
    exact ledger.regular
  turns := turns
  balance := by
    rw [emptied, written, files]
    exact ledger.balance

theorem Ledger.visited (ledger : Ledger y initial s) (files : s'.files = s.files)
    (past : s'.past = s.past) (exclusive : s'.Exclusive y)
    (turns : ∀ w t, s'.visits w = .rotating t → t.stage = .opening ∨
      ∃ t', s.visits w = .rotating t' ∧ t'.stage = t.stage) : Ledger y initial s' := by
  apply ledger.still files (by rw [past]) (by rw [past]) exclusive
  intro w t turning
  rw [files, past]
  rcases turns w t turning with fresh | ⟨t', turning', same⟩
  · rw [fresh]
    trivial
  · rw [← same]
    exact ledger.turns w t' turning'

theorem Ledger.append (ledger : Ledger y initial s) (shared : ∀ v w, y.lockOf v = y.lockOf w)
    (here : s.visits v = .writing) {bytes : Bytes} (appended : s.files.append y.live bytes = .ok g)
    (exclusive : s'.Exclusive y) (files : s'.files = g) (visits : s'.visits = s.visits)
    (past : s'.past = { s.past with written := s.past.written ++ bytes }) :
    Ledger y initial s' ∧ (∀ b ∈ s.past.emptied, s'.files.text b = s.files.text b) ∧
      s'.files.text y.live = s.files.text y.live ++ bytes := by
  have inside : (s.visits v).inside := by
    rw [here]
    trivial
  have turns : ∀ w t, s'.visits w = .rotating t → Faithful y.live s'.files s'.past t.stage := by
    intro w t turning
    rw [visits] at turning
    by_cases same : w = v
    · rw [same, here] at turning
      cases turning
    · exact absurd turning (ledger.unturned shared inside same)
  subst files
  obtain ⟨n, beside, sound, leads, grown, old⟩ : ∃ n, s.files.Beside s'.files n ∧ s'.files.Sound ∧
      s'.files.number y.live = .ok n ∧
      s'.files.inode? n = some (.regular (s.files.text y.live ++ bytes)) ∧
      ∀ b ∈ s.past.emptied, ∃ m, s.files.Names b m ∧ m ≠ n := by
    rcases Files.append_cases appended with ⟨place, found, made⟩ | ⟨n, leads, revised⟩
    · have free := (Files.node?_of_find found).symm
      rw [made]
      refine ⟨_, .addFile free bytes, ledger.sound.addFile free bytes,
        Files.number_addFile_found found, ?_, ledger.apart_new⟩
      rw [Files.inode?_addFile, if_pos rfl, Files.text_of_free found, List.nil_append]
    · rw [revised]
      exact ⟨n, .revise _, ledger.sound.revise _, Files.number_revise _ leads,
        Files.inode?_revise_same (ledger.plain.inode? leads), ledger.apart_live leads⟩
  have text : s'.files.text y.live = s.files.text y.live ++ bytes := Files.text_of_number leads grown
  obtain ⟨same, plain, named⟩ := ledger.spared beside old
  refine ⟨{ sound, exclusive, turns, plain := ?_, backups := ?_, regular := ?_, balance := ?_ },
    same, text⟩
  · intro m leads'
    obtain rfl := Except.ok.inj (leads.symm.trans leads')
    exact ⟨_, grown⟩
  · intro b member
    rw [past] at member
    obtain ⟨m, names, other⟩ := named b member
    refine ⟨m, names, fun leads' => other ?_⟩
    exact Except.ok.inj (leads'.symm.trans leads)
  · rw [past]
    exact plain
  · rw [past, text]
    simp only [List.flatMap_congr same]
    rw [← List.append_assoc, ledger.balance, List.append_assoc]

/-- A step that empties the live log, after all of it was copied to a new backup and synced. -/
structure Emptying (y : Layout) (s s' : Site) (backup : Path) : Prop where
  new : backup ∉ s.past.emptied
  copied : s.files.text backup = s.files.text y.live
  synced : ∃ target, s.files.number backup = .ok target ∧
    s.past.synced target = some (s.files.text y.live)
  recorded : s'.past.emptied = s.past.emptied ++ [backup]
  empty : s'.files.text y.live = []

theorem Ledger.empty (ledger : Ledger y initial s) {bytes : Nat}
    (faithful : Faithful y.live s.files s.past (.truncating source backup bytes))
    (files : s'.files = s.files.revise source fun _ => [])
    (emptied : s'.past.emptied = s.past.emptied ++ [backup])
    (written : s'.past.written = s.past.written) (exclusive : s'.Exclusive y)
    (turns : ∀ v t, s'.visits v = .rotating t → Faithful y.live s'.files s'.past t.stage) :
    Ledger y initial s' ∧ (∀ b ∈ s.past.emptied, s'.files.text b = s.files.text b) ∧
      Emptying y s s' backup := by
  obtain ⟨target, detached, whole, synced⟩ := faithful
  have opened := detached.opened
  have beside : s.files.Beside s'.files source := files ▸ .revise _
  have opened' : s'.files.number y.live = .ok source := files ▸ Files.number_revise _ opened
  have emptyLive : s'.files.inode? source = some (.regular []) :=
    files ▸ Files.inode?_revise_same (ledger.plain.inode? opened)
  have textLive : s'.files.text y.live = [] := Files.text_of_number opened' emptyLive
  have textBackup : s.files.text backup = s.files.text y.live :=
    Files.text_of_number detached.named.number whole
  obtain ⟨same, plain, named⟩ := ledger.spared beside (ledger.apart_live opened)
  refine ⟨{ exclusive, turns, sound := files ▸ ledger.sound.revise _, plain := ?_, backups := ?_,
            regular := ?_, balance := ?_ }, same, ?_⟩
  · intro n leads
    obtain rfl := Except.ok.inj (opened'.symm.trans leads)
    exact ⟨[], emptyLive⟩
  · intro b member
    rw [emptied, List.mem_append, List.mem_singleton] at member
    rcases member with member | rfl
    · obtain ⟨n, names, other⟩ := named b member
      refine ⟨n, names, fun leads => other ?_⟩
      exact Except.ok.inj (leads.symm.trans opened')
    · refine ⟨target, beside.names b target detached.apart.symm detached.named, fun leads => ?_⟩
      exact detached.apart (Except.ok.inj (opened'.symm.trans leads))
  · intro b member
    rw [emptied, List.mem_append, List.mem_singleton] at member
    rcases member with member | rfl
    · exact plain b member
    · intro n leads
      obtain rfl := Except.ok.inj
        ((beside.numbers b target detached.apart.symm detached.named.number).symm.trans leads)
      exact ⟨_, (beside.inodes target detached.apart.symm).trans whole⟩
  · have kept := beside.text detached.named.number detached.apart.symm
    rw [emptied, written, textLive, List.flatMap_append, List.flatMap_congr same]
    rw [← ledger.balance, List.flatMap_singleton, kept, textBackup, List.append_nil]
  · refine ⟨fun member => ?_, textBackup, ⟨target, detached.named.number, synced⟩, emptied, textLive⟩
    obtain ⟨n, names, other⟩ := detached.others backup member
    exact other (names.unique detached.named)

theorem faithful_search (opened : f.number live = .ok source) (past : History) (suffix bound : Nat) :
    Faithful live f past (Rotation.Stage.search live source suffix bound) := by
  unfold Rotation.Stage.search
  split
  · exact opened
  · trivial

/-- A step keeps the earlier backups, and either extends the live log or empties it in order. -/
structure Progress (y : Layout) (s s' : Site) : Prop where
  kept : ∀ b ∈ s.past.emptied, s'.files.text b = s.files.text b
  live : (s'.past.emptied = s.past.emptied ∧ s.files.text y.live <+: s'.files.text y.live) ∨
    ∃ backup, Emptying y s s' backup

theorem Progress.beside (beside : s.files.Beside s'.files target)
    (opened : s.files.number y.live = .ok source) (apart : source ≠ target)
    (others : ∀ b ∈ s.past.emptied, ∃ n, s.files.Names b n ∧ n ≠ target)
    (emptied : s'.past.emptied = s.past.emptied) : Progress y s s' where
  kept b member := by
    obtain ⟨n, names, other⟩ := others b member
    exact beside.text names.number other
  live := by
    have same := beside.text opened apart
    exact .inl ⟨emptied, same ▸ List.prefix_rfl⟩

theorem Progress.still (files : s'.files = s.files) (emptied : s'.past.emptied = s.past.emptied) :
    Progress y s s' where
  kept b _ := by rw [files]
  live := .inl ⟨emptied, files ▸ List.prefix_rfl⟩

theorem History.emptied_after {c : History} {rotator : Nat} {next : Rotation.Stage}
    (unready : ∀ source backup bytes, t.stage ≠ .truncating source backup bytes) :
    (c.after rotator f t next).emptied = c.emptied := by
  unfold after
  split
  · rfl
  · rfl
  · next ready => exact absurd ready (unready _ _ _)
  · rfl

section Moves

variable (ledger : Ledger y initial s) (shared : ∀ v w, y.lockOf v = y.lockOf w)
  (here : s.visits v = .rotating t) {now : Moment} {files : Files} {last : Nat} {next : Rotation.Stage}

include ledger shared here

theorem Ledger.turned (reached : Faithful y.live files (s.past.after (y.rotator v) s.files t next) next) :
    ∀ w t', (s.advance y v t now files last next).visits w = .rotating t' →
      Faithful y.live files (s.past.after (y.rotator v) s.files t next) t'.stage := by
  have inside : (s.visits v).inside := by
    rw [here]
    trivial
  intro w t' turning
  simp only [Site.advance, Function.update_apply] at turning
  split at turning
  · obtain rfl := Visit.rotating.inj turning
    rwa [Turn.stage_after]
  · next other => exact absurd turning (ledger.unturned shared inside other)

/-- A step of a rotation that leaves the files as they are. -/
theorem Ledger.idle (emptied : (s.past.after (y.rotator v) s.files t next).emptied = s.past.emptied)
    (exclusive : (s.advance y v t now s.files last next).Exclusive y)
    (reached : Faithful y.live s.files (s.past.after (y.rotator v) s.files t next) next) :
    Ledger y initial (s.advance y v t now s.files last next) ∧
      Progress y s (s.advance y v t now s.files last next) :=
  ⟨ledger.still rfl emptied (History.written_after ..) exclusive (ledger.turned shared here reached),
    .still rfl emptied⟩

/-- A step of a rotation that works on its backup only. -/
theorem Ledger.apart (beside : s.files.Beside files target) (sound : files.Sound)
    (opened : s.files.number y.live = .ok source) (apart : source ≠ target)
    (others : ∀ b ∈ s.past.emptied, ∃ n, s.files.Names b n ∧ n ≠ target)
    (emptied : (s.past.after (y.rotator v) s.files t next).emptied = s.past.emptied)
    (exclusive : (s.advance y v t now files last next).Exclusive y)
    (reached : Faithful y.live files (s.past.after (y.rotator v) s.files t next) next) :
    Ledger y initial (s.advance y v t now files last next) ∧
      Progress y s (s.advance y v t now files last next) :=
  ⟨ledger.beside beside sound opened apart others emptied (History.written_after ..) exclusive
    (ledger.turned shared here reached), .beside beside opened apart others emptied⟩

theorem Ledger.create {suffix bound : Nat} {place : Place} (was : t.stage = .naming source suffix bound)
    (opened : s.files.number y.live = .ok source)
    (found : s.files.find false (Backup.path y.live suffix) = .ok ⟨place, none⟩)
    (exclusive : (s.advance y v t now (s.files.addFile place []) last
      (.copying source (Backup.path y.live suffix) s.files.inodes.length)).Exclusive y) :
    Ledger y initial (s.advance y v t now (s.files.addFile place []) last
        (.copying source (Backup.path y.live suffix) s.files.inodes.length)) ∧
      Progress y s (s.advance y v t now (s.files.addFile place []) last
        (.copying source (Backup.path y.live suffix) s.files.inodes.length)) := by
  have free := (Files.node?_of_find found).symm
  have detached := ledger.detached opened found
  have emptied : (s.past.after (y.rotator v) s.files t (.copying source (Backup.path y.live suffix)
      s.files.inodes.length)).emptied = s.past.emptied := History.emptied_after (by simp [was])
  refine ledger.apart shared here (.addFile free []) (ledger.sound.addFile free []) opened detached.apart
    ledger.apart_new emptied exclusive ⟨?_, [], ?_, List.nil_prefix⟩
  · rw [emptied]
    exact detached
  · rw [Files.inode?_addFile, if_pos rfl]

theorem Ledger.copy (was : t.stage = .copying source backup target)
    (exclusive : (s.advance y v t now (s.files.revise target (Files.overwrite (s.files.text y.live))) last
      (.syncing source backup target (s.files.text y.live).length)).Exclusive y) :
    Ledger y initial (s.advance y v t now (s.files.revise target (Files.overwrite (s.files.text y.live)))
        last (.syncing source backup target (s.files.text y.live).length)) ∧
      Progress y s (s.advance y v t now (s.files.revise target (Files.overwrite (s.files.text y.live)))
        last (.syncing source backup target (s.files.text y.live).length)) := by
  have faithful := ledger.turns v t here
  rw [was] at faithful
  obtain ⟨detached, held, regular, part⟩ := faithful
  have beside : s.files.Beside (s.files.revise target _) target :=
    .revise (Files.overwrite (s.files.text y.live))
  have emptied : (s.past.after (y.rotator v) s.files t (.syncing source backup target
      (s.files.text y.live).length)).emptied = s.past.emptied := History.emptied_after (by simp [was])
  refine ledger.apart shared here beside (ledger.sound.revise _) detached.opened detached.apart
    detached.others emptied exclusive ⟨?_, ?_⟩
  · rw [emptied]
    exact detached.revise _
  · rw [Files.inode?_revise_same regular, beside.text detached.opened detached.apart,
      Files.overwrite_whole _ _ part]

theorem Ledger.remove {cause : IoError} (was : t.stage = .discarding backup cause) {place : Place}
    {node : Node} (found : s.files.find false backup = .ok ⟨place, some node⟩)
    {failure : Failure} (exclusive : (s.advance y v t now (s.files.erase place) last
      (.done (.error failure))).Exclusive y) :
    Ledger y initial (s.advance y v t now (s.files.erase place) last (.done (.error failure))) ∧
      Progress y s (s.advance y v t now (s.files.erase place) last (.done (.error failure))) := by
  have faithful := ledger.turns v t here
  rw [was] at faithful
  obtain ⟨source, target, detached⟩ := faithful
  have file : s.files.node? place = some (.file target) := by
    obtain ⟨home, named⟩ := detached.named
    rw [found] at named
    obtain ⟨rfl, same⟩ := Files.Found.mk.inj (Except.ok.inj named)
    exact (Files.node?_of_find found).symm.trans same
  exact ledger.apart shared here (.erase file) (ledger.sound.erase file) detached.opened detached.apart
    detached.others (History.emptied_after (by simp [was])) exclusive trivial

theorem Ledger.advance {fault : Option Files.Fault}
    (move : Rotation.Move (s.rotator y v) now fault s.files t.stage files last next)
    (exclusive : (s.advance y v t now files last next).Exclusive y) :
    Ledger y initial (s.advance y v t now files last next) ∧
      Progress y s (s.advance y v t now files last next) := by
  have faithful := ledger.turns v t here
  have emptied : (∀ source backup bytes, t.stage ≠ .truncating source backup bytes) →
      (s.past.after (y.rotator v) s.files t next).emptied = s.past.emptied :=
    History.emptied_after
  have detached : ∀ {f source target backup},
      (s.past.after (y.rotator v) s.files t next).emptied = s.past.emptied →
      Detached y.live f s.past.emptied source backup target →
      Detached y.live f (s.past.after (y.rotator v) s.files t next).emptied source backup target :=
    fun same detached => same ▸ detached
  generalize was : t.stage = stage at move faithful emptied
  cases move with
  | opened live =>
    exact ledger.idle shared here (emptied (by simp)) exclusive (faithful_search live _ _ _)
  | taken => exact ledger.idle shared here (emptied (by simp)) exclusive (faithful_search faithful _ _ _)
  | unopened | uncreated | kept => exact ledger.idle shared here (emptied (by simp)) exclusive trivial
  | created found => exact ledger.create shared here was faithful found exclusive
  | copied whole =>
    rw [ledger.contentOf faithful.1.opened] at whole
    obtain rfl := Except.ok.inj whole
    exact ledger.copy shared here was exclusive
  | broken =>
    have apart := faithful.1
    exact ledger.apart shared here (.revise _) (ledger.sound.revise _) apart.opened apart.apart apart.others
      (emptied (by simp)) exclusive ⟨_, _, detached (emptied (by simp)) (apart.revise _)⟩
  | unread | unsynced =>
    exact ledger.idle shared here (emptied (by simp)) exclusive
      ⟨_, _, detached (emptied (by simp)) faithful.1⟩
  | synced =>
    obtain ⟨apart, whole⟩ := faithful
    refine ledger.idle shared here (emptied (by simp)) exclusive
      ⟨_, detached (emptied (by simp)) apart, whole, ?_⟩
    simp [History.after, was, Files.contentOf_regular whole, Except.toOption]
  | removed found => exact ledger.remove shared here was found exclusive
  | @emptied source bytes backup content regular =>
    have recorded : (s.past.after (y.rotator v) s.files t (.done (.ok ⟨backup, bytes⟩))).emptied =
        s.past.emptied ++ [backup] := by
      simp only [History.after, was]
    obtain ⟨ledger', kept, emptying⟩ := ledger.empty faithful rfl recorded
      (History.written_after ..) exclusive (ledger.turned shared here trivial)
    exact ⟨ledger', kept, .inr ⟨backup, emptying⟩⟩
  | unemptied => exact ledger.idle shared here (by simp [History.after, was]) exclusive trivial

end Moves

theorem Ledger.piece (ledger : Ledger y initial s) (shared : ∀ v w, y.lockOf v = y.lockOf w)
    (here : s.visits v = .rotating t) (copying : t.stage = .copying source backup target)
    {content : Bytes} (readable : s.files.contentOf source = .ok content) (moved : Nat)
    (files : s'.files = s.files.revise target (Files.overwrite (content.take moved)))
    (past : s'.past = s.past) (visits : s'.visits = s.visits) (exclusive : s'.Exclusive y) :
    Ledger y initial s' ∧ Progress y s s' := by
  have inside : (s.visits v).inside := by
    rw [here]
    trivial
  have faithful := ledger.turns v t here
  rw [copying] at faithful
  obtain ⟨detached, held, regular, part⟩ := faithful
  rw [ledger.contentOf detached.opened] at readable
  obtain rfl := Except.ok.inj readable
  have beside : s.files.Beside s'.files target := files ▸ .revise _
  have emptied : s'.past.emptied = s.past.emptied := by rw [past]
  refine ⟨ledger.beside beside (files ▸ ledger.sound.revise _) detached.opened detached.apart
    detached.others emptied (by rw [past]) exclusive ?_,
    .beside beside detached.opened detached.apart detached.others emptied⟩
  intro w t' turning
  rw [visits] at turning
  by_cases same : w = v
  · rw [same, here] at turning
    obtain rfl := Visit.rotating.inj turning
    rw [copying, past, files]
    refine ⟨detached.revise _, _, Files.inode?_revise_same regular, ?_⟩
    rw [← files, beside.text detached.opened detached.apart]
    exact Files.overwrite_part (List.take_prefix _ _) part
  · exact absurd turning (ledger.unturned shared inside same)

theorem Step.ledger (step : Step y s a s') (visitor : a.ofVisitor)
    (shared : ∀ v w, y.lockOf v = y.lockOf w) (ledger : Ledger y initial s) :
    Ledger y initial s' ∧ Progress y s s' := by
  have exclusive := step.exclusive ledger.exclusive
  have still : s'.files = s.files → s'.past = s.past → Progress y s s' :=
    fun files past => .still files (by rw [past])
  cases step with
  | ask here | forgo here | write here | leave here | finish here =>
    refine ⟨ledger.visited rfl rfl exclusive ?_, still rfl rfl⟩
    intro w t turning
    simp only [Site.visits_visit, Site.visits_relock] at turning
    split at turning
    · cases turning
    · exact .inr ⟨t, turning, rfl⟩
  | rotate here granted =>
    refine ⟨ledger.visited rfl rfl exclusive ?_, still rfl rfl⟩
    intro w t turning
    simp only [Site.visits_visit] at turning
    split at turning
    · obtain rfl := Visit.rotating.inj turning
      exact .inl rfl
    · exact .inr ⟨t, turning, rfl⟩
  | @forget v t here =>
    refine ⟨ledger.visited rfl rfl exclusive ?_, still rfl rfl⟩
    intro w t' turning
    simp only [Site.visits_visit] at turning
    split at turning
    · next same =>
      obtain rfl := Visit.rotating.inj turning
      exact .inr ⟨t, same ▸ here, rfl⟩
    · exact .inr ⟨t', turning, rfl⟩
  | append here appended =>
    obtain ⟨ledger', kept, text⟩ := ledger.append shared here appended exclusive rfl rfl rfl
    refine ⟨ledger', kept, .inl ⟨rfl, ?_⟩⟩
    rw [text]
    exact List.prefix_append _ _
  | @request v t now fault here asks =>
    obtain ⟨files, last, next, move, made⟩ := Site.request_move v now fault asks
    rw [made] at exclusive ⊢
    exact ledger.advance shared here move exclusive
  | piece here copying readable =>
    exact ledger.piece shared here copying readable _ rfl rfl rfl exclusive
  | sweep | expel | appear | vanish => exact visitor.elim

theorem Ledger.origin {f : Files} (sound : f.Sound) (plain : f.Plain y.live) :
    Ledger y (f.text y.live) { files := f } where
  sound := sound
  exclusive := Site.exclusive_origin f
  plain := plain
  backups _ member := absurd member List.not_mem_nil
  regular _ member := absurd member List.not_mem_nil
  turns _ _ turning := nomatch turning
  balance := by simp

theorem Run.ledger {start : Site} (run : Run y (fun _ a => a.ofVisitor) start s)
    (shared : ∀ v w, y.lockOf v = y.lockOf w) (ledger : Ledger y initial start) :
    Ledger y initial s := by
  induction run with
  | here => exact ledger
  | next _ visitor step ih => exact (step.ledger visitor shared ih).1

end AuditTrail
