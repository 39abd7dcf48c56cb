import AuditTrail.Proofs.Expiry
import AuditTrail.Proofs.Site.Backups

/-! How long backups last. The suffix of a backup is never before the second that its rotation
read, so no sweep removes it before the retention is over. `Lasting` is the invariant. -/
namespace AuditTrail

theorem Backup.lt_of_isExpired {retention : Duration} {now : Moment} {b : Listed}
    (expired : isExpired retention now b = true) :
    (retention.nanos : Int) < now.nanos - b.timestamp * 1000000000 :=
  (isExpired_eq_true.1 expired).1.2.2

def Action.ofSweep : Action → Prop
  | .sweep .. | .expel .. => True
  | _ => False

/-- A run, with the retention and the moment that the sweep `k` has read if it has begun. -/
inductive Swept (y : Layout) (allowed : Site → Action → Prop) (start : Site) (k : Nat) :
    Option (Duration × Moment) → Site → Prop where
  | here : Swept y allowed start k none start
  | sweep {read : Option (Duration × Moment)} {s s' : Site} {retention : Duration} {now : Moment}
      (run : Swept y allowed start k read s) (fair : allowed s (.sweep k retention now))
      (step : Step y s (.sweep k retention now) s') : Swept y allowed start k (some (retention, now)) s'
  | next {read : Option (Duration × Moment)} {s s' : Site} {a : Action}
      (run : Swept y allowed start k read s) (fair : allowed s a) (step : Step y s a s')
      (other : ∀ retention now, a ≠ .sweep k retention now) : Swept y allowed start k read s'

variable {y : Layout} {allowed : Site → Action → Prop} {start s s' : Site} {a : Action} {k v n : Nat}
  {t : Turn} {f : Files} {read : Option (Duration × Moment)}

theorem Swept.run (swept : Swept y allowed start k read s) : Run y allowed start s := by
  induction swept with
  | here => exact .here
  | sweep _ fair step ih => exact ih.next fair step
  | next _ fair step _ ih => exact ih.next fair step

theorem Run.swept (k : Nat) (run : Run y allowed start s) : ∃ read, Swept y allowed start k read s := by
  induction run with
  | here => exact ⟨none, .here⟩
  | @next s s' a run fair step ih =>
    obtain ⟨read, swept⟩ := ih
    by_cases own : ∃ retention now, a = .sweep k retention now
    · obtain ⟨retention, now, rfl⟩ := own
      exact ⟨_, swept.sweep fair step⟩
    · exact ⟨read, swept.next fair step fun retention now same => own ⟨retention, now, same⟩⟩

theorem Swept.expired (swept : Swept y allowed start k read s) (idle : (start.sweeps k).pending = []) :
    ∀ b ∈ (s.sweeps k).pending, ∃ retention now, read = some (retention, now) ∧
      Backup.isExpired retention now b = true := by
  induction swept with
  | here =>
    rw [idle]
    exact fun _ member => absurd member List.not_mem_nil
  | sweep _ _ step _ =>
    cases step with
    | sweep listed =>
      intro b member
      simp only [Function.update_self] at member
      obtain ⟨_, -, among⟩ := Sweep.of_start listed
      exact ⟨_, _, rfl, (among b member).2⟩
  | next _ _ step other ih =>
    cases step with
    | @sweep j retention now _ listed =>
      have apart : k ≠ j := by
        rintro rfl
        exact other retention now rfl
      simp only [Function.update_of_ne apart]
      exact ih
    | @expel j fault =>
      intro b member
      apply ih
      simp only [Function.update_apply] at member
      split at member
      · next same =>
        rw [Sweep.pending_step] at member
        exact same ▸ List.mem_of_mem_tail member
      · exact member
    | _ => exact ih

def Made (y : Layout) (s : Site) (backup : Path) (target : Nat) : Prop :=
  ∃ g ∈ s.past.created, g.number = target ∧ Backup.path y.live g.suffix = backup

/-- The content of the backup of a rotation at its stages. -/
def Holds (y : Layout) (s : Site) : Rotation.Stage → Prop
  | .copying source backup target => Made y s backup target ∧ s.past.synced target = none ∧
    ∃ held, s.files.inode? target = some (.regular held) ∧
      ∀ content, s.files.contentOf source = .ok content → held <+: content
  | .syncing source backup target _ => Made y s backup target ∧ s.past.synced target = none ∧
    ∃ content, s.files.contentOf source = .ok content ∧
      s.files.inode? target = some (.regular content)
  | .truncating source backup _ => ∃ target, Made y s backup target ∧
    ∃ content, s.files.contentOf source = .ok content ∧
      s.files.inode? target = some (.regular content) ∧ s.past.synced target = some content
  | .done (.ok rotated) => ∃ target, Made y s rotated.backup target ∧
    ∃ content, s.past.synced target = some content
  | .opening | .naming .. | .discarding .. | .done (.error _) => True

structure Bears (y : Layout) (s : Site) (t : Turn) : Prop where
  /-- The live log that a rotation has opened is no backup. -/
  unled : ∀ g ∈ s.past.created, t.opened ≠ some g.number
  holds : Holds y s t.stage

structure Lasting (y : Layout) (s : Site) : Prop where
  apart : Backup.Apart s.files y.live
  fromEntry : ∀ k, (s.sweeps k).FromEntry s.files y.live
  low : ∀ g ∈ s.past.created, g.suffix < UInt64.size
  synced : ∀ n content, s.past.synced n = some content →
    (∃ g ∈ s.past.created, g.number = n) ∧ s.files.inode? n = some (.regular content)
  turns : ∀ v t, s.visits v = .rotating t → Bears y s t

theorem Lasting.unlive (lasting : Lasting y s) (orderly : Orderly y s) :
    ∀ g ∈ s.past.created, s.files.number y.live ≠ .ok g.number := by
  intro g listed led
  obtain ⟨place, leads⟩ := Files.number_eq_ok.1 led
  have found := orderly.home g listed place (Files.node?_of_find leads).symm
  have slot := Backup.slot_of_find orderly.sound led found (lasting.low g listed)
  cases lasting.apart _ _ _ slot leads

/-- A step that changes no synced content and creates no backup. -/
theorem Lasting.keep (lasting : Lasting y s) (evolves : s.files.Evolves s'.files)
    (fromEntry : ∀ k, (s'.sweeps k).FromEntry s'.files y.live) (created : s'.past.created = s.past.created)
    (synced : ∀ n content, s'.past.synced n = some content →
      (∃ g ∈ s.past.created, g.number = n) ∧ s'.files.inode? n = some (.regular content))
    (turns : ∀ v t, s'.visits v = .rotating t → Bears y s' t) : Lasting y s' where
  apart := lasting.apart.same evolves.ways
  fromEntry := fromEntry
  low := by
    rw [created]
    exact lasting.low
  synced := by
    rw [created]
    exact synced
  turns := turns

theorem Bears.keep {t' : Turn} (bears : Bears y s t) (orderly : Orderly y s)
    (here : s.visits v = .rotating t) (created : s'.past.created = s.past.created)
    (synced : s'.past.synced = s.past.synced)
    (inodes : ∀ n, n < s.files.inodes.length → s'.files.inode? n = s.files.inode? n)
    (opened : t'.opened = t.opened) (stage : t'.stage = t.stage) : Bears y s' t' := by
  obtain ⟨traced, poised⟩ := orderly.turns v t here
  obtain ⟨unled, holds⟩ := bears
  have contents : ∀ n, n < s.files.inodes.length → s'.files.contentOf n = s.files.contentOf n := by
    intro n early
    rw [Files.contentOf, Files.contentOf, inodes n early]
  have made : ∀ {backup target}, Made y s backup target →
      Made y s' backup target ∧ s'.files.inode? target = s.files.inode? target := by
    rintro backup target ⟨g, listed, rfl, rfl⟩
    exact ⟨⟨g, created ▸ listed, rfl, rfl⟩, inodes _ (orderly.numbered g listed)⟩
  refine ⟨?_, ?_⟩
  · rw [created, opened]
    exact unled
  rw [stage]
  unfold Poised at poised
  unfold Holds at holds ⊢
  cases reached : t.stage <;> simp only [reached] at poised holds ⊢
  case done outcome =>
    cases outcome with
    | error failure => trivial
    | ok rotated =>
      obtain ⟨target, mine, kept⟩ := holds
      exact ⟨target, (made mine).1, synced ▸ kept⟩
  case copying source backup target =>
    obtain ⟨mine, unsynced, held, regular, part⟩ := holds
    obtain ⟨mine', same⟩ := made mine
    rw [synced, same, contents source (traced.opened _ poised.1)]
    exact ⟨mine', unsynced, held, regular, part⟩
  case syncing source backup target bytes =>
    obtain ⟨mine, unsynced, content, whole, regular⟩ := holds
    obtain ⟨mine', same⟩ := made mine
    rw [synced, same, contents source (traced.opened _ poised.1)]
    exact ⟨mine', unsynced, content, whole, regular⟩
  case truncating source backup bytes =>
    obtain ⟨target, mine, content, whole, regular, kept⟩ := holds
    obtain ⟨mine', same⟩ := made mine
    refine ⟨target, mine', content, ?_⟩
    rw [synced, same, contents source (traced.opened _ poised)]
    exact ⟨whole, regular, kept⟩

theorem Lasting.idle (lasting : Lasting y s) (orderly : Orderly y s)
    (evolves : s.files.Evolves s'.files) (fromEntry : ∀ k, (s'.sweeps k).FromEntry s'.files y.live)
    (inodes : ∀ n, n < s.files.inodes.length → s'.files.inode? n = s.files.inode? n)
    (past : s'.past = s.past)
    (turns : ∀ w t, s'.visits w = .rotating t → t.stage = .opening ∧ t.opened = none ∨
      ∃ t', s.visits w = .rotating t' ∧ t.opened = t'.opened ∧ t.stage = t'.stage) :
    Lasting y s' := by
  refine lasting.keep evolves fromEntry (by rw [past]) ?_ ?_
  · rw [past]
    intro n content kept
    obtain ⟨⟨g, listed, rfl⟩, regular⟩ := lasting.synced n content kept
    exact ⟨⟨g, listed, rfl⟩, (inodes _ (orderly.numbered g listed)).trans regular⟩
  · intro w t turning
    rcases turns w t turning with ⟨stage, opened⟩ | ⟨t', turning', opened, stage⟩
    · refine ⟨by simp [opened], ?_⟩
      rw [stage]
      trivial
    · exact (lasting.turns w t' turning').keep orderly turning' (by rw [past]) (by rw [past]) inodes
        opened stage

theorem Lasting.fromEntry_keep (lasting : Lasting y s) (evolves : s.files.Evolves f)
    (sweeps : s'.sweeps = s.sweeps) (k : Nat) : (s'.sweeps k).FromEntry f y.live := by
  rw [sweeps]
  exact (lasting.fromEntry k).same evolves.ways

theorem History.synced_after {c : History} {rotator : Nat} {next : Rotation.Stage}
    (other : ∀ source backup target bytes, t.stage ≠ .syncing source backup target bytes) :
    (c.after rotator f t next).synced = c.synced := by
  unfold after
  split
  · rfl
  · next syncing => exact absurd syncing (other _ _ _ _)
  · rfl
  · rfl

section Move

variable {now : Moment} {fault : Option Files.Fault} {files : Files} {last : Nat}
  {next : Rotation.Stage}

theorem Lasting.advance (lasting : Lasting y s) (orderly : Orderly y s)
    (alone : ∀ w, w ≠ v → ∀ t, s.visits w ≠ .rotating t) (here : s.visits v = .rotating t)
    (move : Rotation.Move (s.rotator y v) now fault s.files t.stage files last next)
    (evolves : s.files.Evolves files)
    (inodes : ∀ g ∈ s.past.created, s.past.synced g.number ≠ none →
      files.inode? g.number = s.files.inode? g.number)
    (created : (s.past.after (y.rotator v) s.files t next).created = s.past.created)
    (synced : (s.past.after (y.rotator v) s.files t next).synced = s.past.synced)
    (holds : ∀ s' : Site, s'.files = files → s'.past.created = s.past.created →
      s'.past.synced = s.past.synced → Holds y s' next) :
    Lasting y (s.advance y v t now files last next) := by
  refine lasting.keep evolves (lasting.fromEntry_keep evolves rfl) created ?_ ?_
  · intro n content kept
    simp only [Site.advance, synced] at kept ⊢
    obtain ⟨⟨g, listed, rfl⟩, regular⟩ := lasting.synced n content kept
    exact ⟨⟨g, listed, rfl⟩, (inodes g listed (by simp [kept])).trans regular⟩
  · intro w t' turning
    simp only [Site.advance, Function.update_apply] at turning
    split at turning
    · obtain rfl := Visit.rotating.inj turning
      refine ⟨?_, ?_⟩
      · simp only [Site.advance, created]
        intro g listed opened
        rcases (Turn.after_cases move).2.1 with same | read
        · exact (lasting.turns v t here).unled g listed (same.symm.trans opened)
        · exact lasting.unlive orderly g listed (ok_of_toOption (read.symm.trans opened))
      · rw [Turn.stage_after]
        exact holds _ rfl created synced
    · next other => exact absurd turning (alone w other t')

theorem Lasting.created (lasting : Lasting y s) (orderly : Orderly y s)
    (alone : ∀ w, w ≠ v → ∀ t, s.visits w ≠ .rotating t) (here : s.visits v = .rotating t)
    {source suffix bound : Nat} (naming : t.stage = .naming source suffix bound) {place : Place}
    (found : s.files.find false (Backup.path y.live suffix) = .ok ⟨place, none⟩)
    (creates : Creates y s v t place source suffix s') : Lasting y s' := by
  have evolves := creates.evolves found
  refine ⟨lasting.apart.same evolves.ways, lasting.fromEntry_keep evolves creates.sweeps, ?_, ?_, ?_⟩
  · intro g listed
    rcases creates.of_mem listed with old | rfl
    · exact lasting.low g old
    · exact Rotator.lt_size (orderly.searched here naming).1
  · rw [creates.synced, creates.files]
    intro n content kept
    obtain ⟨⟨g, listed, rfl⟩, regular⟩ := lasting.synced n content kept
    refine ⟨⟨g, creates.mem_of_old listed, rfl⟩, ?_⟩
    rw [Files.inode?_addFile, if_neg (Nat.ne_of_lt (orderly.numbered g listed))]
    exact regular
  · intro w t' turning
    rcases creates.turning turning with ⟨rfl, rfl⟩ | ⟨other, turned⟩
    · refine ⟨?_, ⟨_, creates.new_mem, rfl, rfl⟩, ?_, [], ?_, ?_⟩
      · intro g listed same
        rcases creates.of_mem listed with old | rfl
        · exact (lasting.turns w t here).unled g old same
        · exact Nat.lt_irrefl _ ((orderly.turns w t here).traced.opened _ same)
      · rw [creates.synced]
        by_contra known
        obtain ⟨content, kept⟩ := Option.ne_none_iff_exists'.1 known
        obtain ⟨⟨g, listed, same⟩, -⟩ := lasting.synced _ content kept
        exact Nat.ne_of_lt (orderly.numbered g listed) same
      · rw [creates.files, Files.inode?_addFile, if_pos rfl]
      · exact fun _ _ => List.nil_prefix
    · exact absurd turned (alone w other t')

theorem holds_search {source suffix bound : Nat} :
    Holds y s (Rotation.Stage.search y.live source suffix bound) := by
  unfold Rotation.Stage.search
  split <;> trivial

theorem Lasting.copy (lasting : Lasting y s) (orderly : Orderly y s)
    (alone : ∀ w, w ≠ v → ∀ t, s.visits w ≠ .rotating t) (here : s.visits v = .rotating t)
    {source target : Nat} {backup : Path} {content : Bytes} (was : t.stage = .copying source backup target)
    (whole : s.files.contentOf source = .ok content)
    (evolves : s.files.Evolves (s.files.revise target (Files.overwrite content)))
    (move : Rotation.Move (s.rotator y v) now fault s.files t.stage
      (s.files.revise target (Files.overwrite content)) last (.syncing source backup target content.length)) :
    Lasting y (s.advance y v t now (s.files.revise target (Files.overwrite content)) last
      (.syncing source backup target content.length)) := by
  have poised := (orderly.turns v t here).poised
  obtain ⟨unled, holds⟩ := lasting.turns v t here
  simp only [Poised, was] at poised
  simp only [Holds, was] at holds
  obtain ⟨⟨g, listed, rfl, named⟩, unsynced, held, regular, part⟩ := holds
  have apart : source ≠ g.number := by
    rintro rfl
    exact unled g listed poised.1
  refine lasting.advance orderly alone here move evolves ?_ (History.created_after (by simp))
    (History.synced_after (by simp [was])) ?_
  · intro h _ known
    apply Files.inode?_revise_other
    intro same
    rw [same] at known
    exact known unsynced
  · intro s' files created synced
    refine ⟨⟨g, created ▸ listed, rfl, named⟩, synced ▸ unsynced, content, ?_, ?_⟩
    · rw [files, Files.contentOf, Files.inode?_revise_other apart]
      exact whole
    · rw [files, Files.inode?_revise_same regular, Files.overwrite_whole _ _ (part content whole)]

theorem Lasting.sync (lasting : Lasting y s) (alone : ∀ w, w ≠ v → ∀ t, s.visits w ≠ .rotating t)
    (here : s.visits v = .rotating t) {source target bytes : Nat} {backup : Path}
    (was : t.stage = .syncing source backup target bytes) :
    Lasting y (s.advance y v t now s.files last (.truncating source backup bytes)) := by
  obtain ⟨unled, holds⟩ := lasting.turns v t here
  simp only [Holds, was] at holds
  obtain ⟨⟨g, listed, rfl, named⟩, -, content, whole, regular⟩ := holds
  have created : (s.past.after (y.rotator v) s.files t (.truncating source backup bytes)).created =
      s.past.created := History.created_after (by simp)
  have recorded : (s.past.after (y.rotator v) s.files t (.truncating source backup bytes)).synced =
      Function.update s.past.synced g.number (some content) := by
    simp only [History.after, was, Files.contentOf_regular regular, Except.toOption]
  refine lasting.keep (.refl _) (lasting.fromEntry_keep (.refl _) rfl) created ?_ ?_
  · intro n held kept
    simp only [Site.advance, recorded, Function.update_apply] at kept
    split at kept
    · next same =>
      obtain rfl := Option.some.inj kept
      subst same
      exact ⟨⟨g, listed, rfl⟩, regular⟩
    · exact lasting.synced n held kept
  · intro w t' turning
    simp only [Site.advance, Function.update_apply] at turning
    split at turning
    · obtain rfl := Visit.rotating.inj turning
      rw [Turn.after_later (by simp [was]) (by simp [was])]
      refine ⟨?_, g.number, ⟨g, ?_, rfl, named⟩, content, whole, regular, ?_⟩
      · simp only [Site.advance, created]
        exact unled
      · simp only [Site.advance, created]
        exact listed
      · simp only [Site.advance, recorded, Function.update_self]
    · next other => exact absurd turning (alone w other t')

theorem Lasting.move (lasting : Lasting y s) (orderly : Orderly y s)
    (alone : ∀ w, w ≠ v → ∀ t, s.visits w ≠ .rotating t) (here : s.visits v = .rotating t)
    (evolves : s.files.Evolves files)
    (move : Rotation.Move (s.rotator y v) now fault s.files t.stage files last next) :
    Lasting y (s.advance y v t now files last next) := by
  have poised := (orderly.turns v t here).poised
  obtain ⟨unled, holds⟩ := lasting.turns v t here
  have advance := lasting.advance orderly alone here move evolves
  have created : (∀ source suffix bound, t.stage = .naming source suffix bound →
      ∀ source backup target, next ≠ .copying source backup target) →
      (s.past.after (y.rotator v) s.files t next).created = s.past.created :=
    History.created_after
  have synced : (∀ source backup target bytes, t.stage ≠ .syncing source backup target bytes) →
      (s.past.after (y.rotator v) s.files t next).synced = s.past.synced :=
    History.synced_after
  have moved := move
  unfold Poised at poised
  unfold Holds at holds
  generalize was : t.stage = stage at move poised holds advance created synced
  cases move with
  | opened | taken =>
    exact advance (fun _ _ _ => rfl)
      (created fun _ _ _ _ _ _ _ => Rotation.Stage.search_ne_copying) (synced (by simp))
      fun _ _ _ _ => holds_search
  | unopened | uncreated | unread | kept | unemptied | removed =>
    exact advance (fun _ _ _ => rfl) (created (by simp)) (synced (by simp)) fun _ _ _ _ => trivial
  | unsynced =>
    refine advance (fun _ _ _ => rfl) (created (by simp)) ?_ fun _ _ _ _ => trivial
    simp only [History.after, was]
  | created found => exact lasting.created orderly alone here was found (.advance was now)
  | copied whole => exact lasting.copy orderly alone here was whole evolves moved
  | broken =>
    refine advance ?_ (created (by simp)) (synced (by simp)) fun _ _ _ _ => trivial
    intro h _ known
    apply Files.inode?_revise_other
    intro same
    rw [same] at known
    exact known holds.2.1
  | synced => exact lasting.sync alone here was
  | emptied =>
    obtain ⟨target, ⟨g, listed, same, named⟩, content, -, -, kept⟩ := holds
    refine advance ?_ (created (by simp)) (synced (by simp)) ?_
    · intro h listed _
      apply Files.inode?_revise_other
      rintro rfl
      exact unled h listed poised
    · intro s' _ created synced
      exact ⟨target, ⟨g, created ▸ listed, same, named⟩, content, synced ▸ kept⟩

end Move

theorem Lasting.piece (lasting : Lasting y s) (orderly : Orderly y s)
    (alone : ∀ w, w ≠ v → ∀ t, s.visits w ≠ .rotating t) (here : s.visits v = .rotating t)
    {source target moved : Nat} {backup : Path} {content : Bytes}
    (copying : t.stage = .copying source backup target)
    (readable : s.files.contentOf source = .ok content)
    (files : s'.files = s.files.revise target (Files.overwrite (content.take moved)))
    (sweeps : s'.sweeps = s.sweeps) (past : s'.past = s.past) (visits : s'.visits = s.visits) :
    Lasting y s' := by
  have poised := (orderly.turns v t here).poised
  obtain ⟨unled, holds⟩ := lasting.turns v t here
  simp only [Poised, copying] at poised
  simp only [Holds, copying] at holds
  obtain ⟨⟨g, listed, rfl, named⟩, unsynced, held, regular, part⟩ := holds
  have apart : source ≠ g.number := by
    rintro rfl
    exact unled g listed poised.1
  have evolves : s.files.Evolves s'.files := files ▸ .revise _
  refine lasting.keep evolves (lasting.fromEntry_keep evolves sweeps) (by rw [past]) ?_ ?_
  · rw [past, files]
    intro n known kept
    obtain ⟨made, regular'⟩ := lasting.synced n known kept
    refine ⟨made, (Files.inode?_revise_other ?_).trans regular'⟩
    rintro rfl
    rw [unsynced] at kept
    cases kept
  · rw [visits]
    intro w t' turning
    by_cases same : w = v
    · subst same
      obtain rfl := Visit.rotating.inj (here.symm.trans turning)
      refine ⟨past ▸ unled, ?_⟩
      rw [copying]
      refine ⟨⟨g, past ▸ listed, rfl, named⟩, past ▸ unsynced, _,
        files ▸ Files.inode?_revise_same regular, ?_⟩
      rw [files, Files.contentOf, Files.inode?_revise_other apart]
      intro whole same
      obtain rfl : content = whole := Except.ok.inj (readable.symm.trans same)
      exact Files.overwrite_part (List.take_prefix _ _) (part content readable)
    · exact absurd turning (alone w same t')

theorem Lasting.append (lasting : Lasting y s) (orderly : Orderly y s)
    (alone : ∀ w, w ≠ v → ∀ t, s.visits w ≠ .rotating t) (here : s.visits v = .writing) {bytes : Bytes}
    (evolves : s.files.Evolves files) (appended : s.files.append y.live bytes = .ok files) :
    Lasting y { s with files, past := { s.past with written := s.past.written ++ bytes } } := by
  refine lasting.keep evolves (lasting.fromEntry_keep evolves rfl) rfl ?_ ?_
  · intro n content kept
    obtain ⟨⟨g, listed, rfl⟩, regular⟩ := lasting.synced n content kept
    refine ⟨⟨g, listed, rfl⟩, Eq.trans ?_ regular⟩
    rcases Files.append_cases appended with ⟨place, found, rfl⟩ | ⟨m, leads, rfl⟩
    · rw [Files.inode?_addFile, if_neg (Nat.ne_of_lt (orderly.numbered g listed))]
    · apply Files.inode?_revise_other
      rintro rfl
      exact lasting.unlive orderly g listed leads
  · intro w t turning
    by_cases same : w = v
    · rw [same, here] at turning
      cases turning
    · exact absurd turning (alone w same t)

theorem Lasting.expel (lasting : Lasting y s) (orderly : Orderly y s)
    (evolves : s.files.Evolves ((s.sweeps k).step fault s.files).2.1) :
    Lasting y { s with files := ((s.sweeps k).step fault s.files).2.1
                       sweeps := Function.update s.sweeps k ((s.sweeps k).step fault s.files).1 } := by
  refine lasting.idle orderly evolves ?_ ?_ rfl fun w t turning => .inr ⟨t, turning, rfl, rfl⟩
  · intro j
    simp only [Function.update_apply]
    split
    · next same =>
      subst same
      intro b member
      rw [Sweep.pending_step] at member
      exact ((lasting.fromEntry j) b (List.mem_of_mem_tail member)).same evolves.ways
    · exact (lasting.fromEntry j).same evolves.ways
  · intro n _
    rcases (Sweep.step_cases (orderly.linkFree k) fault).2 with same | ⟨place, m, file, gone⟩
    · simp only [same]
    · simp only [gone, Files.inode?_erase]

theorem Step.lasting (step : Step y s a s') (honest : s.Honest y a)
    (shared : ∀ v w, y.lockOf v = y.lockOf w) (orderly : Orderly y s) (lasting : Lasting y s) :
    Lasting y s' := by
  have evolves := (step.orderly honest orderly).1
  have alone : ∀ {v}, (s.visits v).inside → ∀ w, w ≠ v → ∀ t, s.visits w ≠ .rotating t :=
    fun inside w other => orderly.exclusive.unturned inside (shared w _) other
  have turning : ∀ {v t}, s.visits v = .rotating t → (s.visits v).inside := by
    intro v t here
    rw [here]
    trivial
  cases step with
  | ask here | forgo here | write here | leave here | finish here =>
    refine lasting.idle orderly evolves lasting.fromEntry (fun _ _ => rfl) rfl ?_
    intro w t turning
    simp only [Site.visits_visit, Site.visits_relock] at turning
    split at turning
    · cases turning
    · exact .inr ⟨t, turning, rfl, rfl⟩
  | rotate here granted =>
    refine lasting.idle orderly evolves lasting.fromEntry (fun _ _ => rfl) rfl ?_
    intro w t turning
    simp only [Site.visits_visit] at turning
    split at turning
    · obtain rfl := Visit.rotating.inj turning
      exact .inl ⟨rfl, rfl⟩
    · exact .inr ⟨t, turning, rfl, rfl⟩
  | @forget v t here =>
    refine lasting.idle orderly evolves lasting.fromEntry (fun _ _ => rfl) rfl ?_
    intro w t' turning
    simp only [Site.visits_visit] at turning
    split at turning
    · next same =>
      obtain rfl := Visit.rotating.inj turning
      exact .inr ⟨t, same ▸ here, rfl, rfl⟩
    · exact .inr ⟨t', turning, rfl, rfl⟩
  | @append v bytes files here appended =>
    have inside : (s.visits v).inside := by
      rw [here]
      trivial
    exact lasting.append orderly (alone inside) here evolves appended
  | @request v t now fault here asks =>
    obtain ⟨files, last, next, move, made⟩ := Site.request_move v now fault asks
    rw [made] at evolves ⊢
    exact lasting.move orderly (alone (turning here)) here evolves move
  | piece here copying readable =>
    exact lasting.piece orderly (alone (turning here)) here copying readable rfl rfl rfl rfl
  | sweep listed =>
    refine lasting.idle orderly evolves ?_ (fun _ _ => rfl) rfl fun w t turning =>
      .inr ⟨t, turning, rfl, rfl⟩
    intro j
    simp only [Function.update_apply]
    split
    · exact Sweep.fromEntry_of_start listed
    · exact lasting.fromEntry j
  | expel => exact lasting.expel orderly evolves
  | appear free =>
    refine lasting.idle orderly evolves (lasting.fromEntry_keep evolves rfl) ?_ rfl fun w t turning =>
      .inr ⟨t, turning, rfl, rfl⟩
    intro n early
    rw [Files.inode?_addFile, if_neg (Nat.ne_of_lt early)]
  | vanish file =>
    exact lasting.idle orderly evolves (lasting.fromEntry_keep evolves rfl) (fun _ _ => rfl) rfl
      fun w t turning => .inr ⟨t, turning, rfl, rfl⟩

theorem Lasting.synced_step (lasting : Lasting y s) (step : Step y s a s') {content : Bytes}
    (kept : s.past.synced n = some content) : s'.past.synced n = some content := by
  cases step with
  | @request v t now fault here asks =>
    obtain ⟨files, last, next, move, made⟩ := Site.request_move v now fault asks
    rw [made, Site.advance]
    simp only [History.after]
    split
    · exact kept
    · next syncing =>
      refine (Function.update_of_ne ?_ _ _).trans kept
      rintro rfl
      have holds := (lasting.turns v t here).holds
      rw [syncing] at holds
      rw [holds.2.1] at kept
      cases kept
    · exact kept
    · exact kept
  | _ => exact kept

theorem Lasting.expelled (lasting : Lasting y s) (orderly : Orderly y s) {fault : Option Files.Fault}
    {g : Creation} (listed : g ∈ s.past.created) {place : Place}
    (there : s.files.node? place = some (.file g.number))
    (gone : ((s.sweeps k).step fault s.files).2.1.node? place ≠ some (.file g.number)) :
    ∃ b ∈ (s.sweeps k).pending, b.timestamp = g.suffix := by
  rw [← there] at gone
  obtain ⟨b, pending, node, found⟩ := Sweep.step_expels gone
  have slot := (lasting.fromEntry k b pending).slot found
  have named := Backup.head?_of_find (orderly.home g listed place there)
  exact ⟨b, pending, slot.eq named⟩

theorem Lasting.agree_expel (lasting : Lasting y s) (orderly : Orderly y s) (k : Nat)
    (fault : Option Files.Fault) : s.files.Agree ((s.sweeps k).step fault s.files).2.1 y.live := by
  rcases (Sweep.step_cases (orderly.linkFree k) fault).2 with same | ⟨place, m, file, erased⟩
  · rw [same]
    exact .refl _ _
  · have gone : ((s.sweeps k).step fault s.files).2.1.node? place ≠ s.files.node? place := by
      rw [erased, file, Files.node?_erase (Files.ne_root_of_file file), if_pos rfl]
      nofun
    rw [erased]
    refine .erase file ?_
    rintro _ n found rfl
    obtain ⟨b, pending, node, other⟩ := Sweep.step_expels gone
    have slot := (lasting.fromEntry k b pending).slot other
    cases lasting.apart _ _ _ slot found

theorem Lasting.origin (apart : Backup.Apart f y.live) : Lasting y { files := f } where
  apart := apart
  fromEntry _ _ pending := absurd pending List.not_mem_nil
  low _ listed := absurd listed List.not_mem_nil
  synced _ _ kept := nomatch kept
  turns _ _ turning := nomatch turning

theorem Run.lasting (run : Run y (Site.Honest y) s s') (shared : ∀ v w, y.lockOf v = y.lockOf w)
    (orderly : Orderly y s) (lasting : Lasting y s) : Orderly y s' ∧ Lasting y s' ∧
      ∀ n content, s.past.synced n = some content → s'.past.synced n = some content := by
  induction run with
  | here => exact ⟨orderly, lasting, fun _ _ => id⟩
  | next _ honest step ih =>
    obtain ⟨orderly, lasting, kept⟩ := ih
    exact ⟨(step.orderly honest orderly).2, step.lasting honest shared orderly lasting,
      fun n content before => lasting.synced_step step (kept n content before)⟩

/-- What a sweep and a rotation may do to backups, where the sweep has read its retention and the clock. -/
structure Retained (y : Layout) (k : Nat) (read : Option (Duration × Moment)) (s : Site) : Prop where
  /-- A backup that the sweep removes is older than the retention, measured from the second of its
  rotation. -/
  expired : ∀ fault s', Step y s (.expel k fault) s' → ∀ g ∈ s.past.created, ∀ place,
    s.files.node? place = some (.file g.number) → s'.files.node? place ≠ some (.file g.number) →
    ∃ retention now, read = some (retention, now) ∧
      (retention.nanos : Int) < now.nanos - g.clock * 1000000000
  /-- Before the live log is truncated, the backup holds its whole content, and is synced. -/
  copied : ∀ v t source backup bytes, s.visits v = .rotating t →
    t.stage = .truncating source backup bytes → ∃ target, Made y s backup target ∧
    ∃ content, s.files.contentOf source = .ok content ∧
      s.files.inode? target = some (.regular content) ∧ s.past.synced target = some content
  finished : ∀ v t rotated, s.visits v = .rotating t → t.stage = .done (.ok rotated) →
    ∃ target, Made y s rotated.backup target ∧ ∃ content, s.past.synced target = some content
  kept : ∀ g ∈ s.past.created, ∀ content, s.past.synced g.number = some content →
    ∀ s', Run y (Site.Honest y) s s' → s'.files.inode? g.number = some (.regular content)
  live : ∀ a s' n, Step y s a s' → a.ofSweep → s.files.number y.live = .ok n →
    s'.files.number y.live = .ok n ∧ s'.files.inode? n = s.files.inode? n

/-- For all clock readings and faults, a backup is not removed before the retention has passed since the
second of its rotation, it keeps its content until then, and no sweep touches the live log, unless the live
path is a link to the name of a backup. -/
theorem backups_retained (sound : f.Sound) (apart : Backup.Apart f y.live)
    (shared : ∀ v w, y.lockOf v = y.lockOf w)
    (swept : Swept y (Site.Honest y) { files := f } k read s) : Retained y k read s := by
  have origin : Orderly y { files := f } := .origin sound
  obtain ⟨orderly, lasting, -⟩ := swept.run.lasting shared origin (.origin apart)
  constructor
  · intro fault s' step g listed place there gone
    cases step with
    | expel =>
      obtain ⟨b, pending, same⟩ := lasting.expelled orderly listed there gone
      obtain ⟨retention, now, began, expired⟩ := swept.expired rfl b pending
      have older := Backup.lt_of_isExpired expired
      have dated := orderly.dated g listed
      refine ⟨retention, now, began, ?_⟩
      omega
  · intro v t source backup bytes turning truncating
    have holds := (lasting.turns v t turning).holds
    rwa [truncating] at holds
  · intro v t rotated turning done
    have holds := (lasting.turns v t turning).holds
    rwa [done] at holds
  · intro g listed content kept s' onward
    obtain ⟨-, lasting', later⟩ := onward.lasting shared orderly lasting
    exact (lasting'.synced _ _ (later _ _ kept)).2
  · intro a s' n step own leads
    cases step with
    | sweep => exact ⟨leads, rfl⟩
    | @expel j fault =>
      have agree := lasting.agree_expel orderly j fault
      exact ⟨(agree.number n).2 leads, agree.inode? n leads⟩
    | _ => exact own.elim

theorem backups_retained_second : ∃ (s : Site) (read : Option (Duration × Moment)),
    Swept (.lone ⟨[0x61]⟩) (Site.Honest (.lone ⟨[0x61]⟩)) { files := .single [0x61] [0x78] } 0 read s ∧
    s.past.created.map (·.suffix) = [5] ∧ (s.sweeps 0).pending.map (·.timestamp) = [5] ∧
    Retained (.lone ⟨[0x61]⟩) 0 read s := by
  let y : Layout := .lone ⟨[0x61]⟩
  let f : Files := .single [0x61] [0x78]
  let request : Action := .request 0 ⟨5000000000⟩ none
  let actions : List Action := [.ask 0, .rotate 0] ++ List.replicate 5 request ++
    [.finish 0, .sweep 0 (.ofSecs 1) (.ofSeconds 1000 0)]
  have ends : (Site.play y { files := f } actions).map (fun s =>
      (s.past.created.map (·.suffix), (s.sweeps 0).pending.map (·.timestamp))) =
      some ([5], [5]) := by decide +kernel
  obtain ⟨s, played, results⟩ := Option.map_eq_some_iff.1 ends
  obtain ⟨suffixes, pending⟩ := Prod.mk.inj results
  have run : Run y (Site.Honest y) { files := f } s :=
    Site.run_of_play .here (by simp [actions, request, Site.Honest, Truthful]) played
  have sound : f.Sound := Files.sound_single _ _
  have apart : Backup.Apart f y.live :=
    Backup.apart_of_names sound (show f.Names y.live 0 from ⟨[[0x61]], rfl⟩)
  obtain ⟨read, swept⟩ := run.swept 0
  exact ⟨s, read, swept, suffixes, pending, backups_retained sound apart (fun _ _ => rfl) swept⟩

/-- If the live path is a link to a file with the name of a backup, a sweep removes the live log. -/
theorem not_retained_linked : ∃ (f : Files) (s s' : Site),
    f.Sound ∧ f.Plain ⟨[0x61]⟩ ∧
    Run (.lone ⟨[0x61]⟩) (Site.Honest (.lone ⟨[0x61]⟩)) { files := f } s ∧
    Step (.lone ⟨[0x61]⟩) s (.expel 0 none) s' ∧ s.files.read ⟨[0x61]⟩ = .ok [0x78] ∧
    s'.files.read ⟨[0x61]⟩ = .error (.ofKind .notFound) := by
  let y : Layout := .lone ⟨[0x61]⟩
  let empty : Files := .linked [0x61] ⟨[0x61, 0x2e, 0x35]⟩
  let f : Files := empty.addFile [[0x61, 0x2e, 0x35]] [0x78]
  have sound : f.Sound := (Files.sound_linked _ _).addFile rfl _
  have leads : f.number y.live = .ok 0 := rfl
  have plain : f.Plain y.live := Files.plain_of_number leads rfl
  let sweep : Action := .sweep 0 (.ofSecs 1) (.ofSeconds 1000 0)
  have ends : (Site.play y { files := f } [sweep]).map (fun s =>
      (s.files, ((s.sweeps 0).step none s.files).2.1)) =
      some (f, f.erase [[0x61, 0x2e, 0x35]]) := by decide +kernel
  obtain ⟨s, played, results⟩ := Option.map_eq_some_iff.1 ends
  obtain ⟨before, after⟩ := Prod.mk.inj results
  have run : Run y (Site.Honest y) { files := f } s :=
    Site.run_of_play .here (by simp [sweep, Site.Honest]) played
  refine ⟨f, s, _, sound, plain, run, .expel, ?_, ?_⟩
  · rw [before]
    rfl
  · simp only [after]
    rfl

end AuditTrail
