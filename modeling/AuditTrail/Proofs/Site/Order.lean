import AuditTrail.Proofs.Listing
import AuditTrail.Proofs.Site.Backups
import AuditTrail.Proofs.Site.Conservation

/-! The order of backups. If the clock never goes back, every new backup has a higher suffix than
all existing ones, so the list of backups is in the order of the rotations. `Ranked` is the
invariant. -/
namespace AuditTrail

/-- The backup that a rotation has made and is still working on. -/
def Rotation.Stage.backup? : Rotation.Stage → Option Path
  | .copying _ backup _ | .syncing _ backup _ _ | .discarding backup _ | .truncating _ backup _ =>
    some backup
  | .opening | .naming .. | .done _ => none

/-- Only visitors act, no request meets a fault, and no rotation reads a second before that of an earlier
backup. -/
def Site.InTurn (s : Site) : Action → Prop
  | .request v now fault => fault = none ∧ ∀ t, s.visits v = .rotating t → t.stage = .opening →
      ∀ g ∈ s.past.created, g.clock ≤ now.seconds
  | a => a.ofVisitor

theorem Site.InTurn.ofVisitor {s : Site} {a : Action} (fair : s.InTurn a) : a.ofVisitor := by
  cases a with
  | request => trivial
  | _ => exact fair

theorem Site.InTurn.honest {y : Layout} {s : Site} {a : Action} (fair : s.InTurn a) :
    s.Honest y a := by
  cases a with
  | request v now fault =>
    intro t _ spoilt faulty
    rw [fair.1] at faulty
    cases faulty
  | _ => trivial

def Site.paths (y : Layout) (s : Site) : List Path :=
  s.past.created.map fun g => Backup.path y.live g.suffix

/-- The position of a turn relative to the backups that were made. -/
def InRank (y : Layout) (s : Site) (v : Nat) (t : Turn) : Prop :=
  match t.stage with
  | .opening | .done _ => True
  | .naming _ suffix _ => (∀ g ∈ s.past.created, g.clock ≤ t.clock) ∧
      t.first = max t.clock (min (s.last (y.rotator v) + 1) Rotator.highest) ∧
      ∀ k, t.first ≤ k → k < suffix → ∃ g ∈ s.past.created, g.suffix = k
  | .copying _ backup _ | .syncing _ backup _ _ | .truncating _ backup _ =>
    s.paths y = s.past.emptied ++ [backup]
  | .discarding .. => False

structure Ranked (y : Layout) (above : Place) (s : Site) : Prop where
  opened : s.files.find true (Backup.dir y.live) = .ok ⟨above, some .directory⟩
  apart : Backup.Apart s.files y.live
  rising : s.past.created.Pairwise (·.suffix < ·.suffix)
  below : ∀ g ∈ s.past.created, g.suffix < Rotator.highest
  /-- From the second of the latest backup onwards, all suffixes up to the highest one are used. -/
  gapless : ∀ c, (∀ g ∈ s.past.created, g.clock ≤ c) → ∀ g ∈ s.past.created, ∀ k, c ≤ k → 1 ≤ k →
    k ≤ g.suffix → ∃ h ∈ s.past.created, h.suffix = k
  last : ∀ r, s.last r = 0 ∨ ∃ g ∈ s.past.created, g.suffix = s.last r
  proper : s.past.created ≠ [] → y.live.Proper
  named : ∀ g ∈ s.past.created, s.files.Names (Backup.path y.live g.suffix) g.number
  /-- Every entry with the name of a backup was made by a rotation. -/
  only : ∀ k place node, Backup.Slot s.files y.live k place → s.files.node? place = some node →
    ∃ g ∈ s.past.created, g.suffix = k ∧ node = .file g.number
  tally : (∀ v t, s.visits v = .rotating t → t.stage.backup? = none) → s.paths y = s.past.emptied
  turns : ∀ v t, s.visits v = .rotating t → InRank y s v t

variable {y : Layout} {above : Place} {initial : Bytes} {s s' : Site} {a : Action} {v w : Nat}
  {t : Turn} {f : Files} {now : Moment}

theorem Ranked.keep (ranked : Ranked y above s) (evolves : s.files.Evolves s'.files)
    (names : ∀ p n, s.files.Names p n → s'.files.Names p n)
    (slots : ∀ k place, Backup.Slot s.files y.live k place →
      s'.files.node? place = s.files.node? place)
    (created : s'.past.created = s.past.created) (last : s'.last = s.last)
    (tally : (∀ v t, s'.visits v = .rotating t → t.stage.backup? = none) →
      s'.paths y = s'.past.emptied)
    (turns : ∀ v t, s'.visits v = .rotating t → InRank y s' v t) : Ranked y above s' where
  opened := evolves.ways.opens ranked.opened
  apart := ranked.apart.same evolves.ways
  rising := by
    rw [created]
    exact ranked.rising
  below := by
    rw [created]
    exact ranked.below
  gapless := by
    rw [created]
    exact ranked.gapless
  last := by
    rw [created, last]
    exact ranked.last
  proper := by
    rw [created]
    exact ranked.proper
  named := by
    rw [created]
    exact fun g listed => names _ _ (ranked.named g listed)
  only := by
    rw [created]
    intro k place node slot there
    have before := slot.same evolves.ways.symm
    rw [slots k place before] at there
    exact ranked.only k place node before there
  tally := tally
  turns := turns

theorem InRank.keep {t' : Turn} (rank : InRank y s v t) (past : s'.past.created = s.past.created)
    (emptied : s'.past.emptied = s.past.emptied) (last : s'.last = s.last)
    (stage : t'.stage = t.stage) (clock : t'.clock = t.clock) (first : t'.first = t.first) :
    InRank y s' v t' := by
  unfold InRank Site.paths at rank ⊢
  rw [stage, clock, first, past, emptied, last]
  exact rank

theorem Ranked.revisited (ranked : Ranked y above s) {visit : Visit} (files : s'.files = s.files)
    (past : s'.past = s.past) (last : s'.last = s.last)
    (visits : s'.visits = Function.update s.visits v visit)
    (began : ∀ t, visit = .rotating t → t.stage = .opening ∨
      ∃ t', s.visits v = .rotating t' ∧ t.stage = t'.stage ∧ t.clock = t'.clock ∧ t.first = t'.first)
    (stays : ∀ t, s.visits v = .rotating t → t.stage.backup? ≠ none →
      ∃ t', visit = .rotating t' ∧ t'.stage = t.stage) : Ranked y above s' := by
  refine ranked.keep (files ▸ .refl _) ?_ ?_ (by rw [past]) last ?_ ?_
  · rw [files]
    exact fun _ _ names => names
  · rw [files]
    exact fun _ _ _ => rfl
  · intro done
    rw [Site.paths, past]
    apply ranked.tally
    intro w t turning
    by_contra busy
    by_cases same : w = v
    · subst same
      obtain ⟨t', turned, stage⟩ := stays t turning busy
      rw [← stage] at busy
      exact busy (done w t' (by rw [visits, Function.update_self, turned]))
    · exact busy (done w t (by rw [visits, Function.update_of_ne same, turning]))
  · intro w t turning
    rw [visits, Function.update_apply] at turning
    split at turning
    · next same =>
      subst same
      rcases began t turning with fresh | ⟨t', before, stage, clock, first⟩
      · unfold InRank
        rw [fresh]
        trivial
      · exact (ranked.turns w t' before).keep (by rw [past]) (by rw [past]) last stage clock first
    · exact (ranked.turns w t turning).keep (by rw [past]) (by rw [past]) last rfl rfl rfl

theorem Ranked.advance (ranked : Ranked y above s)
    (alone : ∀ w, w ≠ v → ∀ t, s.visits w ≠ .rotating t) {files : Files} {next : Rotation.Stage}
    (evolves : s.files.Evolves files) (nodes : ∀ place, files.node? place = s.files.node? place)
    (created : (s.past.after (y.rotator v) s.files t next).created = s.past.created)
    (tally : next.backup? = none →
      s.paths y = (s.past.after (y.rotator v) s.files t next).emptied)
    (own : ∀ s' : Site, s'.past = s.past.after (y.rotator v) s.files t next → s'.last = s.last →
      InRank y s' v (t.after (s.rotator y v) s.files now next)) :
    Ranked y above (s.advance y v t now files (s.last (y.rotator v)) next) := by
  have last : (s.advance y v t now files (s.last (y.rotator v)) next).last = s.last :=
    Function.update_eq_self _ _
  have turned : (s.advance y v t now files (s.last (y.rotator v)) next).visits v =
      .rotating (t.after (s.rotator y v) s.files now next) := Function.update_self ..
  refine ranked.keep evolves ?_ (fun _ place _ => nodes place) created last ?_ ?_
  · intro p n names
    exact names.keep evolves.ways fun place there => (nodes place).trans there
  · intro done
    have idle := done v _ turned
    rw [Turn.stage_after] at idle
    rw [Site.paths, Site.advance, created]
    exact tally idle
  · intro w t' turning
    by_cases same : w = v
    · subst same
      obtain rfl := Visit.rotating.inj (turned.symm.trans turning)
      exact own _ rfl last
    · simp only [Site.advance, Function.update_of_ne same] at turning
      exact absurd turning (alone w same t')

theorem Ranked.filled (ranked : Ranked y above s)
    (alone : ∀ w, w ≠ v → ∀ t, s.visits w ≠ .rotating t) (here : s.visits v = .rotating t)
    (idle : t.stage.backup? = none) : s.paths y = s.past.emptied := by
  apply ranked.tally
  intro w t' turning
  by_cases same : w = v
  · subst same
    obtain rfl := Visit.rotating.inj (here.symm.trans turning)
    exact idle
  · exact absurd turning (alone w same t')

theorem InRank.search {source suffix bound : Nat}
    (stage : t.stage = .search y.live source suffix bound)
    (rank : (∀ g ∈ s.past.created, g.clock ≤ t.clock) ∧
      t.first = max t.clock (min (s.last (y.rotator v) + 1) Rotator.highest) ∧
      ∀ k, t.first ≤ k → k < suffix → ∃ g ∈ s.past.created, g.suffix = k) : InRank y s v t := by
  unfold Rotation.Stage.search at stage
  unfold InRank
  split at stage
  · rw [stage]
    exact rank
  · rw [stage]
    trivial

theorem Ranked.made (ranked : Ranked y above s) (sound : s.files.Sound) {n k : Nat}
    (led : s.files.number y.live = .ok n) (low : k < Rotator.highest) {place : Place} {node : Node}
    (found : s.files.find false (Backup.path y.live k) = .ok ⟨place, some node⟩) :
    ∃ g ∈ s.past.created, g.suffix = k := by
  have slot := Backup.slot_of_find sound led found (Rotator.lt_size low)
  obtain ⟨g, listed, same, -⟩ := ranked.only k place node slot (Files.node?_of_find found).symm
  exact ⟨g, listed, same⟩

/-- A free suffix reached by a search is greater than the suffixes of all backups. -/
theorem Ranked.newest (ranked : Ranked y above s) (here : s.visits v = .rotating t)
    {source suffix bound : Nat} (naming : t.stage = .naming source suffix bound)
    (reached : t.first ≤ suffix) {place : Place}
    (found : s.files.find false (Backup.path y.live suffix) = .ok ⟨place, none⟩) :
    ∀ g ∈ s.past.created, g.suffix < suffix := by
  have rank := ranked.turns v t here
  simp only [InRank, naming] at rank
  obtain ⟨ahead, first, -⟩ := rank
  intro g listed
  by_contra beyond
  -- There is no gap, so `suffix` is used and its backup exists, against `found`.
  have positive : 1 ≤ t.first := by
    have limit : Rotator.highest = 18446744073709551615 := rfl
    omega
  obtain ⟨h, given, rfl⟩ := ranked.gapless t.clock ahead g listed suffix (by omega) (by omega)
    (by omega)
  obtain ⟨other, there⟩ := ranked.named h given
  rw [found] at there
  cases there

/-- A new backup beyond all others leaves no gap, because the search for its suffix left none. -/
theorem Ranked.gapless_append (ranked : Ranked y above s) {g : Creation}
    (beyond : ∀ h ∈ s.past.created, h.suffix < g.suffix) {first : Nat}
    (begins : first = max g.clock (min (s.last (y.rotator v) + 1) Rotator.highest))
    (tried : ∀ k, first ≤ k → k < g.suffix → ∃ h ∈ s.past.created, h.suffix = k) (c : Nat)
    (ahead : ∀ h ∈ s.past.created ++ [g], h.clock ≤ c) : ∀ h ∈ s.past.created ++ [g], ∀ k, c ≤ k →
      1 ≤ k → k ≤ h.suffix → ∃ i ∈ s.past.created ++ [g], i.suffix = k := by
  have before : ∀ h ∈ s.past.created, h.clock ≤ c :=
    fun h listed => ahead h (List.mem_append_left _ listed)
  have late : g.clock ≤ c := ahead g (List.mem_append_right _ (List.mem_singleton_self g))
  have old : ∀ k, (∃ h ∈ s.past.created, h.suffix = k) →
      ∃ i ∈ s.past.created ++ [g], i.suffix = k := by
    rintro k ⟨h, listed, same⟩
    exact ⟨h, List.mem_append_left _ listed, same⟩
  have within : ∀ h ∈ s.past.created, ∀ k, c ≤ k → 1 ≤ k → k ≤ h.suffix →
      ∃ i ∈ s.past.created ++ [g], i.suffix = k :=
    fun h listed k low positive high => old k (ranked.gapless c before h listed k low positive high)
  intro h listed k low positive high
  rcases List.mem_append.1 listed with earlier | new
  · exact within h earlier k low positive high
  obtain rfl := List.mem_singleton.1 new
  rcases Nat.lt_or_ge k h.suffix with less | same
  · rcases Nat.lt_or_ge k first with skipped | reached
    · rcases ranked.last (y.rotator v) with none_ | ⟨i, given, top⟩
      · omega
      · exact within i given k low positive (by omega)
    · exact old k (tried k reached less)
  · exact ⟨h, listed, by omega⟩

theorem Ranked.created (ranked : Ranked y above s) (orderly : Orderly y s)
    (alone : ∀ w, w ≠ v → ∀ t, s.visits w ≠ .rotating t) (here : s.visits v = .rotating t)
    {source suffix bound : Nat} (naming : t.stage = .naming source suffix bound)
    (led : s.files.number y.live = .ok source) {place : Place}
    (found : s.files.find false (Backup.path y.live suffix) = .ok ⟨place, none⟩)
    (creates : Creates y s v t place source suffix s') : Ranked y above s' := by
  obtain ⟨home, file⟩ := Files.number_eq_ok.1 led
  obtain ⟨proper, -⟩ := Backup.find_dir orderly.sound file (by simp)
  obtain ⟨low, searched⟩ := orderly.searched here naming
  have beyond := ranked.newest here naming searched.reached found
  have rank := ranked.turns v t here
  simp only [InRank, naming] at rank
  obtain ⟨ahead, first, tried⟩ := rank
  have free := (Files.node?_of_find found).symm
  have evolves := creates.evolves found
  have filled := ranked.filled alone here (by rw [naming]; rfl)
  refine { opened := evolves.ways.opens ranked.opened, apart := ranked.apart.same evolves.ways,
           rising := ?_, below := ?_, gapless := ?_, last := ?_, proper := fun _ => proper,
           named := ?_, only := ?_, tally := ?_, turns := ?_ }
  · rw [creates.listing, List.pairwise_append]
    refine ⟨ranked.rising, List.pairwise_singleton _ _, ?_⟩
    intro h listed g new
    obtain rfl := List.mem_singleton.1 new
    exact beyond h listed
  · intro g listed
    rcases creates.of_mem listed with old | rfl
    · exact ranked.below g old
    · exact low
  · rw [creates.listing]
    exact ranked.gapless_append beyond first tried
  · intro r
    rw [creates.last, Nat.max_eq_right (Nat.le_of_lt searched.after), Function.update_apply]
    split
    · exact .inr ⟨_, creates.new_mem, rfl⟩
    · rcases ranked.last r with zero | ⟨g, listed, same⟩
      · exact .inl zero
      · exact .inr ⟨g, creates.mem_of_old listed, same⟩
  · rw [creates.files]
    intro g listed
    rcases creates.of_mem listed with old | rfl
    · exact (ranked.named g old).addFile free
    · exact Files.names_addFile found
  · intro k other node slot there
    have before := slot.same evolves.ways.symm
    rw [creates.files, Files.node?_addFile free] at there
    split at there
    · next same =>
      subst same
      have named := Backup.head?_of_find found
      exact ⟨_, creates.new_mem, (before.eq named).symm, (Option.some.inj there).symm⟩
    · obtain ⟨g, listed, same⟩ := ranked.only k other node before there
      exact ⟨g, creates.mem_of_old listed, same⟩
  · intro done
    cases done v _ creates.own
  · intro w t' turning
    rcases creates.turning turning with ⟨rfl, rfl⟩ | ⟨other, turned⟩
    · simp only [InRank]
      rw [Site.paths, creates.listing, List.map_append, creates.emptied, ← filled]
      rfl
    · exact absurd turned (alone w other t')

section Moves

variable (ranked : Ranked y above s) (alone : ∀ w, w ≠ v → ∀ t, s.visits w ≠ .rotating t)
  (here : s.visits v = .rotating t)

include ranked alone here

theorem Ranked.search_first (was : t.stage = .opening)
    (ahead : ∀ g ∈ s.past.created, g.clock ≤ now.seconds) (source : Nat) :
    Ranked y above (s.advance y v t now s.files (s.last (y.rotator v))
      (.search y.live source ((s.rotator y v).first now) (Rotator.bound ((s.rotator y v).first now)))) := by
  have created : (s.past.after (y.rotator v) s.files t (.search y.live source ((s.rotator y v).first now)
      (Rotator.bound ((s.rotator y v).first now)))).created = s.past.created :=
    History.created_after (by simp [was])
  refine ranked.advance alone (.refl _) (fun _ => rfl) created ?_ ?_
  · intro _
    rw [History.emptied_after (by simp [was])]
    exact ranked.filled alone here (by rw [was]; rfl)
  · intro s' past last
    have begins : (s.rotator y v).first now =
        max now.seconds (min (s'.last (y.rotator v) + 1) Rotator.highest) := by
      rw [last, Site.rotator, Rotator.first]
    have before : ∀ g ∈ s'.past.created, g.clock ≤ now.seconds := by
      rw [past, created]
      exact ahead
    rw [Turn.after_opening was]
    generalize (s.rotator y v).first now = suffix at begins
    generalize Rotator.bound suffix = bound
    refine InRank.search rfl ⟨before, begins, ?_⟩
    intro k low high
    exact absurd low (Nat.not_le.2 high)

theorem Ranked.search_next (orderly : Orderly y s) {source suffix bound : Nat}
    (was : t.stage = .naming source suffix bound) (led : s.files.number y.live = .ok source)
    {place : Place} {node : Node}
    (found : s.files.find false (Backup.path y.live suffix) = .ok ⟨place, some node⟩) :
    Ranked y above (s.advance y v t now s.files (s.last (y.rotator v))
      (.search y.live source (suffix + 1) bound)) := by
  have rank := ranked.turns v t here
  simp only [InRank, was] at rank
  obtain ⟨before, first, tried⟩ := rank
  obtain ⟨low, -⟩ := orderly.searched here was
  have created : (s.past.after (y.rotator v) s.files t (.search y.live source (suffix + 1) bound)).created =
      s.past.created := History.created_after fun _ _ _ _ _ _ _ => Rotation.Stage.search_ne_copying
  refine ranked.advance alone (.refl _) (fun _ => rfl) created ?_ ?_
  · intro _
    rw [History.emptied_after (by simp [was])]
    exact ranked.filled alone here (by rw [was]; rfl)
  · intro s' past last
    rw [Turn.after_naming was fun _ _ _ => Rotation.Stage.search_ne_copying]
    refine InRank.search rfl ⟨?_, ?_, ?_⟩
    · rw [past, created]
      exact before
    · rw [last]
      exact first
    · rw [past, created]
      intro k reached less
      rcases Nat.lt_or_ge k suffix with below | same
      · exact tried k reached below
      · obtain rfl : k = suffix := by omega
        exact ranked.made orderly.sound led low found

theorem Ranked.fail {failure : Failure}
    (early : t.stage = .opening ∨ ∃ source suffix bound, t.stage = .naming source suffix bound) :
    Ranked y above (s.advance y v t now s.files (s.last (y.rotator v)) (.done (.error failure))) := by
  have idle : t.stage.backup? = none ∧ ∀ source backup bytes, t.stage ≠ .truncating source backup bytes := by
    rcases early with was | ⟨source, suffix, bound, was⟩ <;> rw [was] <;> exact ⟨rfl, by simp⟩
  refine ranked.advance alone (.refl _) (fun _ => rfl)
    (History.created_after fun _ _ _ _ _ _ _ => (by simp)) ?_ ?_
  · intro _
    rw [History.emptied_after idle.2]
    exact ranked.filled alone here idle.1
  · intro s' _ _
    unfold InRank
    rw [Turn.stage_after]
    trivial

omit here in
/-- A step of a rotation that works on its backup only. -/
theorem Ranked.fill {backup : Path} {files : Files} {next : Rotation.Stage}
    (evolves : s.files.Evolves files) (nodes : ∀ place, files.node? place = s.files.node? place)
    (late : t.stage ≠ .opening ∧ ∀ source suffix bound, t.stage ≠ .naming source suffix bound)
    (still : ∀ source backup bytes, t.stage ≠ .truncating source backup bytes)
    (has : next.backup? = some backup) (filling : ∀ cause, next ≠ .discarding backup cause)
    (rank : s.paths y = s.past.emptied ++ [backup]) :
    Ranked y above (s.advance y v t now files (s.last (y.rotator v)) next) := by
  have created : (s.past.after (y.rotator v) s.files t next).created = s.past.created :=
    History.created_after fun source suffix bound was => absurd was (late.2 source suffix bound)
  refine ranked.advance alone evolves nodes created (by rw [has]; rintro ⟨⟩) ?_
  intro s' past _
  rw [Turn.after_later late.1 late.2]
  cases next with
  | copying | syncing | truncating =>
    obtain rfl := Option.some.inj has
    simp only [InRank, Site.paths]
    rw [past, created, History.emptied_after still]
    exact rank
  | discarding _ cause =>
    obtain rfl := Option.some.inj has
    exact absurd rfl (filling cause)
  | opening | naming | done => cases has

theorem Ranked.empty {source bytes : Nat} {backup : Path} (was : t.stage = .truncating source backup bytes) :
    Ranked y above (s.advance y v t now (s.files.revise source fun _ => []) (s.last (y.rotator v))
      (.done (.ok ⟨backup, bytes⟩))) := by
  have rank := ranked.turns v t here
  simp only [InRank, was] at rank
  refine ranked.advance alone (.revise _) (fun _ => Files.node?_revise _)
    (History.created_after (by simp [was])) ?_ ?_
  · intro _
    simp only [History.after, was]
    exact rank
  · intro s' _ _
    unfold InRank
    rw [Turn.stage_after]
    trivial

theorem Ranked.move (orderly : Orderly y s) (ledger : Ledger y initial s)
    (ahead : t.stage = .opening → ∀ g ∈ s.past.created, g.clock ≤ now.seconds) {files : Files}
    {last : Nat} {next : Rotation.Stage}
    (smooth : Rotation.Smooth (s.rotator y v) now s.files t.stage files last next) :
    Ranked y above (s.advance y v t now files last next) := by
  have rank := ranked.turns v t here
  have faithful := ledger.turns v t here
  unfold InRank at rank
  generalize was : t.stage = stage at smooth rank faithful ahead
  cases smooth with
  | opened => exact ranked.search_first alone here was (ahead rfl) _
  | created found => exact ranked.created orderly alone here was faithful found (.advance was now)
  | taken found => exact ranked.search_next alone here orderly was faithful found
  | failed early => exact ranked.fail alone here (was ▸ early)
  | copied =>
    exact ranked.fill alone (.revise _) (fun _ => Files.node?_revise _) (by simp [was]) (by simp [was])
      rfl (by simp) rank
  | synced =>
    exact ranked.fill alone (.refl _) (fun _ => rfl) (by simp [was]) (by simp [was]) rfl (by simp) rank
  | emptied => exact ranked.empty alone here was

end Moves

theorem Ranked.append (ranked : Ranked y above s) {bytes : Bytes} {files : Files}
    (appended : s.files.append y.live bytes = .ok files) :
    Ranked y above { s with files, past := { s.past with written := s.past.written ++ bytes } } := by
  refine ranked.keep (.append appended) ?_ ?_ rfl rfl ranked.tally ?_
  · intro p n names
    rcases Files.append_cases appended with ⟨place, found, rfl⟩ | ⟨n, -, rfl⟩
    · exact names.addFile (Files.node?_of_find found).symm
    · exact names.revise _
  · intro k place slot
    rcases Files.append_cases appended with ⟨new, found, rfl⟩ | ⟨n, -, rfl⟩
    · rw [Files.node?_addFile (Files.node?_of_find found).symm, if_neg]
      rintro rfl
      cases ranked.apart k place none slot found
    · exact Files.node?_revise _
  · intro w t turning
    exact (ranked.turns w t turning).keep rfl rfl rfl rfl rfl rfl

theorem Ranked.request (ranked : Ranked y above s) (orderly : Orderly y s) (ledger : Ledger y initial s)
    (shared : ∀ v w, y.lockOf v = y.lockOf w) (here : s.visits v = .rotating t)
    (asks : (t.stage.asks y.live).isSome)
    (ahead : t.stage = .opening → ∀ g ∈ s.past.created, g.clock ≤ now.seconds) :
    Ranked y above (s.request y v t now none) := by
  have inside : (s.visits v).inside := by
    rw [here]
    trivial
  have alone : ∀ w, w ≠ v → ∀ t, s.visits w ≠ .rotating t :=
    fun w other t => ledger.unturned shared inside other
  have faithful := ledger.turns v t here
  have rank := ranked.turns v t here
  refine ranked.move alone here orderly ledger ahead
    (Rotation.step_smooth (w := s.rotation y v t) now asks ?_ ?_ ?_)
  · intro backup cause discarding
    change t.stage = _ at discarding
    simp only [InRank, discarding] at rank
  · intro source backup target copying
    change t.stage = _ at copying
    rw [copying] at faithful
    exact ⟨_, ledger.contentOf faithful.1.opened⟩
  · intro source backup bytes truncating
    change t.stage = _ at truncating
    rw [truncating] at faithful
    obtain ⟨target, detached, -⟩ := faithful
    exact ledger.plain source detached.opened

theorem Step.ranked (step : Step y s a s') (fair : s.InTurn a)
    (shared : ∀ v w, y.lockOf v = y.lockOf w) (orderly : Orderly y s) (ledger : Ledger y initial s)
    (ranked : Ranked y above s) : Ranked y above s' := by
  cases step with
  | ask here | forgo here | write here | leave here =>
    refine ranked.revisited rfl rfl rfl rfl (fun _ turning => by cases turning) fun t turning _ => ?_
    cases here.symm.trans turning
  | rotate here granted =>
    refine ranked.revisited rfl rfl rfl rfl (fun t turning => ?_) fun t turning _ => ?_
    · exact .inl (Visit.rotating.inj turning ▸ rfl)
    · cases here.symm.trans turning
  | forget here =>
    refine ranked.revisited rfl rfl rfl rfl (fun t turning => ?_) fun t turning _ => ?_
    · exact .inr ⟨_, here, Visit.rotating.inj turning ▸ ⟨rfl, rfl, rfl⟩⟩
    · exact ⟨_, rfl, Visit.rotating.inj (here.symm.trans turning) ▸ rfl⟩
  | finish here ended =>
    refine ranked.revisited rfl rfl rfl rfl (fun _ turning => by cases turning) fun t turning busy => ?_
    rw [← Visit.rotating.inj (here.symm.trans turning), ended] at busy
    exact absurd rfl busy
  | append here appended => exact ranked.append appended
  | piece here copying readable =>
    refine ranked.keep (.revise _) (fun _ _ names => names.revise _) ?_ rfl rfl ranked.tally ?_
    · exact fun _ _ _ => Files.node?_revise _
    · intro w t turning
      exact (ranked.turns w t turning).keep rfl rfl rfl rfl rfl rfl
  | request here asks =>
    obtain ⟨rfl, ahead⟩ := fair
    exact ranked.request orderly ledger shared here asks (ahead _ here)
  | sweep | expel | appear | vanish => exact fair.elim

theorem Ranked.origin (opened : f.find true (Backup.dir y.live) = .ok ⟨above, some .directory⟩)
    (apart : Backup.Apart f y.live)
    (bare : ∀ k place, Backup.Slot f y.live k place → f.node? place = none) :
    Ranked y above { files := f } where
  opened := opened
  apart := apart
  rising := .nil
  below _ listed := absurd listed List.not_mem_nil
  gapless _ _ _ listed := absurd listed List.not_mem_nil
  last _ := .inl rfl
  proper none_ := absurd rfl none_
  named _ listed := absurd listed List.not_mem_nil
  only k place _ slot there := nomatch (bare k place slot).symm.trans there
  tally _ := rfl
  turns _ _ turning := nomatch turning

theorem Run.ranked {start : Site} (run : Run y Site.InTurn start s)
    (shared : ∀ v w, y.lockOf v = y.lockOf w) (orderly : Orderly y start)
    (ledger : Ledger y initial start) (ranked : Ranked y above start) :
    Orderly y s ∧ Ledger y initial s ∧ Ranked y above s := by
  induction run with
  | here => exact ⟨orderly, ledger, ranked⟩
  | next _ fair step ih =>
    obtain ⟨orderly, ledger, ranked⟩ := ih
    exact ⟨(step.orderly fair.honest orderly).2, (step.ledger fair.ofVisitor shared ledger).1,
      step.ranked fair shared orderly ledger ranked⟩

def Creation.listed (live : Path) (g : Creation) : Backup.Listed :=
  ⟨(Backup.dir live).join (Backup.name live g.suffix), g.suffix⟩

theorem Ranked.list (ranked : Ranked y above s) (orderly : Orderly y s) (ledger : Ledger y initial s)
    {base : Bytes} (named : y.live.fileName? = some base) (text : (Utf8.decode? base).isSome)
    (filled : s.paths y = s.past.emptied) :
    Backup.list s.files y.live = .ok (s.past.created.map (·.listed y.live)) := by
  refine Backup.list_eq orderly.sound named text ranked.opened ?_ fun b => ?_
  · exact List.pairwise_map.2 ranked.rising
  rw [List.mem_map]
  constructor
  · rintro ⟨g, given, rfl⟩
    have proper := ranked.proper (List.ne_nil_of_mem given)
    obtain rfl := Option.some.inj (proper.parts.1.symm.trans named)
    obtain ⟨place, found⟩ := ranked.named g given
    have standing := Backup.find_path proper ranked.opened found
    obtain ⟨-, there⟩ := Files.Found.mk.inj standing
    have counted : Backup.path y.live g.suffix ∈ s.past.emptied := by
      rw [← filled]
      exact List.mem_map.2 ⟨g, given, rfl⟩
    have regular := (ledger.regular _ counted).inode? (Files.Names.number ⟨place, found⟩)
    refine ⟨_, _, there.symm, Backup.ofEntry_eq_some.2 ⟨?_, ?_, ?_, rfl⟩⟩
    · simp only [Files.isRegular, regular]
    · exact Backup.decode?_name text g.suffix
    · exact Backup.timestamp?_name y.live (Rotator.lt_size (ranked.below g given))
  · rintro ⟨entry, node, there, counted⟩
    obtain ⟨-, -, dated, path⟩ := Backup.ofEntry_eq_some.1 counted
    obtain ⟨g, given, same, rfl⟩ :=
      ranked.only b.timestamp _ node ⟨base, entry, above, named, dated, ranked.opened, rfl⟩ there
    have spelled := Backup.head?_of_find (orderly.home g given _ there)
    refine ⟨g, given, ?_⟩
    obtain ⟨path', timestamp⟩ := b
    simp only at same path
    rw [path, Option.some.inj spelled, ← same]
    rfl

theorem Ranked.text_listed (ranked : Ranked y above s) {g : Creation} (given : g ∈ s.past.created) :
    s.files.text (g.listed y.live).path = s.files.text (Backup.path y.live g.suffix) := by
  have proper := ranked.proper (List.ne_nil_of_mem given)
  obtain ⟨place, found⟩ := ranked.named g given
  have entry := Backup.find_entry proper ranked.opened found
  have one : s.files.number (g.listed y.live).path = .ok g.number := Files.Names.number ⟨place, entry⟩
  have other : s.files.number (Backup.path y.live g.suffix) = .ok g.number :=
    Files.Names.number ⟨place, found⟩
  rw [Files.text, Files.text, Files.read, Files.read, one, other]

/-- New backups are the newest, and the listed backups followed by the live log hold everything written. -/
structure InOrder (y : Layout) (initial : Bytes) (s : Site) : Prop where
  newest : ∀ a s' g, Step y s a s' → s.InTurn a → s'.past.created = s.past.created ++ [g] →
    ∀ k place, Backup.Slot s.files y.live k place → s.files.node? place ≠ none → k < g.suffix
  whole : (∀ v t, s.visits v = .rotating t → t.stage.backup? = none) →
    ∃ backups, Backup.list s.files y.live = .ok backups ∧
      backups.map (·.timestamp) = s.past.created.map (·.suffix) ∧
      backups.flatMap (s.files.text ·.path) ++ s.files.text y.live = initial ++ s.past.written

/-- If the clock never goes back, every new backup has a larger suffix than all earlier ones, whichever
rotator made it. The backups in the order of their suffixes, followed by the live log, hold the initial
content and everything appended. -/
theorem backups_in_order {base : Bytes} (sound : f.Sound) (plain : f.Plain y.live)
    (shared : ∀ v w, y.lockOf v = y.lockOf w) (named : y.live.fileName? = some base)
    (text : (Utf8.decode? base).isSome)
    (opened : f.find true (Backup.dir y.live) = .ok ⟨above, some .directory⟩)
    (bare : ∀ k place, Backup.Slot f y.live k place → f.node? place = none)
    (apart : Backup.Apart f y.live) (run : Run y Site.InTurn { files := f } s) :
    InOrder y (f.text y.live) s := by
  obtain ⟨orderly, ledger, ranked⟩ := run.ranked shared (.origin sound) (.origin sound plain)
    (.origin opened apart bare)
  constructor
  · intro a s' g step fair made k place slot present
    obtain ⟨node, there⟩ := Option.ne_none_iff_exists'.1 present
    obtain ⟨h, given, rfl, -⟩ := ranked.only k place node slot there
    have rising := (step.ranked fair shared orderly ledger ranked).rising
    rw [made, List.pairwise_append] at rising
    exact rising.2.2 h given g (List.mem_singleton_self g)
  · intro idle
    have filled := ranked.tally idle
    refine ⟨_, ranked.list orderly ledger named text filled, ?_, ?_⟩
    · rw [List.map_map]
      rfl
    · have same : s.past.emptied.flatMap s.files.text =
          (s.past.created.map (·.listed y.live)).flatMap (s.files.text ·.path) := by
        rw [← filled, Site.paths, List.flatMap_map, List.flatMap_map]
        exact List.flatMap_congr fun g given => (ranked.text_listed given).symm
      rw [← same]
      exact ledger.balance

theorem backups_in_order_turns : ∃ s : Site,
    Run ⟨⟨[0x61]⟩, id, fun _ => 0⟩ Site.InTurn { files := .single [0x61] [0x78] } s ∧
    s.past.created.map (fun g => (g.rotator, g.suffix)) = [(0, 5), (1, 6), (0, 7)] ∧
    InOrder ⟨⟨[0x61]⟩, id, fun _ => 0⟩ [0x78] s := by
  let y : Layout := ⟨⟨[0x61]⟩, id, fun _ => 0⟩
  let f : Files := .single [0x61] [0x78]
  let request (v : Nat) : Action := .request v ⟨5000000000⟩ none
  let turn (v tries : Nat) : List Action :=
    [.ask v, .rotate v] ++ List.replicate (5 + tries) (request v) ++ [.finish v]
  let actions : List Action := turn 0 0 ++ turn 1 1 ++ turn 0 1
  let check (s : Site) : Action → Bool
    | .request _ now fault => fault.isNone && s.past.created.all (·.clock ≤ now.seconds)
    | .ask _ | .rotate _ | .finish _ => true
    | _ => false
  have checks : ∀ s a, check s a = true → s.InTurn a := by
    intro s a passed
    cases a with
    | request v now fault =>
      simp only [check, Bool.and_eq_true, Option.isNone_iff_eq_none, List.all_eq_true,
        decide_eq_true_eq] at passed
      exact ⟨passed.1, fun _ _ _ => passed.2⟩
    | ask | rotate | finish => trivial
    | _ => cases passed
  have ends : (Site.playIf y check { files := f } actions).map
      (fun s => s.past.created.map fun g => (g.rotator, g.suffix)) =
      some [(0, 5), (1, 6), (0, 7)] := by decide +kernel
  obtain ⟨s, played, suffixes⟩ := Option.map_eq_some_iff.1 ends
  have run : Run y Site.InTurn { files := f } s := Site.run_of_playIf .here checks played
  have sound : f.Sound := Files.sound_single _ _
  have leads : f.find false y.live = .ok ⟨[[0x61]], some (.file 0)⟩ := rfl
  have names : f.Names y.live 0 := ⟨_, leads⟩
  have plain : f.Plain y.live := Files.plain_of_number names.number rfl
  have apart : Backup.Apart f y.live := Backup.apart_of_names sound names
  obtain ⟨proper, above, opened⟩ := Backup.find_dir sound leads (by simp)
  have bare : ∀ k place, Backup.Slot f y.live k place → f.node? place = none := by
    intro k place slot
    have other := slot.head?_ne proper
    obtain ⟨base, entry, above, -, -, -, rfl⟩ := slot
    rw [Files.node?_single _ _ (List.cons_ne_nil _ _), if_neg]
    intro same
    rw [same] at other
    exact other rfl
  have order := backups_in_order sound plain (fun _ _ => rfl) proper.parts.1
    (by decide +kernel) opened bare apart run
  exact ⟨s, run, suffixes, order⟩

/-- If the live path is a link to the name of a backup, the live log is listed as its own backup. -/
theorem not_in_order_linked : ∃ (f : Files) (above : Place) (s : Site),
    f.Sound ∧ f.Plain ⟨[0x61]⟩ ∧ Path.fileName? ⟨[0x61]⟩ = some [0x61] ∧
    (Utf8.decode? [0x61]).isSome ∧
    f.find true (Backup.dir ⟨[0x61]⟩) = .ok ⟨above, some .directory⟩ ∧
    (∀ k place, Backup.Slot f ⟨[0x61]⟩ k place → f.node? place = none) ∧
    Run (.lone ⟨[0x61]⟩) Site.InTurn { files := f } s ∧
    (∀ v t, s.visits v ≠ .rotating t) ∧
    Backup.list s.files ⟨[0x61]⟩ = .ok [⟨⟨[0x2e, 0x2f, 0x61, 0x2e, 0x35]⟩, 5⟩] ∧
    ¬ InOrder (.lone ⟨[0x61]⟩) (f.text ⟨[0x61]⟩) s := by
  let y : Layout := .lone ⟨[0x61]⟩
  let f : Files := .linked [0x61] ⟨[0x61, 0x2e, 0x35]⟩
  let grown : Files := f.addFile [[0x61, 0x2e, 0x35]] [0x78]
  have sound : f.Sound := Files.sound_linked _ _
  have plain : f.Plain y.live := nofun
  have leads : f.find true y.live = .ok ⟨[[0x61, 0x2e, 0x35]], none⟩ := rfl
  obtain ⟨proper, above, opened⟩ := Backup.find_dir sound leads (by simp)
  have bare : ∀ k place, Backup.Slot f y.live k place → f.node? place = none := by
    intro k place slot
    have other := slot.head?_ne proper
    obtain ⟨base, entry, above, -, -, -, rfl⟩ := slot
    rw [Files.node?_linked _ _ (List.cons_ne_nil _ _), if_neg]
    intro same
    rw [same] at other
    exact other rfl
  let waiting : Site :=
    (({ files := f } : Site).relock (y.lockOf 0) (·.request 0)).visit 0 .waiting
  let writing : Site := waiting.visit 0 .writing
  let written : Site := { writing with files := grown, past := { written := [0x78] } }
  have ask : Step y { files := f } (.ask 0) waiting := .ask rfl
  have write : Step y waiting (.write 0) writing := .write rfl rfl
  have append : Step y writing (.append 0 [0x78]) written := .append rfl rfl
  have run : Run y Site.InTurn { files := f } written := by
    refine ((Run.here.next ?_ ask).next ?_ write).next ?_ append
    all_goals trivial
  have still : ∀ v t, written.visits v ≠ .rotating t := by
    intro v t turning
    simp only [written, writing, waiting, Site.visits_visit, Site.visits_relock] at turning
    split at turning <;> cases turning
  have shown : Backup.list grown y.live = .ok [⟨⟨[0x2e, 0x2f, 0x61, 0x2e, 0x35]⟩, 5⟩] :=
    ok_of_toOption (by decide +kernel)
  refine ⟨f, above, written, sound, plain, proper.parts.1, by decide +kernel, opened, bare, run,
    still, shown, ?_⟩
  intro order
  obtain ⟨backups, listed, -, whole⟩ := order.whole fun v t turning => absurd turning (still v t)
  obtain rfl := Except.ok.inj (shown.symm.trans listed)
  revert whole
  decide +kernel

end AuditTrail
