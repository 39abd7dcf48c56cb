import AuditTrail.Proofs.Naming
import AuditTrail.Proofs.Site.Suffixes
import Mathlib.Data.Finset.Card
import Mathlib.Data.Nat.Digits.Defs

/-! Finished backups stay as they are. A rotation leaves every entry that stood there before it,
and every content but that of the live log. So a backup with which its rotation is done never
changes, unless the live path is a link to it. A rotation that finds no free name has met a foreign
entry under each name it tried. -/
namespace AuditTrail

/-- Files numbered below `since` are unchanged, except for the content of one. -/
structure Files.Spares (f g : Files) (since : Nat) (but : Option Nat) : Prop where
  entries : ∀ place node, f.node? place = some node → (∀ n, node = .file n → n < since) →
    g.node? place = some node
  contents : ∀ n, n < since → but ≠ some n → g.inode? n = f.inode? n

/-- The visitor whose rotation an action carries on. -/
def Action.turner : Action → Option Nat
  | .request v _ _ | .piece v _ => some v
  | _ => none

variable {y : Layout} {s s' : Site} {a : Action} {v w n : Nat} {t t' : Turn} {f : Files}

section Move

variable {r : Rotator} {now : Moment} {fault : Option Files.Fault} {files : Files} {last : Nat}
  {next : Rotation.Stage}

theorem Orderly.entries_move (orderly : Orderly y s) (here : s.visits v = .rotating t)
    (move : Rotation.Move (s.rotator y v) now fault s.files t.stage files last next) {place : Place}
    {node : Node} (there : s.files.node? place = some node) (old : ∀ n, node = .file n → n < t.since) :
    files.node? place = some node := by
  have poised := (orderly.turns v t here).poised
  unfold Poised at poised
  generalize was : t.stage = stage at move poised
  cases move with
  | opened | unopened | taken | uncreated | unread | synced | unsynced | kept | unemptied =>
    exact there
  | created found => exact Files.stays_addFile (Files.node?_of_find found).symm there
  | copied | broken | emptied =>
    rw [Files.node?_revise]
    exact there
  | @removed backup cause place' node' found leaf =>
    obtain ⟨n, young, file⟩ := (poised _ found).resolve_left (by simp)
    have gone : s.files.node? place' = some (.file n) := (Files.node?_of_find found).symm.trans file
    rw [Files.node?_erase (Files.ne_root_of_file gone), if_neg]
    · exact there
    · rintro rfl
      rw [gone] at there
      have early := old n (Option.some.inj there).symm
      omega

theorem Orderly.contents_move (orderly : Orderly y s) (here : s.visits v = .rotating t)
    (move : Rotation.Move (s.rotator y v) now fault s.files t.stage files last next)
    (early : n < s.files.inodes.length) (unopened : t.opened ≠ some n) (unmade : t.made ≠ some n) :
    files.inode? n = s.files.inode? n := by
  have poised := (orderly.turns v t here).poised
  unfold Poised at poised
  generalize was : t.stage = stage at move poised
  cases move with
  | opened | unopened | taken | uncreated | unread | synced | unsynced | kept | unemptied
  | removed => rfl
  | created found => rw [Files.inode?_addFile, if_neg (Nat.ne_of_lt early)]
  | copied | broken =>
    obtain ⟨-, made, -⟩ := poised
    apply Files.inode?_revise_other
    rintro rfl
    exact unmade made
  | emptied =>
    apply Files.inode?_revise_other
    rintro rfl
    exact unopened poised

theorem Turn.after_cases (move : Rotation.Move r now fault f t.stage files last next) :
    ((t.after r f now next).made = t.made ∨
      (t.after r f now next).made = some f.inodes.length) ∧
    ((t.after r f now next).opened = t.opened ∨
      (t.after r f now next).opened = (f.number r.live).toOption) ∧
    ∀ e ∈ (t.after r f now next).met, e ∈ t.met ∨ ∃ source bound,
      t.stage = .naming source e.1 bound ∧ f.occupant (Backup.path r.live e.1) = some e.2 := by
  generalize was : t.stage = stage at move
  have tried : ∀ suffix, ∀ e ∈ t.met ++
      ((f.occupant (Backup.path r.live suffix)).map (suffix, ·)).toList, e ∈ t.met ∨
        e.1 = suffix ∧ f.occupant (Backup.path r.live e.1) = some e.2 := by
    intro suffix e listed
    rcases List.mem_append.1 listed with before | new
    · exact .inl before
    · obtain ⟨node, occupied, rfl⟩ := Option.map_eq_some_iff.1 (Option.mem_toList.1 new)
      exact .inr ⟨rfl, occupied⟩
  cases move with
  | opened | unopened =>
    rw [Turn.after_opening was]
    exact ⟨.inl rfl, .inr rfl, fun e listed => .inl listed⟩
  | created =>
    rw [Turn.after_created was]
    exact ⟨.inr rfl, .inl rfl, fun e listed => .inl listed⟩
  | @taken source suffix bound =>
    rw [Turn.after_naming was fun _ _ _ => Rotation.Stage.search_ne_copying]
    refine ⟨.inl rfl, .inl rfl, fun e listed => ?_⟩
    exact (tried suffix e listed).imp_right
      fun ⟨same, occupied⟩ => ⟨source, bound, same ▸ rfl, occupied⟩
  | @uncreated source suffix bound =>
    rw [Turn.after_naming was]
    · refine ⟨.inl rfl, .inl rfl, fun e listed => ?_⟩
      exact (tried suffix e listed).imp_right
        fun ⟨same, occupied⟩ => ⟨source, bound, same ▸ rfl, occupied⟩
    · exact fun _ _ _ => nofun
  | copied | broken | unread | synced | unsynced | removed | kept | emptied | unemptied =>
    rw [Turn.after_later (by simp [was]) (by simp [was])]
    exact ⟨.inl rfl, .inl rfl, fun e listed => .inl listed⟩

end Move

theorem Orderly.spares (orderly : Orderly y s) (step : Step y s a s') (own : a.turner = some v)
    (here : s.visits v = .rotating t) : s.files.Spares s'.files t.since t.opened := by
  obtain ⟨traced, poised⟩ := orderly.turns v t here
  have unmade : ∀ n, n < t.since → t.made ≠ some n := by
    intro n early made
    have late := traced.made n made
    omega
  cases step with
  | @request v' t' now fault here' asks =>
    obtain rfl := Option.some.inj own
    obtain rfl := Visit.rotating.inj (here.symm.trans here')
    obtain ⟨files, last, next, move, made⟩ := Site.request_move v' now fault asks
    rw [made]
    refine ⟨fun place node there old => orderly.entries_move here move there old, ?_⟩
    intro n early unopened
    have since := traced.since
    exact orderly.contents_move here move (by omega) unopened (unmade n early)
  | piece here' copying readable =>
    obtain rfl := Option.some.inj own
    obtain rfl := Visit.rotating.inj (here.symm.trans here')
    simp only [Poised, copying] at poised
    obtain ⟨-, made, -⟩ := poised
    refine ⟨fun place node there _ => (Files.node?_revise _).trans there, fun n early _ => ?_⟩
    apply Files.inode?_revise_other
    rintro rfl
    exact unmade _ early made
  | _ => cases own

theorem Step.turning (step : Step y s a s') (turning : s'.visits v = .rotating t') :
    t' = { since := s.files.inodes.length } ∨ ∃ t, s.visits v = .rotating t ∧
      (t' = t ∨ t' = { t with awaited := false } ∨ ∃ now fault files last next,
        Rotation.Move (s.rotator y v) now fault s.files t.stage files last next ∧
        t' = t.after (s.rotator y v) s.files now next) := by
  cases step with
  | ask | forgo | write | leave | finish =>
    simp only [Site.visits_visit, Site.visits_relock] at turning
    split at turning
    · cases turning
    · exact .inr ⟨t', turning, .inl rfl⟩
  | rotate =>
    simp only [Site.visits_visit] at turning
    split at turning
    · exact .inl (Visit.rotating.inj turning).symm
    · exact .inr ⟨t', turning, .inl rfl⟩
  | forget here =>
    simp only [Site.visits_visit] at turning
    split at turning
    · next same =>
      subst same
      exact .inr ⟨_, here, .inr (.inl (Visit.rotating.inj turning).symm)⟩
    · exact .inr ⟨t', turning, .inl rfl⟩
  | @request v' t now fault here asks =>
    obtain ⟨files, last, next, move, made⟩ := Site.request_move v' now fault asks
    rw [made] at turning
    simp only [Site.advance, Function.update_apply] at turning
    split at turning
    · next same =>
      subst same
      exact .inr ⟨t, here, .inr (.inr ⟨now, fault, files, last, next, move,
        (Visit.rotating.inj turning).symm⟩)⟩
    · exact .inr ⟨t', turning, .inl rfl⟩
  | append | piece | sweep | expel | appear | vanish => exact .inr ⟨t', turning, .inl rfl⟩

/-- No rotation works on the file, and the live path does not lead to it. -/
structure Settled (y : Layout) (s : Site) (n : Nat) : Prop where
  old : n < s.files.inodes.length
  unmade : ∀ v t, s.visits v = .rotating t → t.made ≠ some n
  unopened : ∀ v t, s.visits v = .rotating t → t.opened ≠ some n
  unled : s.files.number y.live ≠ .ok n

theorem Settled.unled_evolves (settled : Settled y s n) (evolves : s.files.Evolves f) :
    f.number y.live ≠ .ok n := by
  intro leads
  obtain ⟨place, found⟩ := Files.number_eq_ok.1 leads
  rcases evolves.places place n (Files.node?_of_find found).symm with before | late
  · have back := evolves.ways.symm.find found
    rw [before] at back
    exact settled.unled (Files.number_eq_ok.2 ⟨place, back⟩)
  · have old := settled.old
    omega

theorem Settled.inode? (settled : Settled y s n) (orderly : Orderly y s) (step : Step y s a s') :
    s'.files.inode? n = s.files.inode? n := by
  cases step with
  | @request v t now fault here asks =>
    obtain ⟨files, last, next, move, made⟩ := Site.request_move v now fault asks
    rw [made]
    exact orderly.contents_move here move settled.old (settled.unopened v t here)
      (settled.unmade v t here)
  | @append v bytes files here appended =>
    rcases Files.append_cases appended with ⟨place, found, rfl⟩ | ⟨m, leads, rfl⟩
    · rw [Files.inode?_addFile, if_neg (Nat.ne_of_lt settled.old)]
    · apply Files.inode?_revise_other
      rintro rfl
      exact settled.unled leads
  | @piece v moved source target backup content t here copying readable =>
    have poised := (orderly.turns v t here).poised
    simp only [Poised, copying] at poised
    apply Files.inode?_revise_other
    rintro rfl
    exact settled.unmade v t here poised.2.1
  | @expel k fault =>
    rcases (Sweep.step_cases (orderly.linkFree k) fault).2 with same | ⟨place, m, file, gone⟩
    · simp only [same]
    · simp only [gone, Files.inode?_erase]
  | @appear place content free =>
    rw [Files.inode?_addFile, if_neg (Nat.ne_of_lt settled.old)]
  | ask | forgo | write | leave | rotate | forget | finish | sweep | vanish => rfl

theorem Settled.step (settled : Settled y s n) (step : Step y s a s')
    (evolves : s.files.Evolves s'.files) : Settled y s' n := by
  refine ⟨?_, ?_, ?_, settled.unled_evolves evolves⟩
  · have old := settled.old
    have grows := evolves.grows
    omega
  · intro v t' turning made
    rcases step.turning turning with
      rfl | ⟨t, here, rfl | rfl | ⟨now, fault, files, last, next, move, rfl⟩⟩
    · cases made
    · exact settled.unmade v t' here made
    · exact settled.unmade v t here made
    · rcases (Turn.after_cases move).1 with same | new
      · exact settled.unmade v t here (same.symm.trans made)
      · exact Nat.ne_of_lt settled.old (Option.some.inj (made.symm.trans new))
  · intro v t' turning opened
    rcases step.turning turning with
      rfl | ⟨t, here, rfl | rfl | ⟨now, fault, files, last, next, move, rfl⟩⟩
    · cases opened
    · exact settled.unopened v t' here opened
    · exact settled.unopened v t here opened
    · rcases (Turn.after_cases move).2.1 with same | read
      · exact settled.unopened v t here (same.symm.trans opened)
      · exact settled.unled (ok_of_toOption (read.symm.trans opened))

theorem Orderly.linked (orderly : Orderly y s) {g : Creation} (listed : g ∈ s.past.created)
    (leads : s.files.number y.live = .ok g.number) :
    ∃ place target, s.files.find false y.live = .ok ⟨place, some (.link target)⟩ := by
  obtain ⟨place, found⟩ := Files.number_eq_ok.1 leads
  rcases Files.find_stopping found with stops | linked
  · have named := Backup.head?_of_find (orderly.home g listed place (Files.node?_of_find found).symm)
    exact absurd named (Backup.head?_ne_name orderly.sound stops)
  · exact linked

theorem Orderly.settled (orderly : Orderly y s) {g : Creation} (listed : g ∈ s.past.created)
    (finished : ∀ v t, s.visits v = .rotating t → t.made ≠ some g.number)
    (present : s.files.Names (Backup.path y.live g.suffix) g.number)
    (unled : s.files.number y.live ≠ .ok g.number) : Settled y s g.number := by
  refine ⟨orderly.numbered g listed, finished, ?_, unled⟩
  intro v t turning opened
  obtain ⟨place, found⟩ := present
  have there := (Files.node?_of_find found).symm
  obtain ⟨node?, leads⟩ := (orderly.turns v t turning).traced.led g listed opened place there
  obtain rfl : node? = some (.file g.number) := (Files.node?_of_find leads).trans there
  exact unled (Files.number_eq_ok.2 ⟨place, leads⟩)

theorem Run.settled {allowed : Site → Action → Prop} (honest : ∀ s a, allowed s a → s.Honest y a)
    (run : Run y allowed s s') (orderly : Orderly y s) (settled : Settled y s n) :
    Settled y s' n ∧ s'.files.inode? n = s.files.inode? n := by
  induction run with
  | here => exact ⟨settled, rfl⟩
  | next run fair step ih =>
    have orderly' := run.orderly honest orderly
    obtain ⟨settled', same⟩ := ih
    have evolves := (step.orderly (honest _ _ fair) orderly').1
    exact ⟨settled'.step step evolves, (settled'.inode? orderly' step).trans same⟩

/-- Since the state `since`, the turn has tried the suffix `e.1` while the foreign entry `e.2` had that
name. -/
def Site.Blocked (y : Layout) (since s : Site) (v : Nat) (e : Nat × Node) : Prop :=
  ∃ tried t source bound, Run y (Site.Honest y) since tried ∧ Run y (Site.Honest y) tried s ∧
    tried.visits v = .rotating t ∧ t.stage = .naming source e.1 bound ∧
    tried.files.occupant (Backup.path y.live e.1) = some e.2 ∧ Foreign y tried v e.2

theorem Orderly.foreign_tried (orderly : Orderly y s) (here : s.visits v = .rotating t)
    {suffix source bound : Nat} {node : Node} (naming : t.stage = .naming source suffix bound)
    (occupied : s.files.occupant (Backup.path y.live suffix) = some node) : Foreign y s v node := by
  obtain ⟨place, found⟩ := Files.occupant_eq_some.1 occupied
  exact orderly.foreign found (orderly.searched here naming).2.after

theorem Run.blocked {start : Site} (run : Run y (Site.Honest y) start s) (orderly : Orderly y start)
    (idle : ∀ t, start.visits v ≠ .rotating t) (turning : s.visits v = .rotating t) :
    ∃ begun n, Run y (Site.Honest y) start begun ∧ begun.visits v = .rotating { since := n } ∧
      Run y (Site.Honest y) begun s ∧ ∀ e ∈ t.met, Site.Blocked y begun s v e := by
  induction run generalizing t with
  | here => exact absurd turning (idle t)
  | @next s s' a run fair step ih =>
    have orderly' := run.orderly (fun _ _ fair => fair) orderly
    have earlier : ∀ {t : Turn}, s.visits v = .rotating t → ∃ begun n, Run y (Site.Honest y) start begun ∧
        begun.visits v = .rotating { since := n } ∧ Run y (Site.Honest y) begun s ∧
        ∀ e ∈ t.met, Site.Blocked y begun s' v e := by
      intro t here
      obtain ⟨begun, n, first, begins, then_, met⟩ := ih here
      refine ⟨begun, n, first, begins, then_, fun e listed => ?_⟩
      obtain ⟨tried, u, source, bound, before, after, rest⟩ := met e listed
      exact ⟨tried, u, source, bound, before, after.next fair step, rest⟩
    rcases step.turning turning with
      rfl | ⟨t, here, rfl | rfl | ⟨now, fault, files, last, next, move, rfl⟩⟩
    · exact ⟨s', _, run.next fair step, turning, .here, nofun⟩
    · obtain ⟨begun, n, first, begins, then_, met⟩ := earlier here
      exact ⟨begun, n, first, begins, then_.next fair step, met⟩
    · obtain ⟨begun, n, first, begins, then_, met⟩ := earlier here
      exact ⟨begun, n, first, begins, then_.next fair step, met⟩
    · obtain ⟨begun, n, first, begins, then_, met⟩ := earlier here
      refine ⟨begun, n, first, begins, then_.next fair step, fun e listed => ?_⟩
      rcases (Turn.after_cases move).2.2 e listed with before | ⟨source, bound, naming, occupied⟩
      · exact met e before
      · exact ⟨s, t, source, bound, then_, Run.here.next fair step, here, naming, occupied,
          orderly'.foreign_tried here naming occupied⟩

theorem Orderly.attempts_le (orderly : Orderly y s) (turning : s.visits v = .rotating t)
    (unnamed : t.stage = .done (.error (Rotation.unnamed y.live)))
    (below : t.first + Rotator.attempts ≤ Rotator.highest) {names : Finset Nat}
    (met : ∀ e ∈ t.met, e.1 ∈ names) : Rotator.attempts ≤ names.card := by
  have poised := (orderly.turns v t turning).poised
  simp only [Poised, unnamed] at poised
  have tried := poised trivial below
  have inside : t.met.map (·.1) ⊆ names.toList := by
    intro suffix listed
    obtain ⟨e, member, rfl⟩ := List.mem_map.1 listed
    exact Finset.mem_toList.2 (met e member)
  have distinct : (t.met.map (·.1)).Nodup := by
    rw [tried]
    exact List.nodup_range'
  have fits := (distinct.subperm inside).length_le
  rw [tried, List.length_range', Finset.length_toList] at fits
  exact fits

/-- Foreign entries hold no suffixes outside `names`. -/
def Site.HeldWithin (y : Layout) (s : Site) (v : Nat) (names : Finset Nat) : Prop :=
  ∀ suffix node, s.files.occupant (Backup.path y.live suffix) = some node → Foreign y s v node →
    suffix ∈ names

/-- A run in which, during each rotation of `v`, foreign entries hold fewer names than a search tries. The
names may differ between rotations. -/
inductive Roomy (y : Layout) (v : Nat) (start : Site) : Finset Nat → Site → Prop where
  | here {names : Finset Nat} (few : names.card < Rotator.attempts) : Roomy y v start names start
  | next {names : Finset Nat} {s s' : Site} {a : Action} (roomy : Roomy y v start names s)
      (honest : s.Honest y a) (held : ∀ t, s.visits v = .rotating t → s.HeldWithin y v names)
      (step : Step y s a s') : Roomy y v start names s'
  | rotate {names names' : Finset Nat} {s s' : Site} (roomy : Roomy y v start names s)
      (few : names'.card < Rotator.attempts) (step : Step y s (.rotate v) s') : Roomy y v start names' s'

section Roomy

variable {start : Site} {names : Finset Nat}

theorem Roomy.few (roomy : Roomy y v start names s) : names.card < Rotator.attempts := by
  induction roomy with
  | here few => exact few
  | next _ _ _ _ ih => exact ih
  | rotate _ few => exact few

theorem Roomy.run (roomy : Roomy y v start names s) : Run y (Site.Honest y) start s := by
  induction roomy with
  | here => exact .here
  | next _ honest _ step ih => exact ih.next honest step
  | rotate _ _ step ih => exact ih.next (a := .rotate v) trivial step

theorem Roomy.met (roomy : Roomy y v start names s) (orderly : Orderly y start)
    (idle : ∀ t, start.visits v ≠ .rotating t) (turning : s.visits v = .rotating t) :
    ∀ e ∈ t.met, e.1 ∈ names := by
  induction roomy generalizing t with
  | here => exact absurd turning (idle t)
  | @next names s s' a roomy honest held step ih =>
    rcases step.turning turning with
      rfl | ⟨t, here, rfl | rfl | ⟨now, fault, files, last, next, move, rfl⟩⟩
    · exact nofun
    · exact ih here
    · exact fun e listed => ih here e listed
    · intro e listed
      rcases (Turn.after_cases move).2.2 e listed with before | ⟨source, bound, naming, occupied⟩
      · exact ih here e before
      · have orderly' := roomy.run.orderly (fun _ _ fair => fair) orderly
        exact held t here e.1 e.2 occupied (orderly'.foreign_tried here naming occupied)
  | rotate roomy few step =>
    rcases step.turning turning with rfl | ⟨t, here, -⟩
    · exact nofun
    · cases step with
      | rotate waiting => rw [waiting] at here; cases here

end Roomy

/-- What holds of the backups in every reachable state. -/
structure Archival (y : Layout) (start s : Site) : Prop where
  rising : ∀ r, ((s.past.created.filter (·.rotator = r)).map (·.suffix)).Pairwise (· < ·)
  dated : ∀ g ∈ s.past.created, g.clock ≤ g.suffix
  spared : ∀ a s' v t, Step y s a s' → a.turner = some v → s.visits v = .rotating t →
    s.files.Spares s'.files t.since t.opened
  kept : ∀ g ∈ s.past.created, (∀ v t, s.visits v = .rotating t → t.made ≠ some g.number) →
    s.files.Names (Backup.path y.live g.suffix) g.number →
    (s.files.number y.live = .ok g.number ∧
      ∃ place target, s.files.find false y.live = .ok ⟨place, some (.link target)⟩) ∨
    ∀ s', Run y (Site.Honest y) s s' → s'.files.inode? g.number = s.files.inode? g.number
  /-- A search fails only if a foreign entry held each of its names at the moment when the name was tried. -/
  exhausted : ∀ v t, s.visits v = .rotating t →
    t.stage = .done (.error (Rotation.unnamed y.live)) →
    t.first + Rotator.attempts ≤ Rotator.highest →
    t.met.map (·.1) = List.range' t.first Rotator.attempts ∧ (∀ e ∈ t.met, Foreign y s v e.2) ∧
      ∃ begun n, Run y (Site.Honest y) start begun ∧ begun.visits v = .rotating { since := n } ∧
        Run y (Site.Honest y) begun s ∧ ∀ e ∈ t.met, Site.Blocked y begun s v e
  named : ∀ v names, Roomy y v start names s → ∀ t, s.visits v = .rotating t →
    t.first + Rotator.attempts ≤ Rotator.highest → t.stage ≠ .done (.error (Rotation.unnamed y.live))

/-- The suffixes given by a rotator increase and are at least the second of their rotation, a finished backup
does not change unless the live path is a link to it, and a search fails only on names held by foreign
entries. -/
theorem backups_stand (sound : f.Sound) (run : Run y (Site.Honest y) { files := f } s) :
    Archival y { files := f } s := by
  have origin : Orderly y { files := f } := .origin sound
  have orderly := run.orderly (fun _ _ fair => fair) origin
  have idle : ∀ v t, ({ files := f } : Site).visits v ≠ .rotating t := by rintro v t ⟨⟩
  refine { rising := orderly.rising, dated := orderly.dated, spared := ?_, kept := ?_,
           exhausted := ?_, named := ?_ }
  · intro a s' v t step own here
    exact orderly.spares step own here
  · intro g listed finished present
    by_cases leads : s.files.number y.live = .ok g.number
    · exact .inl ⟨leads, orderly.linked listed leads⟩
    · right
      intro s' onward
      have settled := orderly.settled listed finished present leads
      exact (onward.settled (fun _ _ fair => fair) orderly settled).2
  · intro v t turning unnamed below
    obtain ⟨traced, poised⟩ := orderly.turns v t turning
    simp only [Poised, unnamed] at poised
    exact ⟨poised trivial below, traced.foreign, run.blocked origin (idle v) turning⟩
  · intro v names roomy t turning below unnamed
    have met := roomy.met origin (idle v) turning
    have many := orderly.attempts_le turning unnamed below met
    exact absurd roomy.few (Nat.not_lt.2 many)

theorem backups_stand_beside : ∃ s : Site,
    Run (.lone ⟨[0x61]⟩) (Site.Honest (.lone ⟨[0x61]⟩)) { files := .single [0x61] [0x78] } s ∧
    s.past.created.map (·.suffix) = [1, 3] ∧
    Archival (.lone ⟨[0x61]⟩) { files := .single [0x61] [0x78] } s := by
  let y : Layout := .lone ⟨[0x61]⟩
  let request : Action := .request 0 ⟨1⟩ none
  let first : List Action := [.ask 0, .rotate 0, request, request, request, request, request]
  let actions : List Action :=
    first ++ [.finish 0, .appear [[0x61, 0x2e, 0x32]] []] ++ first ++ [request]
  have ends : (Site.play y { files := .single [0x61] [0x78] } actions).map
      (·.past.created.map (·.suffix)) = some [1, 3] := by decide +kernel
  obtain ⟨s, played, suffixes⟩ := Option.map_eq_some_iff.1 ends
  have run : Run y (Site.Honest y) { files := .single [0x61] [0x78] } s :=
    Site.run_of_play .here
      (by simp [actions, first, request, Site.Honest, Truthful]) played
  exact ⟨s, run, suffixes, backups_stand (Files.sound_single _ _) run⟩

/-! ### A link to a backup, and a name that is always taken -/

/-- At most one name of a backup is taken. -/
def Site.HeldOnce (y : Layout) (s : Site) : Prop :=
  ∀ m n node node', s.files.occupant (Backup.path y.live m) = some node →
    s.files.occupant (Backup.path y.live n) = some node' → m = n

theorem Backup.find_beside (f : Files) (rooted : f.here = []) {k : Nat} (low : k < 10000) :
    f.find false (path ⟨[0x61]⟩ k) =
      .ok ⟨[name ⟨[0x61]⟩ k], f.node? [name ⟨[0x61]⟩ k]⟩ := by
  have digits : (decimal k).length ≤ 4 := by
    rw [decimal_eq, List.length_map]
    exact Nat.toDigits_length 10 k 4 (by decide) (Nat.lt_of_lt_of_eq low (by decide))
  have spelled : (path ⟨[0x61]⟩ k).bytes = 0x61 :: point :: decimal k := rfl
  have short : (name ⟨[0x61]⟩ k).length ≤ 6 := by
    change (0x61 :: point :: decimal k).length ≤ 6
    simp only [List.length_cons]
    omega
  refine Files.find_eq_ok.2 ⟨?_, by rw [spelled]; exact List.cons_ne_nil _ _, ?_, ?_⟩
  · rw [spelled]
    simp only [List.contains_eq_mem, decide_eq_false_iff_not, List.mem_cons, not_or]
    refine ⟨by decide, by decide, fun member => ?_⟩
    exact absurd (isDigit_decimal k 0 member) (by decide)
  · rw [spelled, Files.longestPath]
    simp only [List.length_cons]
    omega
  · have root : Files.start (path ⟨[0x61]⟩ k) f.here = [] := by
      rw [Files.start, rooted]
      split <;> rfl
    rw [steps_path, root]
    exact Files.leads_name Files.node?_root (Nat.le_trans short (by decide))

def Site.Sparing (y : Layout) (s : Site) (a : Action) : Prop := s.Honest y a ∧ s.HeldOnce y

theorem Backup.name_beside (k : Nat) : name ⟨[0x61]⟩ k = 0x61 :: point :: decimal k := rfl

theorem Site.heldOnce_of {s : Site} (beside : Place)
    (only : ∀ place, place ≠ [] → place ≠ [[0x61]] → place ≠ beside → s.files.node? place = none) :
    s.HeldOnce (.lone ⟨[0x61]⟩) := by
  have stands : ∀ k node, s.files.occupant (Backup.path ⟨[0x61]⟩ k) = some node →
      beside.head? = some (Backup.name ⟨[0x61]⟩ k) := by
    intro k node occupied
    obtain ⟨place, found⟩ := Files.occupant_eq_some.1 occupied
    have named := Backup.head?_of_find found
    have there := (Files.node?_of_find found).symm
    by_contra other
    rw [only place (by rintro rfl; cases named) (by rintro rfl; cases named)
      (by rintro rfl; exact other named)] at there
    cases there
  intro m n node node' one two
  have same := (stands m node one).symm.trans (stands n node' two)
  exact Backup.name_injective (Option.some.inj same)

/-- A search has reached the suffix `k`, and the directory holds nothing but the log. -/
structure Chased (s : Site) (k : Nat) : Prop where
  turn : ∃ t, s.visits 0 = .rotating t ∧ t.stage = .search ⟨[0x61]⟩ 0 k 1025 ∧ t.first = 1
  bare : ∀ place, place ≠ [] → place ≠ [[0x61]] → s.files.node? place = none
  rooted : s.files.here = []

theorem Chased.next {k : Nat} (chased : Chased s k) (low : k < 1025) {start : Site}
    (run : Run (.lone ⟨[0x61]⟩) (Site.Sparing (.lone ⟨[0x61]⟩)) start s) :
    ∃ s', Run (.lone ⟨[0x61]⟩) (Site.Sparing (.lone ⟨[0x61]⟩)) start s' ∧ Chased s' (k + 1) := by
  let y : Layout := .lone ⟨[0x61]⟩
  let place : Place := [Backup.name ⟨[0x61]⟩ k]
  obtain ⟨t, here, stage, first⟩ := chased.turn
  rw [Rotation.Stage.search, if_pos low] at stage
  have apart : place ≠ [[0x61]] := by simp [place, Backup.name_beside]
  have free : s.files.node? place = none := chased.bare place (List.cons_ne_nil _ _) apart
  let taken : Site := { s with files := s.files.addFile place [] }
  have there : ∀ other, taken.files.node? other =
      if other = place then some (.file s.files.inodes.length) else s.files.node? other :=
    Files.node?_addFile free []
  have found : taken.files.find false (Backup.path ⟨[0x61]⟩ k) =
      .ok ⟨place, some (.file s.files.inodes.length)⟩ := by
    rw [Backup.find_beside taken.files chased.rooted (by omega), there, if_pos rfl]
  let calm : Nat → Option Files.Fault := fun _ => none
  have probe : Rotation.Probe taken.files (calm k) (Backup.path y.live k) (.error (.ofKind .alreadyExists)) :=
    .occupied rfl found
  obtain ⟨same, -, onward⟩ := Rotation.step_refused (w := taken.rotation y 0 t) ⟨0⟩ stage probe
  replace onward := onward.trans (if_pos rfl)
  let tried : Site := taken.request y 0 t ⟨0⟩ none
  have kept : tried.files = taken.files := same
  have taking : Step y s (.appear place []) taken := .appear free
  have trying : Step y taken (.request 0 ⟨0⟩ none) tried := .request here (by rw [stage]; rfl)
  have leaving : Step y tried (.vanish place) { tried with files := tried.files.erase place } :=
    .vanish (by rw [kept, there, if_pos rfl])
  have one : ∀ place', place' ≠ [] → place' ≠ [[0x61]] → place' ≠ place → taken.files.node? place' = none := by
    intro place' present other apart'
    rw [there, if_neg apart', chased.bare place' present other]
  have take : s.Sparing y (.appear place []) :=
    ⟨trivial, Site.heldOnce_of place fun other present apart' _ => chased.bare other present apart'⟩
  have try_ : taken.Sparing y (.request 0 ⟨0⟩ none) :=
    ⟨by simp [Site.Honest, Truthful], Site.heldOnce_of place one⟩
  have leave : tried.Sparing y (.vanish place) := ⟨trivial, Site.heldOnce_of place (by rw [kept]; exact one)⟩
  refine ⟨_, ((run.next take taking).next try_ trying).next leave leaving, ?_, ?_, ?_⟩
  · have turned : tried.visits 0 = .rotating (t.after (taken.rotator y 0) taken.files ⟨0⟩
        ((taken.rotation y 0 t).step ⟨0⟩ none).stage) := by
      simp only [tried, Site.request, Site.advance, Function.update_self]
    rw [onward, Turn.after_naming stage fun _ _ _ => Rotation.Stage.search_ne_copying] at turned
    exact ⟨_, turned, rfl, first⟩
  · intro place' present other
    change (tried.files.erase place).node? place' = none
    rw [kept, Files.node?_erase (List.cons_ne_nil _ _), there]
    split
    · rfl
    · exact chased.bare place' present other
  · change tried.files.here = []
    rw [kept]
    exact chased.rooted

theorem Chased.run {k : Nat} (chased : Chased s k) {start : Site}
    (run : Run (.lone ⟨[0x61]⟩) (Site.Sparing (.lone ⟨[0x61]⟩)) start s) (steps : Nat)
    (low : k + steps ≤ 1025) :
    ∃ s', Run (.lone ⟨[0x61]⟩) (Site.Sparing (.lone ⟨[0x61]⟩)) start s' ∧ Chased s' (k + steps) := by
  induction steps with
  | zero => exact ⟨s, run, chased⟩
  | succ steps ih =>
    obtain ⟨s', run', chased'⟩ := ih (by omega)
    exact chased'.next (by omega) run'

theorem exists_chased : ∃ s, Run (.lone ⟨[0x61]⟩) (Site.Sparing (.lone ⟨[0x61]⟩))
    { files := .single [0x61] [0x78] } s ∧ Chased s 1 := by
  let y : Layout := .lone ⟨[0x61]⟩
  let origin : Site := { files := .single [0x61] [0x78] }
  let asked : Site := (origin.relock (y.lockOf 0) (·.request 0)).visit 0 .waiting
  let begun : Site := asked.visit 0 (.rotating { since := 1 })
  let opened : Site := begun.request y 0 { since := 1 } ⟨0⟩ none
  have bare : ∀ place, place ≠ [] → place ≠ [[0x61]] → origin.files.node? place = none := by
    intro place present other
    rw [Files.node?_single _ _ present, if_neg other]
  have few : ∀ s : Site, s.files = origin.files → s.HeldOnce y := fun s same =>
    Site.heldOnce_of [] fun place present other _ => same ▸ bare place present other
  have served : origin.files.serve none (.openLive y.live) = (.ok 0, origin.files) := by decide +kernel
  have stage : ((begun.rotation y 0 { since := 1 }).step ⟨0⟩ none).stage = .search y.live 0 1 1025 := by
    have first : (begun.rotator y 0).first ⟨0⟩ = 1 := by decide
    have bound : Rotator.bound 1 = 1025 := by decide
    have live : (begun.rotator y 0).live = y.live := rfl
    have files : begun.files = origin.files := rfl
    simp only [Rotation.step, Site.rotation, Rotation.Stage.asks, live, files, served, Rotation.Stage.next, first,
      bound]
  have files : opened.files = origin.files := by
    change (origin.files.serve none (.openLive y.live)).2 = _
    rw [served]
  have asks : Step y origin (.ask 0) asked := .ask rfl
  have begins : Step y asked (.rotate 0) begun := .rotate rfl rfl
  have opens : Step y begun (.request 0 ⟨0⟩ none) opened := .request rfl rfl
  have ask : origin.Sparing y (.ask 0) := ⟨trivial, few _ rfl⟩
  have begin_ : asked.Sparing y (.rotate 0) := ⟨trivial, few _ rfl⟩
  have open_ : begun.Sparing y (.request 0 ⟨0⟩ none) := ⟨by simp [Site.Honest, Truthful], few _ rfl⟩
  refine ⟨opened, ((Run.here.next ask asks).next begin_ begins).next open_ opens, ?_, ?_, ?_⟩
  · have turned : opened.visits 0 = .rotating (Turn.after { since := 1 } (begun.rotator y 0) begun.files ⟨0⟩
        ((begun.rotation y 0 { since := 1 }).step ⟨0⟩ none).stage) := by
      simp only [opened, Site.request, Site.advance, Function.update_self]
    rw [stage, Turn.after_opening rfl] at turned
    exact ⟨_, turned, rfl, rfl⟩
  · rw [files]
    exact bare
  · rw [files]
    rfl

/-- A finished backup changes if the live path is a link to its name. A search fails although foreign entries
never hold more than one name at a time. -/
theorem backups_not_stand :
    let y : Layout := .lone ⟨[0x61]⟩
    let linked : Files := .addFile (.linked [0x61] (Backup.path ⟨[0x61]⟩ 5)) [Backup.name ⟨[0x61]⟩ 5] [0x78]
    (linked.Sound ∧ ∃ s s' g, Run y (Site.Honest y) { files := linked } s ∧ s.past.created = [g] ∧
      s.past.emptied = [Backup.path y.live g.suffix] ∧ s.files.Names (Backup.path y.live g.suffix) g.number ∧
      s.files.inode? g.number = some (.regular [0x78]) ∧ Run y (Site.Honest y) s s' ∧
      s'.files.Names (Backup.path y.live g.suffix) g.number ∧
      s'.files.inode? g.number = some (.regular [])) ∧
    ∃ s t, Run y (Site.Sparing y) { files := .single [0x61] [0x78] } s ∧ s.HeldOnce y ∧
      s.visits 0 = .rotating t ∧ t.first + Rotator.attempts ≤ Rotator.highest ∧
      t.stage = .done (.error (Rotation.unnamed y.live)) := by
  intro y linked
  refine ⟨?_, ?_⟩
  · have sound : linked.Sound := Files.Sound.addFile (Files.sound_linked _ _) (by decide +kernel) _
    let request : Action := .request 0 (.ofSeconds 5 0) none
    let first : List Action := [.ask 0, .rotate 0, request, .vanish [Backup.name ⟨[0x61]⟩ 5], request, request,
      request, request, .finish 0]
    let second : List Action := [.ask 0, .rotate 0, request, request, request, request, request]
    let played := Site.play y { files := linked } first
    have made : played.map (fun s => (s.past.created.map fun g => (g.suffix, g.number), s.past.emptied)) =
        some ([(5, 1)], [Backup.path y.live 5]) := by decide +kernel
    have full : played.map (fun s => (s.files.find false (Backup.path y.live 5), s.files.inode? 1)) =
        some (.ok ⟨[Backup.name y.live 5], some (.file 1)⟩, some (.regular [0x78])) := by decide +kernel
    have empty : (played.bind (·.play y second)).map
        (fun s => (s.files.find false (Backup.path y.live 5), s.files.inode? 1)) =
        some (.ok ⟨[Backup.name y.live 5], some (.file 1)⟩, some (.regular [])) := by decide +kernel
    obtain ⟨s, reached, same⟩ := Option.map_eq_some_iff.1 made
    obtain ⟨created, emptied⟩ := Prod.mk.inj same
    obtain ⟨g, listed, numbered⟩ := List.map_eq_singleton_iff.1 created
    obtain ⟨suffix, number⟩ := Prod.mk.inj numbered
    rw [reached] at full empty
    obtain ⟨found, content⟩ := Prod.mk.inj (Option.some.inj full)
    obtain ⟨s', onward, same'⟩ := Option.map_eq_some_iff.1 empty
    obtain ⟨found', content'⟩ := Prod.mk.inj same'
    refine ⟨sound, s, s', g, Site.run_of_play .here ?_ reached, listed, ?_, ?_, ?_,
      Site.run_of_play .here ?_ onward, ?_, ?_⟩
    · simp [first, request, Site.Honest, Truthful]
    · rw [suffix]
      exact emptied
    · rw [suffix, number]
      exact ⟨_, found⟩
    · rw [number]
      exact content
    · simp [second, request, Site.Honest, Truthful]
    · rw [suffix, number]
      exact ⟨_, found'⟩
    · rw [number]
      exact content'
  · obtain ⟨s, run, chased⟩ := exists_chased
    obtain ⟨s, run, ⟨t, turning, stage, first⟩, bare, -⟩ := chased.run run 1024 (by decide)
    refine ⟨s, t, run, Site.heldOnce_of [] fun place present other _ => bare place present other, turning, ?_,
      stage⟩
    rw [first]
    decide

end AuditTrail
