import AuditTrail.Proofs.Site.Basic
import AuditTrail.Proofs.Sweep

/-! The suffixes that rotations choose. Whatever the clock shows, the suffixes of one rotator
increase, a rotation changes no existing file but the live log, and it runs out of names only if
others hold them. `Orderly` is the invariant, and `Tidy` its part about a turn under way. -/
namespace AuditTrail

/-- The entry is no backup of the rotator of `v`. -/
def Foreign (y : Layout) (s : Site) (v : Nat) (node : Node) : Prop :=
  ∀ g ∈ s.past.created, g.rotator = y.rotator v → node ≠ .file g.number

/-- The suffixes from the first up to `suffix` were tried and taken. -/
structure Searched (y : Layout) (s : Site) (v : Nat) (t : Turn) (suffix : Nat) : Prop where
  after : s.last (y.rotator v) < suffix
  dated : t.clock ≤ suffix
  reached : t.first ≤ suffix
  tried : t.met.map (·.1) = List.range' t.first (suffix - t.first)

/-- What a turn has found out by its stage. -/
def Poised (y : Layout) (s : Site) (v : Nat) (t : Turn) : Prop :=
  match t.stage with
  | .opening => t.met = []
  | .naming source suffix bound => t.opened = some source ∧ suffix < bound ∧
    bound = Rotator.bound t.first ∧ Searched y s v t suffix
  | .copying source backup target | .syncing source backup target _ =>
    t.opened = some source ∧ t.made = some target ∧ s.files.Young t.since backup
  | .truncating source _ _ => t.opened = some source
  | .discarding backup _ => s.files.Young t.since backup
  | .done outcome => outcome = .error (Rotation.unnamed y.live) →
    t.first + Rotator.attempts ≤ Rotator.highest →
    t.met.map (·.1) = List.range' t.first Rotator.attempts

/-- What a turn remembers: it concerns files of its own time, and the taken names are foreign. -/
structure Traced (y : Layout) (s : Site) (v : Nat) (t : Turn) : Prop where
  since : t.since ≤ s.files.inodes.length
  opened : ∀ m, t.opened = some m → m < s.files.inodes.length
  made : ∀ m, t.made = some m → t.since ≤ m ∧ m < s.files.inodes.length
  /-- The live log that it opened is a backup only where the live path leads to that backup. -/
  led : ∀ g ∈ s.past.created, t.opened = some g.number → ∀ place,
    s.files.node? place = some (.file g.number) →
    ∃ node?, s.files.find true y.live = .ok ⟨place, node?⟩
  old : ∀ e ∈ t.met, ∀ n, e.2 = .file n → n < s.files.inodes.length
  foreign : ∀ e ∈ t.met, Foreign y s v e.2

structure Tidy (y : Layout) (s : Site) (v : Nat) (t : Turn) : Prop where
  traced : Traced y s v t
  poised : Poised y s v t

structure Orderly (y : Layout) (s : Site) : Prop where
  sound : s.files.Sound
  exclusive : s.Exclusive y
  linkFree : ∀ k, (s.sweeps k).LinkFree s.files
  rising : ∀ r, ((s.past.created.filter (·.rotator = r)).map (·.suffix)).Pairwise (· < ·)
  below : ∀ g ∈ s.past.created, g.suffix ≤ s.last g.rotator
  dated : ∀ g ∈ s.past.created, g.clock ≤ g.suffix
  numbered : ∀ g ∈ s.past.created, g.number < s.files.inodes.length
  /-- A backup has no other name than its own. -/
  home : ∀ g ∈ s.past.created, ∀ place, s.files.node? place = some (.file g.number) →
    s.files.find false (Backup.path y.live g.suffix) = .ok ⟨place, some (.file g.number)⟩
  turns : ∀ v t, s.visits v = .rotating t → Tidy y s v t

variable {y : Layout} {s s' : Site} {a : Action} {v w : Nat} {t : Turn} {f : Files}

theorem Poised.keep (poised : Poised y s w t) (evolves : s.files.Evolves s'.files)
    (since : t.since ≤ s.files.inodes.length)
    (last : s'.last (y.rotator w) = s.last (y.rotator w)) : Poised y s' w t := by
  unfold Poised at poised ⊢
  cases stage : t.stage <;> simp only [stage] at poised ⊢
  case opening => exact poised
  case naming =>
    obtain ⟨opened, more, limit, searched⟩ := poised
    exact ⟨opened, more, limit, ⟨last ▸ searched.after, searched.dated, searched.reached,
      searched.tried⟩⟩
  case copying | syncing =>
    obtain ⟨opened, made, young⟩ := poised
    exact ⟨opened, made, young.evolves evolves since⟩
  case truncating => exact poised
  case discarding => exact poised.evolves evolves since
  case done => exact poised

theorem Traced.keep (traced : Traced y s w t) (evolves : s.files.Evolves s'.files)
    (created : ∀ g ∈ s'.past.created, g ∈ s.past.created ∨ s.files.inodes.length ≤ g.number) :
    Traced y s' w t := by
  have grows := evolves.grows
  constructor
  · have since := traced.since
    omega
  · intro m opened
    have early := traced.opened m opened
    omega
  · intro m made
    have bounds := traced.made m made
    omega
  · intro g listed opened place there
    have early := traced.opened _ opened
    rcases created g listed with earlier | fresh
    · rcases evolves.places place _ there with before | late
      · obtain ⟨node?, leads⟩ := traced.led g earlier opened place before
        exact ⟨_, evolves.ways.find leads⟩
      · omega
    · omega
  · intro e member n file
    have early := traced.old e member n file
    omega
  · intro e member g listed same file
    rcases created g listed with earlier | fresh
    · exact traced.foreign e member g earlier same file
    · have early := traced.old e member _ file
      omega

theorem Tidy.keep (tidy : Tidy y s w t) (evolves : s.files.Evolves s'.files)
    (last : s'.last (y.rotator w) = s.last (y.rotator w))
    (created : ∀ g ∈ s'.past.created, g ∈ s.past.created ∨ s.files.inodes.length ≤ g.number) :
    Tidy y s' w t :=
  ⟨tidy.traced.keep evolves created, tidy.poised.keep evolves tidy.traced.since last⟩

theorem Traced.restage (traced : Traced y s v t) (next : Rotation.Stage) :
    Traced y s v { t with stage := next } :=
  ⟨traced.since, traced.opened, traced.made, traced.led, traced.old, traced.foreign⟩

theorem Orderly.foreign (orderly : Orderly y s) {suffix : Nat} {place : Place} {node : Node}
    (found : s.files.find false (Backup.path y.live suffix) = .ok ⟨place, some node⟩)
    (after : s.last (y.rotator v) < suffix) : Foreign y s v node := by
  intro g listed same file
  have there : s.files.node? place = some (.file g.number) := by
    rw [← file]
    exact (Files.node?_of_find found).symm
  have named := Backup.head?_of_find (orderly.home g listed place there)
  rw [Backup.head?_of_find found] at named
  have equal := Backup.name_injective (Option.some.inj named)
  have below := orderly.below g listed
  rw [same] at below
  omega

theorem Rotator.lt_size {suffix : Nat} (low : suffix < highest) : suffix < UInt64.size :=
  Nat.lt_of_lt_of_le low (Nat.sub_le _ _)

theorem Orderly.searched (orderly : Orderly y s) (here : s.visits v = .rotating t)
    {source suffix bound : Nat} (naming : t.stage = .naming source suffix bound) :
    suffix < Rotator.highest ∧ Searched y s v t suffix := by
  have poised := (orderly.turns v t here).poised
  simp only [Poised, naming] at poised
  obtain ⟨-, more, limit, searched⟩ := poised
  rw [limit, Rotator.bound] at more
  exact ⟨by omega, searched⟩

theorem Orderly.home_keep (orderly : Orderly y s) {f : Files} (evolves : s.files.Evolves f) :
    ∀ g ∈ s.past.created, ∀ place, f.node? place = some (.file g.number) →
      f.find false (Backup.path y.live g.suffix) = .ok ⟨place, some (.file g.number)⟩ := by
  intro g listed place there
  rcases evolves.places place _ there with before | fresh
  · have found := evolves.ways.find (orderly.home g listed place before)
    rw [there] at found
    exact found
  · have early := orderly.numbered g listed
    omega

theorem Orderly.keep (orderly : Orderly y s) (evolves : s.files.Evolves s'.files)
    (exclusive : s'.Exclusive y) (linkFree : ∀ k, (s'.sweeps k).LinkFree s'.files)
    (created : s'.past.created = s.past.created) (last : s'.last = s.last)
    (turns : ∀ v t, s'.visits v = .rotating t → Tidy y s' v t) : Orderly y s' where
  sound := evolves.sound orderly.sound
  exclusive := exclusive
  linkFree := linkFree
  rising := by
    rw [created]
    exact orderly.rising
  below := by
    rw [created, last]
    exact orderly.below
  dated := by
    rw [created]
    exact orderly.dated
  numbered := by
    rw [created]
    intro g listed
    have early := orderly.numbered g listed
    have grows := evolves.grows
    omega
  home := by
    rw [created]
    exact orderly.home_keep evolves
  turns := turns

theorem Orderly.others (orderly : Orderly y s) (evolves : s.files.Evolves s'.files)
    (last : s'.last = s.last) (created : s'.past.created = s.past.created)
    (turning : s.visits w = .rotating t) : Tidy y s' w t := by
  apply (orderly.turns w t turning).keep evolves (by rw [last])
  intro g listed
  rw [created] at listed
  exact .inl listed

theorem Orderly.linkFree_keep (orderly : Orderly y s) (evolves : s.files.Evolves s'.files)
    (sweeps : s'.sweeps = s.sweeps) (k : Nat) : (s'.sweeps k).LinkFree s'.files := by
  rw [sweeps]
  exact (orderly.linkFree k).same evolves.ways

theorem Turn.after_opening (opening : t.stage = .opening) (r : Rotator) (f : Files) (now : Moment)
    (next : Rotation.Stage) : t.after r f now next =
      { t with stage := next, opened := (f.number r.live).toOption, clock := now.seconds,
               first := r.first now } := by
  simp only [Turn.after, opening]

theorem Turn.after_created {source suffix bound target : Nat} {backup : Path}
    (naming : t.stage = .naming source suffix bound) (r : Rotator) (f : Files) (now : Moment) :
    t.after r f now (.copying source backup target) =
      { t with stage := .copying source backup target, made := some target } := by
  simp only [Turn.after, naming]

theorem Turn.after_naming {source suffix bound : Nat} {next : Rotation.Stage}
    (naming : t.stage = .naming source suffix bound)
    (other : ∀ source backup target, next ≠ .copying source backup target) (r : Rotator) (f : Files)
    (now : Moment) : t.after r f now next =
      { t with
        stage := next
        met := t.met ++ ((f.occupant (Backup.path r.live suffix)).map (suffix, ·)).toList } := by
  cases next with
  | copying => exact absurd rfl (other _ _ _)
  | _ => simp only [Turn.after, naming]

theorem Turn.after_later (later : t.stage ≠ .opening)
    (named : ∀ source suffix bound, t.stage ≠ .naming source suffix bound) (r : Rotator) (f : Files)
    (now : Moment) (next : Rotation.Stage) : t.after r f now next = { t with stage := next } := by
  unfold Turn.after
  split
  · next opening => exact absurd opening later
  · next naming => exact absurd naming (named _ _ _)
  · next naming _ => exact absurd naming (named _ _ _)
  · rfl

theorem History.created_after {c : History} {rotator : Nat} {next : Rotation.Stage}
    (other : ∀ source suffix bound, t.stage = .naming source suffix bound →
      ∀ source backup target, next ≠ .copying source backup target) :
    (c.after rotator f t next).created = c.created := by
  unfold History.after
  split
  · next naming => exact absurd rfl (other _ _ _ naming _ _ _)
  · rfl
  · rfl
  · rfl

theorem Orderly.traced_after (orderly : Orderly y s) (here : s.visits v = .rotating t)
    (evolves : s.files.Evolves s'.files) (created : s'.past.created = s.past.created) (now : Moment)
    {next : Rotation.Stage} (other : ∀ source suffix bound, t.stage = .naming source suffix bound →
      ∀ source backup target, next ≠ .copying source backup target) :
    Traced y s' v (t.after (s.rotator y v) s.files now next) := by
  obtain ⟨traced, poised⟩ := orderly.turns v t here
  have kept : Traced y s' v t := traced.keep evolves fun g listed => .inl (created ▸ listed)
  cases stage : t.stage with
  | opening =>
    rw [Turn.after_opening stage]
    refine ⟨kept.since, ?_, kept.made, ?_, kept.old, kept.foreign⟩
    · intro m opened
      obtain ⟨place, found⟩ := Files.number_eq_ok.1 (ok_of_toOption opened)
      have early := orderly.sound.numbered place m (Files.node?_of_find found).symm
      have grows := evolves.grows
      omega
    · -- A backup has one place, and it is there that the live path leads.
      intro g listed opened place there
      rw [created] at listed
      obtain ⟨home, found⟩ := Files.number_eq_ok.1 (ok_of_toOption opened)
      rcases evolves.places place _ there with before | late
      · have one := orderly.home g listed place before
        rw [orderly.home g listed home (Files.node?_of_find found).symm] at one
        obtain ⟨rfl, -⟩ := Files.Found.mk.inj (Except.ok.inj one)
        exact ⟨_, evolves.ways.find found⟩
      · have early := orderly.numbered g listed
        omega
  | naming source suffix bound =>
    rw [Turn.after_naming stage (other source suffix bound stage)]
    simp only [Poised, stage] at poised
    obtain ⟨-, -, -, searched⟩ := poised
    have met : ∀ e ∈ ((s.files.occupant (Backup.path y.live suffix)).map (suffix, ·)).toList,
        ∃ place, s.files.find false (Backup.path y.live suffix) = .ok ⟨place, some e.2⟩ := by
      intro e listed
      obtain ⟨node, occupied, rfl⟩ := Option.map_eq_some_iff.1 (Option.mem_toList.1 listed)
      exact Files.occupant_eq_some.1 occupied
    refine ⟨kept.since, kept.opened, kept.made, kept.led, ?_, ?_⟩
    · intro e listed n file
      rcases List.mem_append.1 listed with before | new
      · exact kept.old e before n file
      · obtain ⟨place, found⟩ := met e new
        rw [file] at found
        have early := orderly.sound.numbered place n (Files.node?_of_find found).symm
        have grows := evolves.grows
        omega
    · intro e listed
      rcases List.mem_append.1 listed with before | new
      · exact kept.foreign e before
      · obtain ⟨place, found⟩ := met e new
        intro g listed
        rw [created] at listed
        exact orderly.foreign found searched.after g listed
  | copying | syncing | discarding | truncating | done =>
    rw [Turn.after_later (by simp [stage]) (by simp [stage])]
    exact kept.restage next

/-- A step of a rotation that creates no backup. -/
theorem Orderly.advance (orderly : Orderly y s) (here : s.visits v = .rotating t) {now : Moment}
    {files : Files} {next : Rotation.Stage} (evolves : s.files.Evolves files)
    (exclusive : (s.advance y v t now files (s.last (y.rotator v)) next).Exclusive y)
    (other : ∀ source suffix bound, t.stage = .naming source suffix bound →
      ∀ source backup target, next ≠ .copying source backup target)
    (poised : ∀ s', s'.files = files → s'.last = s.last →
      Poised y s' v (t.after (s.rotator y v) s.files now next)) :
    Orderly y (s.advance y v t now files (s.last (y.rotator v)) next) := by
  have last : (s.advance y v t now files (s.last (y.rotator v)) next).last = s.last :=
    Function.update_eq_self _ _
  have created : (s.past.after (y.rotator v) s.files t next).created = s.past.created :=
    History.created_after other
  apply orderly.keep evolves exclusive (orderly.linkFree_keep evolves rfl) created last
  intro w t' turning
  simp only [Site.advance, Function.update_apply] at turning
  split at turning
  · next same =>
    obtain rfl := Visit.rotating.inj turning
    rw [same]
    exact ⟨orderly.traced_after here evolves created now other, poised _ rfl last⟩
  · exact orderly.others evolves last created turning

theorem Searched.poised {source suffix bound : Nat} (searched : Searched y s v t suffix)
    (opened : t.opened = some source) (limit : bound = Rotator.bound t.first)
    (within : suffix ≤ bound)
    (stage : t.stage = .search y.live source suffix bound) : Poised y s v t := by
  unfold Poised
  unfold Rotation.Stage.search at stage
  split at stage
  · next more =>
    rw [stage]
    exact ⟨opened, more, limit, searched⟩
  · next spent =>
    rw [stage]
    intro _ below
    have reached := searched.reached
    have all : suffix - t.first = Rotator.attempts := by
      rw [Rotator.bound, Nat.min_eq_left below] at limit
      omega
    rw [searched.tried, all]

/-- A fault claims that a name is taken only if it is. -/
def Truthful (y : Layout) (s : Site) (t : Turn) (fault : Option Files.Fault) : Prop :=
  ∀ spoilt, fault = some spoilt → spoilt.cause.kind = .alreadyExists →
    ∀ source suffix bound, t.stage = .naming source suffix bound →
      ∃ node, s.files.occupant (Backup.path y.live suffix) = some node

theorem Orderly.taken (orderly : Orderly y s) (here : s.visits v = .rotating t)
    {source suffix bound : Nat} (naming : t.stage = .naming source suffix bound) {now : Moment}
    {node : Node} (occupied : s.files.occupant (Backup.path y.live suffix) = some node)
    (exclusive : (s.advance y v t now s.files (s.last (y.rotator v))
      (.search y.live source (suffix + 1) bound)).Exclusive y) :
    Orderly y (s.advance y v t now s.files (s.last (y.rotator v))
      (.search y.live source (suffix + 1) bound)) := by
  have poised := (orderly.turns v t here).poised
  simp only [Poised, naming] at poised
  obtain ⟨opened, more, limit, searched⟩ := poised
  refine orderly.advance here (.refl s.files) exclusive
    (fun _ _ _ _ _ _ _ => Rotation.Stage.search_ne_copying) ?_
  intro s' files last
  rw [Turn.after_naming naming fun _ _ _ => Rotation.Stage.search_ne_copying, Site.rotator,
    occupied]
  have reached := searched.reached
  have after := searched.after
  refine Searched.poised ⟨?_, ?_, ?_, ?_⟩ opened limit more rfl
  · rw [last]
    omega
  · exact Nat.le_succ_of_le searched.dated
  · exact Nat.le_succ_of_le reached
  · have next : suffix + 1 - t.first = (suffix - t.first) + 1 := by omega
    have tail : t.first + (suffix - t.first) = suffix := by omega
    simp only [List.map_append, searched.tried, next, List.range'_concat, Nat.one_mul, tail]
    rfl

theorem rising_append {created : List Creation} {g : Creation}
    (rising : ∀ r, ((created.filter (·.rotator = r)).map (·.suffix)).Pairwise (· < ·))
    (beyond : ∀ h ∈ created, h.rotator = g.rotator → h.suffix < g.suffix) (r : Nat) :
    (((created ++ [g]).filter (·.rotator = r)).map (·.suffix)).Pairwise (· < ·) := by
  rw [List.filter_append, List.map_append]
  apply List.pairwise_append.2
  refine ⟨rising r, ?_, ?_⟩
  · exact (List.pairwise_singleton (· < ·) g.suffix).sublist (List.filter_sublist.map _)
  · intro old before new now
    obtain ⟨h, listed, rfl⟩ := List.mem_map.1 before
    obtain ⟨k, listed', rfl⟩ := List.mem_map.1 now
    rw [List.mem_filter, decide_eq_true_eq] at listed listed'
    obtain rfl := List.mem_singleton.1 listed'.1
    apply beyond h listed.1
    rw [listed.2, listed'.2]

/-- The state after a rotation has created its backup. -/
structure Creates (y : Layout) (s : Site) (v : Nat) (t : Turn) (place : Place) (source suffix : Nat)
    (s' : Site) : Prop where
  files : s'.files = s.files.addFile place []
  listing : s'.past.created =
    s.past.created ++ [⟨y.rotator v, t.clock, suffix, s.files.inodes.length⟩]
  emptied : s'.past.emptied = s.past.emptied
  synced : s'.past.synced = s.past.synced
  sweeps : s'.sweeps = s.sweeps
  last : s'.last = Function.update s.last (y.rotator v) (max (s.last (y.rotator v)) suffix)
  own : s'.visits v = .rotating
    { t with stage := .copying source (Backup.path y.live suffix) s.files.inodes.length
             made := some s.files.inodes.length }
  others : ∀ w, w ≠ v → s'.visits w = s.visits w

namespace Creates

variable {source suffix : Nat} {place : Place}

theorem advance {bound : Nat} (naming : t.stage = .naming source suffix bound) (now : Moment) :
    Creates y s v t place source suffix (s.advance y v t now (s.files.addFile place [])
      (max (s.last (y.rotator v)) suffix)
      (.copying source (Backup.path y.live suffix) s.files.inodes.length)) where
  files := rfl
  listing := by simp only [Site.advance, History.after, naming]
  emptied := by simp only [Site.advance, History.after, naming]
  synced := by simp only [Site.advance, History.after, naming]
  sweeps := rfl
  last := rfl
  own := (Function.update_self ..).trans (by rw [Turn.after_created naming])
  others w other := Function.update_of_ne other _ _

theorem of_mem (creates : Creates y s v t place source suffix s') {g : Creation}
    (listed : g ∈ s'.past.created) :
    g ∈ s.past.created ∨ g = ⟨y.rotator v, t.clock, suffix, s.files.inodes.length⟩ := by
  rwa [creates.listing, List.mem_append, List.mem_singleton] at listed

theorem mem_of_old (creates : Creates y s v t place source suffix s') {g : Creation}
    (listed : g ∈ s.past.created) : g ∈ s'.past.created := by
  rw [creates.listing]
  exact List.mem_append_left _ listed

theorem new_mem (creates : Creates y s v t place source suffix s') :
    ⟨y.rotator v, t.clock, suffix, s.files.inodes.length⟩ ∈ s'.past.created := by
  rw [creates.listing]
  exact List.mem_append_right _ (List.mem_singleton_self _)

theorem evolves (creates : Creates y s v t place source suffix s')
    (found : s.files.find false (Backup.path y.live suffix) = .ok ⟨place, none⟩) :
    s.files.Evolves s'.files :=
  creates.files ▸ .addFile (Files.node?_of_find found).symm []

theorem turning (creates : Creates y s v t place source suffix s') {w : Nat} {t' : Turn}
    (turning : s'.visits w = .rotating t') : w = v ∧
      t' = { t with stage := .copying source (Backup.path y.live suffix) s.files.inodes.length
                    made := some s.files.inodes.length } ∨
      w ≠ v ∧ s.visits w = .rotating t' := by
  by_cases same : w = v
  · rw [same, creates.own] at turning
    exact .inl ⟨same, (Visit.rotating.inj turning).symm⟩
  · rw [creates.others w same] at turning
    exact .inr ⟨same, turning⟩

end Creates

theorem Orderly.tidy_created (orderly : Orderly y s) (here : s.visits v = .rotating t)
    {source suffix bound : Nat} (naming : t.stage = .naming source suffix bound) {place : Place}
    (found : s.files.find false (Backup.path y.live suffix) = .ok ⟨place, none⟩)
    (creates : Creates y s v t place source suffix s')
    (created : ∀ g ∈ s'.past.created, g ∈ s.past.created ∨ s.files.inodes.length ≤ g.number) :
    Tidy y s' v
      { t with stage := .copying source (Backup.path y.live suffix) s.files.inodes.length
               made := some s.files.inodes.length } := by
  obtain ⟨traced, poised⟩ := orderly.turns v t here
  simp only [Poised, naming] at poised
  obtain ⟨opened, -, -, -⟩ := poised
  have kept := traced.keep (creates.evolves found) created
  have youth : s'.files.Young t.since (Backup.path y.live suffix) := by
    intro found' leads
    rw [creates.files, Files.find_addFile found] at leads
    obtain rfl := Except.ok.inj leads
    exact .inr ⟨s.files.inodes.length, traced.since, rfl⟩
  refine ⟨⟨kept.since, kept.opened, ?_, kept.led, kept.old, kept.foreign⟩, opened, rfl, youth⟩
  intro m made
  obtain rfl := Option.some.inj made
  rw [creates.files, Files.length_addFile]
  exact ⟨traced.since, Nat.lt_succ_self _⟩

theorem Orderly.created (orderly : Orderly y s) (here : s.visits v = .rotating t)
    {source suffix bound : Nat} (naming : t.stage = .naming source suffix bound) {place : Place}
    (found : s.files.find false (Backup.path y.live suffix) = .ok ⟨place, none⟩)
    (creates : Creates y s v t place source suffix s') (exclusive : s'.Exclusive y) :
    Orderly y s' := by
  obtain ⟨-, searched⟩ := orderly.searched here naming
  have after := searched.after
  have evolves := creates.evolves found
  have last : s'.last = Function.update s.last (y.rotator v) suffix := by
    rw [creates.last, Nat.max_eq_right (Nat.le_of_lt after)]
  have created : ∀ g ∈ s'.past.created,
      g ∈ s.past.created ∨ s.files.inodes.length ≤ g.number := by
    intro g listed
    rcases creates.of_mem listed with earlier | rfl
    · exact .inl earlier
    · exact .inr (Nat.le_refl _)
  refine { exclusive, sound := evolves.sound orderly.sound, rising := ?_, below := ?_, dated := ?_,
           linkFree := orderly.linkFree_keep evolves creates.sweeps, numbered := ?_, home := ?_, turns := ?_ }
  · rw [creates.listing]
    apply rising_append orderly.rising
    intro g listed same
    have below := orderly.below g listed
    rw [same] at below
    exact Nat.lt_of_le_of_lt below after
  · intro g listed
    rw [last, Function.update_apply]
    rcases creates.of_mem listed with earlier | rfl
    · have below := orderly.below g earlier
      split
      · next same =>
        rw [same] at below
        omega
      · exact below
    · rw [if_pos rfl]
  · intro g listed
    rcases creates.of_mem listed with earlier | rfl
    · exact orderly.dated g earlier
    · exact searched.dated
  · intro g listed
    rw [creates.files, Files.length_addFile]
    rcases creates.of_mem listed with earlier | rfl
    · have early := orderly.numbered g earlier
      omega
    · exact Nat.lt_succ_self _
  · intro g listed
    rcases creates.of_mem listed with earlier | rfl
    · exact orderly.home_keep evolves g earlier
    · intro other there
      rw [creates.files] at there ⊢
      rw [Files.node?_addFile (Files.node?_of_find found).symm] at there
      split at there
      · next same =>
        rw [same]
        exact Files.find_addFile found
      · exact absurd there orderly.sound.fresh
  · intro w t' turning
    rcases creates.turning turning with ⟨rfl, rfl⟩ | ⟨other, turned⟩
    · exact orderly.tidy_created here naming found creates created
    · refine (orderly.turns w t' turned).keep evolves ?_ created
      rw [last, Function.update_of_ne]
      intro same
      have inside : (s.visits v).inside := by
        rw [here]
        trivial
      exact orderly.exclusive.unturned inside (congrArg y.lock same) other t' turned

theorem Rotator.last_lt_first {r : Rotator} {now : Moment}
    (begins : r.first now < Rotator.bound (r.first now)) : r.last < r.first now := by
  have low : min (r.last + 1) Rotator.highest ≤ r.first now := Nat.le_max_right _ _
  have high : r.first now < Rotator.highest := Nat.lt_of_lt_of_le begins (Nat.min_le_right _ _)
  rcases Nat.le_total (r.last + 1) Rotator.highest with below | beyond
  · rw [Nat.min_eq_left below] at low
    exact low
  · rw [Nat.min_eq_right beyond] at low
    omega

theorem Orderly.opened (orderly : Orderly y s) (here : s.visits v = .rotating t)
    (opening : t.stage = .opening) {now : Moment} {source : Nat}
    (live : s.files.number y.live = .ok source) (next : Rotation.Stage)
    (searching : next = .search y.live source ((s.rotator y v).first now)
      (Rotator.bound ((s.rotator y v).first now)))
    (exclusive : (s.advance y v t now s.files (s.last (y.rotator v)) next).Exclusive y) :
    Orderly y (s.advance y v t now s.files (s.last (y.rotator v)) next) := by
  have poised := (orderly.turns v t here).poised
  simp only [Poised, opening] at poised
  refine orderly.advance here (.refl s.files) exclusive
    (fun _ _ _ naming => nomatch opening.symm.trans naming) ?_
  intro s' files last
  have reads : (s.files.number (s.rotator y v).live).toOption = some source := by
    rw [Site.rotator, live]
    rfl
  rw [Turn.after_opening opening, reads]
  by_cases begins : (s.rotator y v).first now < Rotator.bound ((s.rotator y v).first now)
  · refine Searched.poised ⟨?_, ?_, Nat.le_refl _, ?_⟩ rfl rfl (Nat.le_of_lt begins) searching
    · rw [last]
      exact Rotator.last_lt_first begins
    · exact Nat.le_max_left _ _
    · rw [Nat.sub_self, poised]
      rfl
  · rw [Rotation.Stage.search, if_neg begins] at searching
    unfold Poised
    rw [searching]
    intro _ below
    refine absurd ?_ begins
    rw [Rotator.bound, Nat.min_eq_left below]
    exact Nat.lt_add_of_pos_right (by decide)

theorem Orderly.failed (orderly : Orderly y s) (here : s.visits v = .rotating t) {now : Moment}
    {files : Files} {failure : Failure} (evolves : s.files.Evolves files)
    (named : failure ≠ Rotation.unnamed y.live)
    (exclusive : (s.advance y v t now files (s.last (y.rotator v))
      (.done (.error failure))).Exclusive y) :
    Orderly y (s.advance y v t now files (s.last (y.rotator v)) (.done (.error failure))) := by
  apply orderly.advance here evolves exclusive (fun _ _ _ _ _ _ _ => nofun)
  intro s' _ _
  simp only [Poised, Turn.stage_after]
  intro same
  exact absurd (Except.error.inj same) named

theorem Orderly.goes_on (orderly : Orderly y s) (here : s.visits v = .rotating t) {now : Moment}
    {files : Files} {next : Rotation.Stage} (evolves : s.files.Evolves files)
    (later : t.stage ≠ .opening) (named : ∀ source suffix bound, t.stage ≠ .naming source suffix bound)
    (exclusive : (s.advance y v t now files (s.last (y.rotator v)) next).Exclusive y)
    (poised : ∀ s', s'.files = files → Poised y s' v { t with stage := next }) :
    Orderly y (s.advance y v t now files (s.last (y.rotator v)) next) := by
  refine orderly.advance here evolves exclusive
    (fun source suffix bound naming => absurd naming (named source suffix bound)) ?_
  intro s' files _
  rw [Turn.after_later later named]
  exact poised s' files

theorem Orderly.move (orderly : Orderly y s) (here : s.visits v = .rotating t) {now : Moment}
    {fault : Option Files.Fault} (truthful : Truthful y s t fault) {files : Files} {last : Nat}
    {next : Rotation.Stage}
    (move : Rotation.Move (s.rotator y v) now fault s.files t.stage files last next)
    (exclusive : (s.advance y v t now files last next).Exclusive y) :
    s.files.Evolves files ∧ Orderly y (s.advance y v t now files last next) := by
  obtain ⟨traced, poised⟩ := orderly.turns v t here
  have still := Files.Evolves.refl s.files
  unfold Poised at poised
  generalize was : t.stage = stage at move poised
  cases move with
  | opened live first limit =>
    exact ⟨still, orderly.opened here was live _ (by rw [limit, first, Site.rotator]) exclusive⟩
  | unopened => exact ⟨still, orderly.failed here still Rotation.unopened_ne_unnamed exclusive⟩
  | created found =>
    refine ⟨.addFile (Files.node?_of_find found).symm [], ?_⟩
    exact orderly.created here was found (.advance was now) exclusive
  | @taken source suffix bound occupied =>
    refine ⟨still, ?_⟩
    obtain ⟨node, occupied⟩ : ∃ node, s.files.occupant (Backup.path y.live suffix) = some node := by
      rcases occupied with ⟨place, node, found⟩ | ⟨spoilt, faulty, exists_⟩
      · exact ⟨node, Files.occupant_eq_some.2 ⟨place, found⟩⟩
      · exact truthful spoilt faulty exists_ source suffix bound was
    exact orderly.taken here was occupied exclusive
  | uncreated other =>
    exact ⟨still, orderly.failed here still (Rotation.uncreated_ne_unnamed other) exclusive⟩
  | @copied source target backup content whole =>
    obtain ⟨opened, made, young⟩ := poised
    have evolves : s.files.Evolves (s.files.revise target (Files.overwrite content)) := .revise _
    refine ⟨evolves, orderly.goes_on here evolves (by simp [was]) (by simp [was]) exclusive ?_⟩
    intro s' files
    exact ⟨opened, made, young.evolves (files ▸ evolves) traced.since⟩
  | @broken source target moved backup content cause readable =>
    obtain ⟨-, -, young⟩ := poised
    have evolves :
        s.files.Evolves (s.files.revise target (Files.overwrite (content.take moved))) := .revise _
    refine ⟨evolves, orderly.goes_on here evolves (by simp [was]) (by simp [was]) exclusive ?_⟩
    intro s' files
    exact young.evolves (files ▸ evolves) traced.since
  | unread | unsynced =>
    obtain ⟨-, -, young⟩ := poised
    refine ⟨still, orderly.goes_on here still (by simp [was]) (by simp [was]) exclusive ?_⟩
    intro s' files
    exact young.evolves (files ▸ still) traced.since
  | synced =>
    obtain ⟨opened, -, -⟩ := poised
    exact ⟨still, orderly.goes_on here still (by simp [was]) (by simp [was]) exclusive
      fun _ _ => opened⟩
  | @removed backup cause place node found leaf =>
    obtain ⟨n, -, file⟩ := (poised _ found).resolve_left (by simp)
    have evolves : s.files.Evolves (s.files.erase place) :=
      .erase ((Files.node?_of_find found).symm.trans file)
    exact ⟨evolves, orderly.failed here evolves Rotation.discarded_ne_unnamed exclusive⟩
  | kept => exact ⟨still, orderly.failed here still Rotation.discarded_ne_unnamed exclusive⟩
  | @emptied source bytes backup content regular =>
    have evolves : s.files.Evolves (s.files.revise source fun _ => []) := .revise _
    refine ⟨evolves, orderly.goes_on here evolves (by simp [was]) (by simp [was]) exclusive ?_⟩
    intro _ _
    nofun
  | unemptied =>
    exact ⟨still, orderly.failed here still Rotation.untruncated_ne_unnamed exclusive⟩

theorem Orderly.visited (orderly : Orderly y s) (files : s'.files = s.files) (last : s'.last = s.last)
    (sweeps : s'.sweeps = s.sweeps) (created : s'.past.created = s.past.created)
    (exclusive : s'.Exclusive y)
    (turns : ∀ w t, s'.visits w = .rotating t → s.visits w = .rotating t ∨ Tidy y s' w t) :
    s.files.Evolves s'.files ∧ Orderly y s' := by
  have evolves : s.files.Evolves s'.files := files ▸ .refl _
  refine ⟨evolves, orderly.keep evolves exclusive (orderly.linkFree_keep evolves sweeps) created last ?_⟩
  intro w t turning
  rcases turns w t turning with before | tidy
  · exact orderly.others evolves last created before
  · exact tidy

theorem Orderly.changed (orderly : Orderly y s) (evolves : s.files.Evolves s'.files)
    (exclusive : s'.Exclusive y) (visits : s'.visits = s.visits) (last : s'.last = s.last)
    (created : s'.past.created = s.past.created) (linkFree : ∀ k, (s'.sweeps k).LinkFree s'.files) :
    s.files.Evolves s'.files ∧ Orderly y s' := by
  refine ⟨evolves, orderly.keep evolves exclusive linkFree created last ?_⟩
  intro w t turning
  rw [visits] at turning
  exact orderly.others evolves last created turning

theorem Tidy.fresh : Tidy y s v { since := s.files.inodes.length } where
  traced := ⟨Nat.le_refl _, nofun, nofun, nofun, nofun, nofun⟩
  poised := rfl

theorem Tidy.forget (tidy : Tidy y s v t) : Tidy y s v { t with awaited := false } := by
  obtain ⟨traced, poised⟩ := tidy
  refine ⟨⟨traced.since, traced.opened, traced.made, traced.led, traced.old, traced.foreign⟩, ?_⟩
  unfold Poised at poised ⊢
  cases stage : t.stage <;> simp only [stage] at poised ⊢
  case naming =>
    obtain ⟨opened, more, limit, searched⟩ := poised
    exact ⟨opened, more, limit, ⟨searched.after, searched.dated, searched.reached, searched.tried⟩⟩
  all_goals exact poised

/-- No fault claims that a free name is taken. -/
def Site.Honest (y : Layout) (s : Site) : Action → Prop
  | .request v _ fault => ∀ t, s.visits v = .rotating t → Truthful y s t fault
  | _ => True

theorem Step.orderly (step : Step y s a s') (honest : s.Honest y a) (orderly : Orderly y s) :
    s.files.Evolves s'.files ∧ Orderly y s' := by
  have exclusive := step.exclusive orderly.exclusive
  cases step with
  | ask here | forgo here | write here | leave here | finish here =>
    refine orderly.visited rfl rfl rfl rfl exclusive ?_
    intro w t turning
    simp only [Site.visits_visit, Site.visits_relock] at turning
    split at turning
    · cases turning
    · exact .inl turning
  | rotate here granted =>
    refine orderly.visited rfl rfl rfl rfl exclusive ?_
    intro w t turning
    simp only [Site.visits_visit] at turning
    split at turning
    · obtain rfl := Visit.rotating.inj turning
      exact .inr .fresh
    · exact .inl turning
  | @forget v t here =>
    refine orderly.visited rfl rfl rfl rfl exclusive ?_
    intro w t' turning
    simp only [Site.visits_visit] at turning
    split at turning
    · next same =>
      obtain rfl := Visit.rotating.inj turning
      subst same
      exact .inr ((orderly.turns w t here).forget.keep (.refl _) rfl fun g listed => .inl listed)
    · exact .inl turning
  | @request v t now fault here asks =>
    obtain ⟨files, last, next, move, made⟩ := Site.request_move v now fault asks
    rw [made] at exclusive ⊢
    exact orderly.move here (honest t here) move exclusive
  | append here appended =>
    have evolves := Files.Evolves.append appended
    exact orderly.changed evolves exclusive rfl rfl rfl (orderly.linkFree_keep evolves rfl)
  | @piece v moved source target backup content t here copying readable =>
    have evolves :
        s.files.Evolves (s.files.revise target (Files.overwrite (content.take moved))) := .revise _
    exact orderly.changed evolves exclusive rfl rfl rfl (orderly.linkFree_keep evolves rfl)
  | @sweep k retention now started listed =>
    refine orderly.changed (.refl _) exclusive rfl rfl rfl ?_
    intro j
    simp only [Function.update_apply]
    split
    · exact Sweep.linkFree_of_start orderly.sound listed
    · exact orderly.linkFree j
  | @expel k fault =>
    obtain ⟨fewer, files⟩ := Sweep.step_cases (orderly.linkFree k) fault
    have evolves : s.files.Evolves ((s.sweeps k).step fault s.files).2.1 := by
      rcases files with same | ⟨place, n, file, gone⟩
      · rw [same]
        exact .refl _
      · rw [gone]
        exact .erase file
    refine orderly.changed evolves exclusive rfl rfl rfl ?_
    intro j
    simp only [Function.update_apply]
    split
    · intro b pending
      exact ((orderly.linkFree k) b (fewer pending)).same evolves.ways
    · exact (orderly.linkFree j).same evolves.ways
  | @appear place content free =>
    have evolves := Files.Evolves.addFile free content
    exact orderly.changed evolves exclusive rfl rfl rfl (orderly.linkFree_keep evolves rfl)
  | vanish file =>
    have evolves := Files.Evolves.erase file
    exact orderly.changed evolves exclusive rfl rfl rfl (orderly.linkFree_keep evolves rfl)

theorem Orderly.origin (sound : f.Sound) : Orderly y { files := f } where
  sound := sound
  exclusive := Site.exclusive_origin f
  linkFree _ _ pending := absurd pending List.not_mem_nil
  rising _ := .nil
  below _ listed := absurd listed List.not_mem_nil
  dated _ listed := absurd listed List.not_mem_nil
  numbered _ listed := absurd listed List.not_mem_nil
  home _ listed := absurd listed List.not_mem_nil
  turns _ _ turning := nomatch turning

theorem Run.orderly {allowed : Site → Action → Prop} {start : Site}
    (honest : ∀ s a, allowed s a → s.Honest y a) (run : Run y allowed start s)
    (orderly : Orderly y start) : Orderly y s := by
  induction run with
  | here => exact orderly
  | next _ fair step ih => exact (step.orderly (honest _ _ fair) ih).2

end AuditTrail
