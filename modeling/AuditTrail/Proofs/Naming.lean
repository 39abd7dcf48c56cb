import AuditTrail.Proofs.Rotation
import Mathlib.Algebra.Group.Nat.Defs
import Mathlib.Order.Bounds.Basic

/-! How a rotation finds a name for its backup. It tries one suffix after another, from the first
that the clock and the last suffix allow, and goes on while names are taken. `Probe` is the result
of one attempt. -/
namespace AuditTrail.Rotation

/-- The result of creating a file with a given name. -/
inductive Probe (f : Files) (fault : Option Files.Fault) (name : Path) : Except IoError Place → Prop where
  | free {place : Place} (calm : fault = none) (found : f.find false name = .ok ⟨place, none⟩) :
      Probe f fault name (.ok place)
  | occupied {place : Place} {node : Node} (calm : fault = none)
      (found : f.find false name = .ok ⟨place, some node⟩) :
      Probe f fault name (.error (.ofKind .alreadyExists))
  | astray {cause : IoError} (calm : fault = none) (lost : f.find false name = .error cause) :
      Probe f fault name (.error cause)
  | spoilt {spoilt : Files.Fault} (met : fault = some spoilt) : Probe f fault name (.error spoilt.cause)

/-- Creating the file for the suffix fails because its name exists. -/
def Taken (f : Files) (faults : Nat → Option Files.Fault) (live : Path) (suffix : Nat) : Prop :=
  ∃ cause, Probe f (faults suffix) (Backup.path live suffix) (.error cause) ∧ cause.kind = .alreadyExists

/-- Runs the search for a name, where the faults of the requests are given. -/
def named (now : Moment) (faults : Nat → Option Files.Fault) (w : Rotation) : Rotation :=
  match _h : w.stage with
  | .naming _ suffix _ => named now faults (w.step now (faults suffix))
  | _ => w
termination_by w.stage.rank
decreasing_by exact rank_step (by rw [_h]; rfl)

section Probe

variable {f : Files} {fault : Option Files.Fault} {name : Path} {place : Place} {cause : IoError}

theorem exists_probe (f : Files) (fault : Option Files.Fault) (name : Path) :
    ∃ answer, Probe f fault name answer := by
  cases fault with
  | some spoilt => exact ⟨_, .spoilt rfl⟩
  | none => cases found : f.find false name with
    | error cause => exact ⟨_, .astray rfl found⟩
    | ok target =>
      obtain ⟨place, _ | node⟩ := target
      · exact ⟨_, .free rfl found⟩
      · exact ⟨_, .occupied rfl found⟩

theorem Probe.unique {answer other : Except IoError Place} (probe : Probe f fault name answer)
    (again : Probe f fault name other) : answer = other := by
  cases probe <;> cases again <;> simp_all

theorem taken_iff {faults : Nat → Option Files.Fault} {live : Path} {suffix : Nat} (calm : faults suffix = none) :
    Taken f faults live suffix ↔
      ∃ place node, f.find false (Backup.path live suffix) = .ok ⟨place, some node⟩ := by
  constructor
  · rintro ⟨cause, probe, exists_⟩
    cases probe with
    | occupied _ found => exact ⟨_, _, found⟩
    | astray _ lost => exact absurd exists_ (Files.find_error lost)
    | spoilt met => rw [calm] at met; cases met
  · rintro ⟨place, node, found⟩
    exact ⟨_, .occupied calm found, rfl⟩

theorem Probe.serve_ok (probe : Probe f fault name (.ok place)) :
    f.serve fault (.create name) = (.ok f.inodes.length, f.addFile place []) := by
  cases probe with
  | free calm found => simp only [calm, Files.serve, Files.answer, Files.create, found]

theorem Probe.serve_error (probe : Probe f fault name (.error cause)) :
    f.serve fault (.create name) = (.error cause, f) := by
  cases probe with
  | occupied calm found | astray calm found =>
    simp only [calm, Files.serve, Files.answer, Files.create, found]
  | spoilt met => simp only [met, Files.serve, Files.refuse]

end Probe

variable (now : Moment) {w : Rotation} {faults : Nat → Option Files.Fault} {source suffix bound : Nat}

theorem named_naming (naming : w.stage = .naming source suffix bound) :
    named now faults w = named now faults (w.step now (faults suffix)) := by
  rw [named]
  split
  · next same =>
    rw [naming] at same
    obtain ⟨-, rfl, -⟩ := Stage.naming.inj same
    rfl
  · next other => exact absurd naming (other _ _ _)

theorem named_other (other : ∀ source suffix bound, w.stage ≠ .naming source suffix bound) :
    named now faults w = w := by
  rw [named]
  split
  · next same => exact absurd same (other _ _ _)
  · rfl

/-- A request that fails because its name exists is followed by the next one. Any other failure ends the
rotation. -/
theorem step_refused {cause : IoError} (naming : w.stage = .naming source suffix bound)
    (probe : Probe w.files (faults suffix) (Backup.path w.rotator.live suffix) (.error cause)) :
    (w.step now (faults suffix)).files = w.files ∧ (w.step now (faults suffix)).rotator = w.rotator ∧
    (w.step now (faults suffix)).stage = if cause.kind = .alreadyExists then
      .search w.rotator.live source (suffix + 1) bound
    else .done (.error (.io
      s!"failed to create backup {(Backup.path w.rotator.live suffix).display}" cause)) := by
  simp only [step, naming, Stage.asks, probe.serve_error, Stage.next, Rotator.learn, Stage.given, true_and]

theorem step_named {place : Place} (naming : w.stage = .naming source suffix bound)
    (probe : Probe w.files (faults suffix) (Backup.path w.rotator.live suffix) (.ok place)) :
    (w.step now (faults suffix)).files = w.files.addFile place [] ∧
    (w.step now (faults suffix)).rotator = { w.rotator with last := max w.rotator.last suffix } ∧
    (w.step now (faults suffix)).stage =
      .copying source (Backup.path w.rotator.live suffix) w.files.inodes.length := by
  simp only [step, naming, Stage.asks, probe.serve_ok, Stage.next, Rotator.learn, Stage.given, true_and]

theorem named_reaches {s : Nat} (searching : w.stage = .search w.rotator.live source suffix bound)
    (low : suffix ≤ s) (high : s ≤ bound)
    (taken : ∀ earlier, suffix ≤ earlier → earlier < s → Taken w.files faults w.rotator.live earlier) :
    ∃ v : Rotation, named now faults w = named now faults v ∧ v.files = w.files ∧ v.rotator = w.rotator ∧
      v.stage = .search w.rotator.live source s bound := by
  induction s, low using Nat.le_induction with
  | base => exact ⟨w, rfl, rfl, rfl, searching⟩
  | succ s low ih =>
    obtain ⟨v, same, files, rotator, stage⟩ :=
      ih (by omega) fun earlier least less => taken earlier least (by omega)
    rw [Stage.search, if_pos (Nat.lt_of_succ_le high)] at stage
    obtain ⟨cause, probe, exists_⟩ := taken s low (Nat.lt_succ_self s)
    rw [← files, ← rotator] at probe
    obtain ⟨files', rotator', stage'⟩ := step_refused now stage probe
    rw [if_pos exists_] at stage'
    exact ⟨v.step now (faults s), same.trans (named_naming now stage), files'.trans files,
      rotator'.trans rotator, rotator ▸ stage'⟩

theorem named_untaken {s : Nat} (searching : w.stage = .search w.rotator.live source suffix bound)
    (low : suffix ≤ s) (high : s < bound)
    (taken : ∀ earlier, suffix ≤ earlier → earlier < s → Taken w.files faults w.rotator.live earlier)
    (untaken : ¬ Taken w.files faults w.rotator.live s) :
    (∃ place, Probe w.files (faults s) (Backup.path w.rotator.live s) (.ok place) ∧
      (named now faults w).files = w.files.addFile place [] ∧
      (named now faults w).rotator = { w.rotator with last := max w.rotator.last s } ∧
      (named now faults w).stage = .copying source (Backup.path w.rotator.live s) w.files.inodes.length) ∨
    ∃ cause, Probe w.files (faults s) (Backup.path w.rotator.live s) (.error cause) ∧
      cause.kind ≠ .alreadyExists ∧ (named now faults w).files = w.files ∧
      (named now faults w).rotator = w.rotator ∧ (named now faults w).stage = .done (.error
        (.io s!"failed to create backup {(Backup.path w.rotator.live s).display}" cause)) := by
  obtain ⟨v, same, files, rotator, stage⟩ := named_reaches now searching low high.le taken
  rw [Stage.search, if_pos high] at stage
  rw [same, named_naming now stage, ← files, ← rotator]
  rw [← files, ← rotator] at untaken
  obtain ⟨answer, probe⟩ := exists_probe v.files (faults s) (Backup.path v.rotator.live s)
  cases answer with
  | ok place =>
    have made := step_named now stage probe
    rw [named_other now (by simp [made.2.2])]
    exact .inl ⟨place, probe, made⟩
  | error cause =>
    have other : cause.kind ≠ .alreadyExists := fun exists_ => untaken ⟨cause, probe, exists_⟩
    have failed := step_refused now stage probe
    rw [if_neg other] at failed
    rw [named_other now (by simp [failed.2.2])]
    exact .inr ⟨cause, probe, other, failed⟩

theorem named_exhausted (searching : w.stage = .search w.rotator.live source suffix bound)
    (taken : ∀ s, suffix ≤ s → s < bound → Taken w.files faults w.rotator.live s) :
    (named now faults w).files = w.files ∧ (named now faults w).rotator = w.rotator ∧
    (named now faults w).stage = .done (.error (unnamed w.rotator.live)) := by
  have given_up : ∀ {v : Rotation} {s : Nat}, bound ≤ s → v.stage = .search w.rotator.live source s bound →
      named now faults v = v ∧ v.stage = .done (.error (unnamed w.rotator.live)) := by
    intro v s beyond stage
    rw [Stage.search, if_neg (Nat.not_lt.2 beyond)] at stage
    exact ⟨named_other now (by simp [stage]), stage⟩
  rcases Nat.lt_or_ge bound suffix with beyond | low
  · obtain ⟨still, stage⟩ := given_up beyond.le searching
    rw [still]
    exact ⟨rfl, rfl, stage⟩
  · obtain ⟨v, same, files, rotator, reached⟩ :=
      named_reaches now searching low (Nat.le_refl _) taken
    obtain ⟨still, stage⟩ := given_up (Nat.le_refl _) reached
    rw [same, still]
    exact ⟨files, rotator, stage⟩

/-- The search begins at the second of the clock or after the last suffix, whichever is greater, and tries at
most 1024 suffixes below the limit. The least suffix whose name does not exist decides: its backup is created,
or the rotation fails for another reason. If all names exist, the rotation fails for that reason. A failed
search leaves the files and the last suffix unchanged. -/
theorem least_free_named (r : Rotator) (f : Files) (notes : Journal) (source : Nat) (now : Moment)
    (faults : Nat → Option Files.Fault) :
    let start := max (now.nanos / 1000000000).toNat (min (r.last + 1) (2 ^ 64 - 1))
    let bound := min (start + 1024) (2 ^ 64 - 1)
    let name := Backup.path r.live
    let untaken := { s | start ≤ s ∧ s < bound ∧ ¬ Taken f faults r.live s }
    let w := named now faults ⟨r, f, Stage.opening.next r now (.ok source), notes⟩
    (∀ s, faults s = none →
      (Taken f faults r.live s ↔ ∃ place node, f.find false (name s) = .ok ⟨place, some node⟩)) ∧
    (untaken = ∅ → w.files = f ∧ w.rotator = r ∧ w.stage = .done (.error
      (.io s!"failed to create backup for {r.live.display}" ⟨.alreadyExists, "no free backup suffix"⟩))) ∧
    ∀ s, IsLeast untaken s →
      (∃ place, Probe f (faults s) (name s) (.ok place) ∧ w.files = f.addFile place [] ∧
        w.rotator = { r with last := s } ∧ w.stage = .copying source (name s) f.inodes.length) ∨
      ∃ cause, Probe f (faults s) (name s) (.error cause) ∧ cause.kind ≠ .alreadyExists ∧
        w.files = f ∧ w.rotator = r ∧
        w.stage = .done (.error (.io s!"failed to create backup {(name s).display}" cause)) := by
  intro start bound name untaken w
  let begun : Rotation := ⟨r, f, Stage.opening.next r now (.ok source), notes⟩
  have highest : Rotator.highest = 2 ^ 64 - 1 := by decide
  have searching : begun.stage = .search r.live source start bound := by
    simp only [begun, Stage.next, start, bound, Rotator.bound, Rotator.first, highest]
    rfl
  refine ⟨fun s => taken_iff, fun none_untaken => ?_, fun s least => ?_⟩
  · refine named_exhausted now searching fun s low high => ?_
    by_contra free
    exact Set.eq_empty_iff_forall_notMem.1 none_untaken s ⟨low, high, free⟩
  · obtain ⟨⟨low, high, free⟩, first⟩ := least
    have taken : ∀ earlier, start ≤ earlier → earlier < s → Taken f faults r.live earlier := by
      intro earlier least less
      by_contra free
      exact absurd (first ⟨least, less.trans high, free⟩) (Nat.not_le.2 less)
    have later : r.last ≤ s := by
      have := Nat.le_max_right (now.nanos / 1000000000).toNat (min (r.last + 1) (2 ^ 64 - 1))
      omega
    have ends := named_untaken now searching low high taken free
    rw [show max begun.rotator.last s = s from Nat.max_eq_right later] at ends
    exact ends

theorem least_free_named_epoch :
    let r : Rotator := { live := ⟨[0x61]⟩, last := 4 }
    let f := (Files.single [0x61] [0x78]).addFile [[0x61, 0x2E, 0x35]] []
    let w := named ⟨-1⟩ (fun _ => none) ⟨r, f, Stage.opening.next r ⟨-1⟩ (.ok 0), []⟩
    w.rotator.last = 6 ∧ w.files = f.addFile [[0x61, 0x2E, 0x36]] [] := by
  intro r f w
  have occupied : f.find false (Backup.path r.live 5) = .ok ⟨[[0x61, 0x2E, 0x35]], some (.file 1)⟩ := by
    decide +kernel
  have free : f.find false (Backup.path r.live 6) = .ok ⟨[[0x61, 0x2E, 0x36]], none⟩ := by decide +kernel
  obtain ⟨taken, -, ends⟩ := least_free_named r f [] 0 ⟨-1⟩ fun _ => none
  have start : max ((-1 : Int) / 1000000000).toNat (min (r.last + 1) (2 ^ 64 - 1)) = 5 := by decide
  have untaken : ¬ Taken f (fun _ => none) r.live 6 := by
    rw [taken 6 rfl]
    rintro ⟨place, node, found⟩
    rw [free] at found
    cases found
  have before : Taken f (fun _ => none) r.live 5 := (taken 5 rfl).2 ⟨_, _, occupied⟩
  simp only [start] at ends
  have least : IsLeast { s | 5 ≤ s ∧ s < min (5 + 1024) (2 ^ 64 - 1) ∧
      ¬ Taken f (fun _ => none) r.live s } 6 := by
    refine ⟨⟨by decide, by decide, untaken⟩, fun s member => ?_⟩
    obtain ⟨low, -, other⟩ := member
    have : s ≠ 5 := fun same => other (same ▸ before)
    omega
  have probed : Probe f none (Backup.path r.live 6) (.ok [[0x61, 0x2E, 0x36]]) := .free rfl free
  rcases ends 6 least with ⟨place, probe, files, rotator, -⟩ | ⟨cause, probe, -⟩
  · obtain rfl := Except.ok.inj (probed.unique probe)
    exact ⟨congrArg Rotator.last rotator, files⟩
  · cases probed.unique probe

end AuditTrail.Rotation
