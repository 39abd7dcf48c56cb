import AuditTrail.Proofs.Rotation

/-! The result of a rotation while nobody else changes the files. A rotation that succeeds has made
one backup and emptied the log. One that fails leaves all entries and contents as they were, unless
emptying the log failed, and then the backup stays. `Stage.Amounts` is the invariant. -/
namespace AuditTrail

namespace Files

variable {f g : Files} {place : Place} {content : Bytes} {n : Nat} {p : Path}

/-- The same entries with the same contents. Files without a name do not count. -/
structure Unchanged (f g : Files) : Prop where
  nodes : g.nodes = f.nodes
  here : g.here = f.here
  contents : ∀ place n, f.node? place = some (.file n) → g.inode? n = f.inode? n

theorem Unchanged.refl (f : Files) : Unchanged f f := ⟨rfl, rfl, fun _ _ _ => rfl⟩

theorem revise_addFile (change : Bytes → Bytes) :
    (f.addFile place content).revise f.inodes.length change = f.addFile place (change content) := by
  simp [revise, addFile, add, List.modify_eq_take_cons_drop]

theorem Unchanged.erase_addFile (sound : f.Sound) (free : f.node? place = none) (content : Bytes) :
    Unchanged f ((f.addFile place content).erase place) where
  nodes := by
    have absent := free
    rw [node?_eq (ne_root_of_free free), Option.map_eq_none_iff, List.find?_eq_none] at absent
    have kept : f.nodes.filter (·.1 != place) = f.nodes :=
      List.filter_eq_self.2 fun entry member => by simpa using absent entry member
    simp [erase, addFile, add, List.filter_append, kept]
  here := rfl
  contents other n file := by
    have old := sound.numbered other n file
    rw [inode?_erase, inode?_addFile, if_neg (Nat.ne_of_lt old)]

theorem contentOf_addFile (old : n < f.inodes.length) :
    (f.addFile place content).contentOf n = f.contentOf n := by
  simp only [contentOf, inode?_addFile, if_neg (Nat.ne_of_lt old)]

end Files

namespace Rotation

open Stage (search)

def untruncated (live : Path) (cause : IoError) : Failure :=
  .io s!"failed to truncate audit log {live.display}" cause

section Untruncated

variable {live backup : Path} {cause cause' : IoError} {suffix : Nat}

theorem unopened_ne_untruncated :
    Failure.io s!"failed to open audit log {live.display}" cause ≠ untruncated live cause' := fun same =>
  append_ne_append 11 _ _ (by decide) (by decide) (Failure.io.inj same).1

theorem uncreated_ne_untruncated :
    Failure.io s!"failed to create backup {backup.display}" cause ≠ untruncated live cause' := fun same =>
  append_ne_append 11 _ _ (by decide) (by decide) (Failure.io.inj same).1

theorem discarded_ne_untruncated : discarded backup cause ≠ untruncated live cause' := fun same =>
  append_ne_append 11 _ _ (by decide) (by decide) (Failure.io.inj same).1

end Untruncated

/-- A rotation by itself, with any clock readings and faults, except for a fault in the removal of its
backup. -/
inductive Run (start : Rotation) : Rotation → Prop where
  | here : Run start start
  | next {w : Rotation} (run : Run start w) (now : Moment) (fault : Option Files.Fault)
      (fair : ∀ backup cause, w.stage = .discarding backup cause → fault = none) :
      Run start (w.step now fault)

/-- The files with a new backup in a place that was free. -/
def Made (live : Path) (f : Files) (backup : Path) (content : Bytes) (files : Files) : Prop :=
  ∃ suffix place, backup = Backup.path live suffix ∧ f.find false backup = .ok ⟨place, none⟩ ∧
    files = f.addFile place content

structure Copied (live : Path) (f : Files) (source : Nat) (backup : Path) (content : Bytes)
    (files : Files) : Prop where
  opened : f.number live = .ok source
  whole : f.contentOf source = .ok content
  made : Made live f backup content files

/-- The files at each stage of a rotation that began with the files `f`. -/
def Stage.Amounts (live : Path) (f files : Files) : Stage → Prop
  | .opening => files = f
  | .naming source _ _ => files = f ∧ f.number live = .ok source
  | .copying source backup target =>
    f.number live = .ok source ∧ target = f.inodes.length ∧ Made live f backup [] files
  | .syncing source backup _ bytes | .truncating source backup bytes =>
    ∃ content, Copied live f source backup content files ∧ bytes = content.length
  | .discarding backup _ => ∃ part, Made live f backup part files
  | .done (.ok ⟨backup, bytes⟩) => ∃ source content g, Copied live f source backup content g ∧
      f.inode? source = some (.regular content) ∧ bytes = content.length ∧
      files = g.revise source fun _ => []
  | .done (.error failure) => ((∀ cause, failure ≠ untruncated live cause) ∧ f.Unchanged files) ∨
    ∃ cause source backup content, failure = untruncated live cause ∧
      Copied live f source backup content files

variable {f : Files} {w : Rotation} {now : Moment} {fault : Option Files.Fault}

theorem Stage.amounts_search {live : Path} {source suffix bound : Nat} (opened : f.number live = .ok source) :
    (search live source suffix bound).Amounts live f f := by
  unfold search
  split
  · exact ⟨rfl, opened⟩
  · exact .inl ⟨fun _ same => untruncated_ne_unnamed same.symm, .refl f⟩

theorem Made.discards (sound : f.Sound) {r : Rotator} {files : Files} {notes : Journal} {live backup : Path}
    {cause : IoError} {part : Bytes} (made : Made live f backup part files)
    (stepped : step now none ⟨r, files, .discarding backup cause, notes⟩ = w) :
    w.stage.Amounts live f w.files := by
  obtain ⟨suffix, place, -, found, rfl⟩ := made
  obtain rfl := stepped
  refine .inl ⟨fun _ => discarded_ne_untruncated, ?_⟩
  simp only [step, Stage.asks, Files.serve, Files.answer, Files.remove, Files.find_addFile found]
  exact .erase_addFile sound (Files.node?_of_find found).symm part

theorem Copied.regular (sound : f.Sound) {live backup : Path} {source : Nat} {content held : Bytes}
    {files : Files} (copied : Copied live f source backup content files)
    (regular : files.inode? source = some (.regular held)) :
    f.inode? source = some (.regular content) := by
  obtain ⟨opened, whole, -, place, -, found, rfl⟩ := copied
  rw [Files.inode?_addFile, if_neg (Nat.ne_of_lt (Files.number_old sound opened))] at regular
  rw [Files.contentOf_regular regular] at whole
  rw [regular, Except.ok.inj whole]

theorem amounts_step (sound : f.Sound) (amounts : w.stage.Amounts w.rotator.live f w.files)
    (fair : ∀ backup cause, w.stage = .discarding backup cause → fault = none) :
    (w.step now fault).stage.Amounts w.rotator.live f (w.step now fault).files := by
  by_cases asks : (w.stage.asks w.rotator.live).isSome
  · have move := step_move now fault asks
    obtain ⟨r, files, stage, notes⟩ := w
    generalize stepped : step now fault ⟨r, files, stage, notes⟩ = w' at move ⊢
    obtain ⟨r', files', stage', notes'⟩ := w'
    dsimp only at move amounts fair ⊢
    generalize r'.last = last at move
    cases move with
    | opened live =>
      obtain rfl := amounts
      exact Stage.amounts_search live
    | unopened =>
      obtain rfl := amounts
      exact .inl ⟨fun _ => unopened_ne_untruncated, .refl _⟩
    | created found =>
      obtain ⟨rfl, opened⟩ := amounts
      exact ⟨opened, rfl, _, _, rfl, found, rfl⟩
    | taken =>
      obtain ⟨rfl, opened⟩ := amounts
      exact Stage.amounts_search opened
    | uncreated =>
      obtain ⟨rfl, opened⟩ := amounts
      exact .inl ⟨fun _ => uncreated_ne_untruncated, .refl _⟩
    | copied whole =>
      obtain ⟨opened, rfl, suffix, place, named, found, rfl⟩ := amounts
      rw [Files.contentOf_addFile (Files.number_old sound opened)] at whole
      refine ⟨_, ⟨opened, whole, suffix, place, named, found, ?_⟩, rfl⟩
      rw [Files.revise_addFile, Files.overwrite, List.drop_nil, List.append_nil]
    | broken =>
      obtain ⟨opened, rfl, suffix, place, named, found, rfl⟩ := amounts
      exact ⟨_, suffix, place, named, found, Files.revise_addFile _⟩
    | unread =>
      obtain ⟨-, -, made⟩ := amounts
      exact ⟨[], made⟩
    | synced => exact amounts
    | unsynced =>
      obtain ⟨content, copied, -⟩ := amounts
      exact ⟨content, copied.made⟩
    | removed | kept =>
      obtain rfl := fair _ _ rfl
      obtain ⟨part, made⟩ := amounts
      exact made.discards sound stepped
    | emptied regular =>
      obtain ⟨content, copied, rfl⟩ := amounts
      exact ⟨_, content, _, copied, copied.regular sound regular, rfl, rfl⟩
    | unemptied =>
      obtain ⟨content, copied, -⟩ := amounts
      exact .inr ⟨_, _, _, content, rfl, copied⟩
  · cases ended : w.stage with
    | done outcome =>
      rw [ended] at amounts
      simp only [step, ended, Stage.asks]
      exact amounts
    | _ => exact absurd (by rw [ended]; rfl) asks

theorem Run.amounts {start : Rotation} (run : Run start w) (sound : start.files.Sound)
    (begins : start.stage = .opening) :
    w.rotator.live = start.rotator.live ∧ w.stage.Amounts start.rotator.live start.files w.files := by
  induction run with
  | here => exact ⟨rfl, by rw [begins]; rfl⟩
  | next _ now fault fair ih =>
    obtain ⟨same, amounts⟩ := ih
    rw [← same] at amounts ⊢
    exact ⟨live_step, amounts_step sound amounts fair⟩

theorem Copied.read_emptied (sound : f.Sound) {live backup : Path} {source : Nat} {content : Bytes}
    {files : Files} (copied : Copied live f source backup content files)
    (regular : f.inode? source = some (.regular content)) :
    (files.revise source fun _ => []).read backup = .ok content ∧
      (files.revise source fun _ => []).read live = .ok [] := by
  obtain ⟨opened, -, -, place, -, found, rfl⟩ := copied
  have free := (Files.node?_of_find found).symm
  have apart := Nat.ne_of_lt (Files.number_old sound opened)
  have kept : (f.addFile place content).inode? source = some (.regular content) := by
    rw [Files.inode?_addFile, if_neg apart, regular]
  refine ⟨?_, ?_⟩
  · have names : (f.addFile place content).Names backup f.inodes.length := Files.names_addFile found
    rw [Files.read, (names.revise fun _ => []).number]
    refine Files.contentOf_regular ?_
    rw [Files.inode?_revise_other apart.symm, Files.inode?_addFile, if_pos rfl]
  · rw [Files.read, Files.number_revise _ (Files.number_addFile free opened)]
    exact Files.contentOf_regular (Files.inode?_revise_same kept)

theorem Stage.eq_done {stage : Stage} {outcome : Except Failure Rotated}
    (ended : stage.outcome? = some outcome) : stage = .done outcome := by
  cases stage with
  | done => rw [Option.some.inj ended]
  | _ => cases ended

/-- A successful rotation makes a backup of the live log, empties the log and changes nothing else. A failed
one changes nothing, unless the truncation has failed, which leaves the complete backup beside the log. -/
theorem leaves_no_trace {r : Rotator} (sound : f.Sound) (run : Run { rotator := r, files := f } w) :
    (∀ backup bytes, w.stage.outcome? = some (.ok ⟨backup, bytes⟩) → ∃ source place content,
      f.number r.live = .ok source ∧ f.inode? source = some (.regular content) ∧
      bytes = content.length ∧ f.find false backup = .ok ⟨place, none⟩ ∧
      w.files = (f.addFile place content).revise source (fun _ => []) ∧
      w.files.read backup = .ok content ∧ w.files.read r.live = .ok []) ∧
    (∀ failure, w.stage.outcome? = some (.error failure) →
      (∀ cause, failure ≠ untruncated r.live cause) → f.Unchanged w.files) ∧
    ∀ cause, w.stage.outcome? = some (.error (untruncated r.live cause)) →
      ∃ source suffix place content, f.number r.live = .ok source ∧ f.contentOf source = .ok content ∧
        f.find false (Backup.path r.live suffix) = .ok ⟨place, none⟩ ∧
        w.files = f.addFile place content := by
  obtain ⟨-, amounts⟩ := run.amounts sound rfl
  refine ⟨?_, ?_, ?_⟩
  · intro backup bytes done
    rw [Stage.eq_done done] at amounts
    obtain ⟨source, content, files, copied, regular, counted, emptied⟩ := amounts
    obtain ⟨filled, empty⟩ := copied.read_emptied sound regular
    obtain ⟨opened, -, -, place, -, found, rfl⟩ := copied
    rw [emptied]
    exact ⟨source, place, content, opened, regular, counted, found, rfl, filled, empty⟩
  · intro failure failed other
    rw [Stage.eq_done failed] at amounts
    rcases amounts with ⟨-, unchanged⟩ | ⟨cause, _, _, _, same, -⟩
    · exact unchanged
    · exact absurd same (other cause)
  · intro cause failed
    rw [Stage.eq_done failed] at amounts
    rcases amounts with ⟨other, -⟩ | ⟨-, source, _, content, -, opened, whole, suffix, place, rfl, found, left⟩
    · exact absurd rfl (other cause)
    · exact ⟨source, suffix, place, content, opened, whole, found, left⟩

theorem leaves_no_trace_unsynced :
    let live : Path := ⟨[0x61]⟩
    let f := Files.single [0x61] [0x78]
    let spoilt : Files.Fault := { cause := .ofKind .inputOutput }
    let backup := Backup.path live 1
    (∃ w, Run { rotator := { live }, files := f } w ∧
      w.stage.outcome? = some (.error (discarded backup spoilt.cause)) ∧ f.Unchanged w.files) ∧
    ∃ w, Run { rotator := { live }, files := f } w ∧ w.stage.outcome? = some (.ok ⟨backup, 1⟩) ∧
      w.files.read backup = .ok [0x78] ∧ w.files.read live = .ok [] := by
  intro live f spoilt backup
  let now : Moment := .ofSeconds 1 0
  let start : Rotation := { rotator := { live }, files := f }
  have copied : Run start (step now none (step now none (step now none start))) :=
    ((Run.here.next now none fun _ _ _ => rfl).next now none fun _ _ _ => rfl).next now none
      fun _ _ _ => rfl
  have syncs : (step now none (step now none (step now none start))).stage.asks live = some (.sync 1) := by
    decide +kernel
  have fair : ∀ backup cause, (step now none (step now none (step now none start))).stage =
      .discarding backup cause → some spoilt = none := by
    intro backup cause discards
    rw [discards] at syncs
    cases syncs
  have failed := (copied.next now (some spoilt) fair).next now none fun _ _ _ => rfl
  have done := (copied.next now none fun _ _ _ => rfl).next now none fun _ _ _ => rfl
  have failure : (step now none (step now (some spoilt) (step now none (step now none
      (step now none start))))).stage.outcome? = some (.error (discarded backup spoilt.cause)) := by
    decide +kernel
  have success : (step now none (step now none (step now none (step now none
      (step now none start))))).stage.outcome? = some (.ok ⟨backup, 1⟩) := by decide +kernel
  obtain ⟨-, unchanged, -⟩ := leaves_no_trace (Files.sound_single _ _) failed
  obtain ⟨moved, -, -⟩ := leaves_no_trace (Files.sound_single _ _) done
  obtain ⟨source, place, content, opened, regular, -, -, -, filled, emptied⟩ := moved _ _ success
  obtain rfl : 0 = source := Except.ok.inj opened
  obtain rfl : [0x78] = content := Inode.regular.inj (Option.some.inj regular)
  exact ⟨⟨_, failed, failure, unchanged _ failure fun _ => discarded_ne_untruncated⟩,
    _, done, success, filled, emptied⟩

/-- A log that is a device cannot be truncated, and its backup stays. -/
theorem left_beside_device : ∃ (live : Path) (f : Files) (w : Rotation), f.Sound ∧
    Run { rotator := { live }, files := f } w ∧
    w.stage.outcome? = some (.error (untruncated live (.ofKind .invalidInput))) ∧
    ¬ f.Unchanged w.files := by
  let live : Path := ⟨[0x61]⟩
  let f : Files := { Files.single [0x61] [] with inodes := [.sink] }
  let now : Moment := .ofSeconds 1 0
  let start : Rotation := { rotator := { live }, files := f }
  have sound : f.Sound :=
    ⟨(Files.sound_single [0x61] []).numbered, (Files.sound_single [0x61] []).single,
      (Files.sound_single [0x61] []).rooted⟩
  have run : Run start (step now none (step now none (step now none (step now none
      (step now none start))))) :=
    ((((Run.here.next now none fun _ _ _ => rfl).next now none fun _ _ _ => rfl).next now none
      fun _ _ _ => rfl).next now none fun _ _ _ => rfl).next now none fun _ _ _ => rfl
  refine ⟨live, f, _, sound, run, by decide +kernel, fun unchanged => ?_⟩
  have stays : (step now none (step now none (step now none (step now none
      (step now none start))))).files.nodes.length = 2 := by decide +kernel
  rw [unchanged.nodes] at stays
  cases stays

end Rotation
end AuditTrail
