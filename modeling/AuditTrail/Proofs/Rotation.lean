import AuditTrail.Proofs.Files.Content
import AuditTrail.Rotation

/-! The effect of one request of a rotation on the files, the last suffix and the stage, with a
fault or without. Invariants of rotations are proved by cases on `Move`, or on `Smooth` where no
request fails. -/
namespace AuditTrail.Rotation

open Stage (search)

def discarded (backup : Path) (cause : IoError) : Failure :=
  .io s!"failed to copy audit log to {backup.display}" cause

inductive Move (r : Rotator) (now : Moment) (fault : Option Files.Fault) (f : Files) :
    Stage → Files → Nat → Stage → Prop where
  | opened {source suffix bound : Nat} (live : f.number r.live = .ok source)
      (first : suffix = r.first now) (limit : bound = Rotator.bound suffix) :
      Move r now fault f .opening f r.last (search r.live source suffix bound)
  | unopened {cause : IoError} : Move r now fault f .opening f r.last
      (.done (.error (.io s!"failed to open audit log {r.live.display}" cause)))
  | created {source suffix bound : Nat} {place : Place}
      (found : f.find false (Backup.path r.live suffix) = .ok ⟨place, none⟩) :
      Move r now fault f (.naming source suffix bound) (f.addFile place []) (max r.last suffix)
        (.copying source (Backup.path r.live suffix) f.inodes.length)
  /-- The name is taken, or a fault says so. -/
  | taken {source suffix bound : Nat}
      (occupied : (∃ place node, f.find false (Backup.path r.live suffix) = .ok ⟨place, some node⟩) ∨
        ∃ spoilt, fault = some spoilt ∧ spoilt.cause.kind = .alreadyExists) :
      Move r now fault f (.naming source suffix bound) f r.last
        (search r.live source (suffix + 1) bound)
  | uncreated {source suffix bound : Nat} {cause : IoError} (other : cause.kind ≠ .alreadyExists) :
      Move r now fault f (.naming source suffix bound) f r.last (.done (.error
        (.io s!"failed to create backup {(Backup.path r.live suffix).display}" cause)))
  | copied {source target : Nat} {backup : Path} {content : Bytes}
      (whole : f.contentOf source = .ok content) :
      Move r now fault f (.copying source backup target)
        (f.revise target (Files.overwrite content)) r.last
        (.syncing source backup target content.length)
  /-- Some bytes were moved before the copy failed. -/
  | broken {source target moved : Nat} {backup : Path} {content : Bytes} {cause : IoError}
      (readable : f.contentOf source = .ok content) :
      Move r now fault f (.copying source backup target)
        (f.revise target (Files.overwrite (content.take moved))) r.last (.discarding backup cause)
  | unread {source target : Nat} {backup : Path} {cause : IoError} :
      Move r now fault f (.copying source backup target) f r.last (.discarding backup cause)
  | synced {source target bytes : Nat} {backup : Path} :
      Move r now fault f (.syncing source backup target bytes) f r.last
        (.truncating source backup bytes)
  | unsynced {source target bytes : Nat} {backup : Path} {cause : IoError} :
      Move r now fault f (.syncing source backup target bytes) f r.last (.discarding backup cause)
  | removed {backup : Path} {cause : IoError} {place : Place} {node : Node}
      (found : f.find false backup = .ok ⟨place, some node⟩) (leaf : node ≠ .directory) :
      Move r now fault f (.discarding backup cause) (f.erase place) r.last
        (.done (.error (discarded backup cause)))
  | kept {backup : Path} {cause : IoError} : Move r now fault f (.discarding backup cause) f r.last
      (.done (.error (discarded backup cause)))
  | emptied {source bytes : Nat} {backup : Path} {content : Bytes}
      (regular : f.inode? source = some (.regular content)) :
      Move r now fault f (.truncating source backup bytes) (f.revise source fun _ => []) r.last
        (.done (.ok ⟨backup, bytes⟩))
  | unemptied {source bytes : Nat} {backup : Path} {cause : IoError} :
      Move r now fault f (.truncating source backup bytes) f r.last
        (.done (.error (.io s!"failed to truncate audit log {r.live.display}" cause)))

theorem Stage.search_ne_copying {live backup : Path} {source suffix bound source' target : Nat} :
    search live source suffix bound ≠ .copying source' backup target := by
  unfold search
  split <;> nofun

theorem Stage.search_ne_done {live : Path} {source suffix bound : Nat} {rotated : Rotated} :
    search live source suffix bound ≠ .done (.ok rotated) := by
  unfold search
  split <;> nofun

theorem append_ne_append {a b : String} (front : Nat) (x z : String)
    (long : front ≤ a.toList.length ∧ front ≤ b.toList.length)
    (apart : a.toList.take front ≠ b.toList.take front) : a ++ x ≠ b ++ z := by
  intro same
  have lists := congrArg (List.take front ∘ String.toList) same
  simp only [Function.comp, String.toList_append, List.take_append_of_le_length long.1,
    List.take_append_of_le_length long.2] at lists
  exact apart lists

section Unnamed

variable {live backup : Path} {cause : IoError}

theorem unopened_ne_unnamed :
    Failure.io s!"failed to open audit log {live.display}" cause ≠ unnamed live := fun same =>
  append_ne_append 11 _ _ (by decide) (by decide) (Failure.io.inj same).1

theorem discarded_ne_unnamed : discarded backup cause ≠ unnamed live := fun same =>
  append_ne_append 12 _ _ (by decide) (by decide) (Failure.io.inj same).1

theorem untruncated_ne_unnamed :
    Failure.io s!"failed to truncate audit log {live.display}" cause ≠ unnamed live := fun same =>
  append_ne_append 11 _ _ (by decide) (by decide) (Failure.io.inj same).1

theorem uncreated_ne_unnamed (other : cause.kind ≠ .alreadyExists) {context : String} :
    Failure.io context cause ≠ unnamed live := by
  intro same
  rw [(Failure.io.inj same).2] at other
  exact other rfl

end Unnamed

variable {w : Rotation} {now : Moment} {fault : Option Files.Fault}

@[simp] theorem live_step : (w.step now fault).rotator.live = w.rotator.live := by
  unfold step Rotator.learn
  split
  · rfl
  · dsimp only
    split <;> rfl

theorem move_naming {source suffix bound : Nat} (now : Moment) (fault : Option Files.Fault)
    (naming : w.stage = .naming source suffix bound) :
    Move w.rotator now fault w.files w.stage (w.step now fault).files
      (w.step now fault).rotator.last (w.step now fault).stage := by
  obtain ⟨r, f, stage, notes⟩ := w
  obtain rfl := naming
  cases fault with
  | some spoilt =>
    simp only [step, Stage.asks, Files.serve, Files.refuse, Stage.next, Rotator.learn, Stage.given]
    split
    · next exists_ => exact .taken (.inr ⟨spoilt, rfl, exists_⟩)
    · next other => exact .uncreated other
  | none =>
    cases found : f.find false (Backup.path r.live suffix) with
    | error cause =>
      simp only [step, Stage.asks, Files.serve, Files.answer, Files.create, found, Stage.next,
        Rotator.learn, Stage.given, if_neg (Files.find_error found)]
      exact .uncreated (Files.find_error found)
    | ok target =>
      obtain ⟨place, node?⟩ := target
      cases node? with
      | none =>
        simp only [step, Stage.asks, Files.serve, Files.answer, Files.create, found]
        exact .created found
      | some node =>
        simp only [step, Stage.asks, Files.serve, Files.answer, Files.create, found, Stage.next,
          Rotator.learn, Stage.given]
        exact .taken (.inl ⟨place, node, found⟩)

theorem move_discarding {backup : Path} {cause : IoError} (now : Moment) (fault : Option Files.Fault)
    (discarding : w.stage = .discarding backup cause) :
    Move w.rotator now fault w.files w.stage (w.step now fault).files
      (w.step now fault).rotator.last (w.step now fault).stage := by
  obtain ⟨r, f, stage, notes⟩ := w
  obtain rfl := discarding
  cases fault with
  | some spoilt => exact .kept
  | none =>
    cases found : f.find false backup with
    | error refusal =>
      simp only [step, Stage.asks, Files.serve, Files.answer, Files.remove, found]
      exact .kept
    | ok target =>
      obtain ⟨place, node?⟩ := target
      cases node? with
      | none =>
        simp only [step, Stage.asks, Files.serve, Files.answer, Files.remove, found]
        exact .kept
      | some node =>
        cases node with
        | directory =>
          simp only [step, Stage.asks, Files.serve, Files.answer, Files.remove, found]
          exact .kept
        | file n =>
          simp only [step, Stage.asks, Files.serve, Files.answer, Files.remove, found]
          exact .removed found (by simp)
        | link target =>
          simp only [step, Stage.asks, Files.serve, Files.answer, Files.remove, found]
          exact .removed found (by simp)

theorem step_move (now : Moment) (fault : Option Files.Fault)
    (asks : (w.stage.asks w.rotator.live).isSome) :
    Move w.rotator now fault w.files w.stage (w.step now fault).files
      (w.step now fault).rotator.last (w.step now fault).stage := by
  obtain ⟨r, f, stage, notes⟩ := w
  cases stage with
  | done outcome => cases asks
  | naming source suffix bound => exact move_naming now fault rfl
  | discarding backup cause => exact move_discarding now fault rfl
  | opening =>
    cases fault with
    | some spoilt => exact .unopened
    | none =>
      cases opened : f.number r.live with
      | error cause =>
        simp only [step, Stage.asks, Files.serve, Files.answer, opened]
        exact .unopened
      | ok source =>
        simp only [step, Stage.asks, Files.serve, Files.answer, opened]
        exact .opened opened rfl rfl
  | copying source backup target =>
    cases readable : f.contentOf source with
    | error cause =>
      cases fault <;> simp only [step, Stage.asks, Files.serve, Files.answer, Files.refuse, Files.copy,
        readable] <;> exact .unread
    | ok content =>
      cases fault with
      | some spoilt =>
        simp only [step, Stage.asks, Files.serve, Files.refuse, readable]
        exact .broken readable
      | none =>
        simp only [step, Stage.asks, Files.serve, Files.answer, Files.copy, readable]
        exact .copied readable
  | syncing source backup target bytes =>
    cases fault with
    | some spoilt => exact .unsynced
    | none => exact .synced
  | truncating source backup bytes =>
    cases fault with
    | some spoilt => exact .unemptied
    | none =>
      simp only [step, Stage.asks, Files.serve, Files.answer, Files.truncate]
      split
      · next content regular => exact .emptied regular
      · exact .unemptied

/-- The effect of a request without a fault, where the live log can be read and emptied. -/
inductive Smooth (r : Rotator) (now : Moment) (f : Files) :
    Stage → Files → Nat → Stage → Prop where
  | opened {source : Nat} (live : f.number r.live = .ok source) :
      Smooth r now f .opening f r.last
        (.search r.live source (r.first now) (Rotator.bound (r.first now)))
  | created {source suffix bound : Nat} {place : Place}
      (found : f.find false (Backup.path r.live suffix) = .ok ⟨place, none⟩) :
      Smooth r now f (.naming source suffix bound) (f.addFile place []) (max r.last suffix)
        (.copying source (Backup.path r.live suffix) f.inodes.length)
  | taken {source suffix bound : Nat} {place : Place} {node : Node}
      (found : f.find false (Backup.path r.live suffix) = .ok ⟨place, some node⟩) :
      Smooth r now f (.naming source suffix bound) f r.last
        (.search r.live source (suffix + 1) bound)
  | failed {stage : Stage} {failure : Failure}
      (early : stage = .opening ∨ ∃ source suffix bound, stage = .naming source suffix bound) :
      Smooth r now f stage f r.last (.done (.error failure))
  | copied {source target : Nat} {backup : Path} {content : Bytes}
      (whole : f.contentOf source = .ok content) :
      Smooth r now f (.copying source backup target)
        (f.revise target (Files.overwrite content)) r.last
        (.syncing source backup target content.length)
  | synced {source target bytes : Nat} {backup : Path} :
      Smooth r now f (.syncing source backup target bytes) f r.last
        (.truncating source backup bytes)
  | emptied {source bytes : Nat} {backup : Path} {content : Bytes}
      (regular : f.inode? source = some (.regular content)) :
      Smooth r now f (.truncating source backup bytes) (f.revise source fun _ => []) r.last
        (.done (.ok ⟨backup, bytes⟩))

theorem step_smooth (now : Moment) (asks : (w.stage.asks w.rotator.live).isSome)
    (whole : ∀ backup cause, w.stage ≠ .discarding backup cause)
    (readable : ∀ source backup target, w.stage = .copying source backup target →
      ∃ content, w.files.contentOf source = .ok content)
    (regular : ∀ source backup bytes, w.stage = .truncating source backup bytes →
      ∃ content, w.files.inode? source = some (.regular content)) :
    Smooth w.rotator now w.files w.stage (w.step now none).files (w.step now none).rotator.last
      (w.step now none).stage := by
  have move := step_move now none asks
  obtain ⟨r, f, stage, notes⟩ := w
  cases stage with
  | done => cases asks
  | discarding backup cause => exact absurd rfl (whole backup cause)
  | copying source backup target =>
    obtain ⟨content, read⟩ := readable source backup target rfl
    simp only [step, Stage.asks, Files.serve, Files.answer, Files.copy, read]
    exact .copied read
  | syncing source backup target bytes => exact .synced
  | truncating source backup bytes =>
    obtain ⟨content, held⟩ := regular source backup bytes rfl
    simp only [step, Stage.asks, Files.serve, Files.answer, Files.truncate, held]
    exact .emptied held
  | opening =>
    generalize (step now none _).files = files, (step now none _).rotator.last = last,
      (step now none _).stage = next at move ⊢
    cases move with
    | opened live first limit =>
      rw [limit, first]
      exact .opened live
    | unopened => exact .failed (.inl rfl)
  | naming source suffix bound =>
    generalize (step now none _).files = files, (step now none _).rotator.last = last,
      (step now none _).stage = next at move ⊢
    cases move with
    | created found => exact .created found
    | taken occupied =>
      obtain ⟨place, node, found⟩ := occupied.resolve_right (by simp)
      exact .taken found
    | uncreated => exact .failed (.inr ⟨_, _, _, rfl⟩)

end AuditTrail.Rotation
