import AuditTrail.Backup
import AuditTrail.Failure
import AuditTrail.Files.Request
import AuditTrail.Journal

/-! Rotation of a live log into a new backup. It opens the log, creates the backup under a free
name, copies, syncs and then truncates the log, one request at a time under the lock that the
writers share. A backup whose copy fails is removed. -/
namespace AuditTrail

/-- Rotates a live log and keeps the last suffix that it gave to a backup. -/
structure Rotator where
  live : Path
  last : Nat := 0
  deriving DecidableEq

namespace Rotator

def highest : Nat := UInt64.size - 1

def attempts : Nat := 1024

/-- The first suffix to try: the second of the clock, or the one after the last suffix. -/
def first (r : Rotator) (now : Moment) : Nat := max now.seconds (min (r.last + 1) highest)

def bound (first : Nat) : Nat := min (first + attempts) highest

end Rotator

namespace Rotation

structure Rotated where
  backup : Path
  bytes : Nat
  deriving DecidableEq

inductive Stage where
  | opening
  /-- Tries names from `suffix` on, below `bound`. -/
  | naming (source suffix bound : Nat)
  | copying (source : Nat) (backup : Path) (target : Nat)
  | syncing (source : Nat) (backup : Path) (target bytes : Nat)
  | discarding (backup : Path) (cause : IoError)
  | truncating (source : Nat) (backup : Path) (bytes : Nat)
  | done (outcome : Except Failure Rotated)

def unnamed (live : Path) : Failure :=
  .io s!"failed to create backup for {live.display}" ⟨.alreadyExists, "no free backup suffix"⟩

namespace Stage

def search (live : Path) (source suffix bound : Nat) : Stage :=
  if suffix < bound then .naming source suffix bound else .done (.error (unnamed live))

def asks (live : Path) : Stage → Option Files.Request
  | .opening => some (.openLive live)
  | .naming _ suffix _ => some (.create (Backup.path live suffix))
  | .copying source _ target => some (.copy source target)
  | .syncing _ _ target _ => some (.sync target)
  | .discarding backup _ => some (.remove backup)
  | .truncating source _ _ => some (.truncate source)
  | .done _ => none

/-- The stage after an answer. The clock is read when the live log has been opened. -/
def next (r : Rotator) (now : Moment) : Stage → Files.Answer → Stage
  | .opening, .ok source => search r.live source (r.first now) (Rotator.bound (r.first now))
  | .opening, .error cause =>
    .done (.error (.io s!"failed to open audit log {r.live.display}" cause))
  | .naming source suffix _, .ok target => .copying source (Backup.path r.live suffix) target
  | .naming source suffix bound, .error cause =>
    if cause.kind = .alreadyExists then search r.live source (suffix + 1) bound
    else .done (.error (.io
      s!"failed to create backup {(Backup.path r.live suffix).display}" cause))
  | .copying source backup target, .ok bytes => .syncing source backup target bytes
  | .copying _ backup _, .error cause => .discarding backup cause
  | .syncing source backup _ bytes, .ok _ => .truncating source backup bytes
  | .syncing _ backup _ _, .error cause => .discarding backup cause
  | .discarding backup cause, _ =>
    .done (.error (.io s!"failed to copy audit log to {backup.display}" cause))
  | .truncating _ backup bytes, .ok _ => .done (.ok ⟨backup, bytes⟩)
  | .truncating _ _ _, .error cause =>
    .done (.error (.io s!"failed to truncate audit log {r.live.display}" cause))
  | .done outcome, _ => .done outcome

def notes (live : Path) : Stage → Files.Answer → Journal
  | .naming _ suffix _, .error cause =>
    if cause.kind = .alreadyExists then
      [.event ⟨.debug, .rotator, "backup name taken, trying next suffix",
        [("backup", .text (Backup.path live suffix).display)]⟩]
    else []
  | .discarding backup _, .error cause =>
    [.event ⟨.warn, .rotator, "failed to remove partial backup",
      [("backup", .text backup.display), ("error", .text cause.text)]⟩]
  | _, _ => []

def outcome? : Stage → Option (Except Failure Rotated)
  | .done outcome => some outcome
  | _ => none

/-- A suffix counts as used once its backup exists. -/
def given : Stage → Files.Answer → Option Nat
  | .naming _ suffix _, .ok _ => some suffix
  | _, _ => none

/-- A bound on the remaining requests. -/
def rank : Stage → Nat
  | .opening => Rotator.attempts + 6
  | .naming _ suffix bound => bound - suffix + 5
  | .copying .. => 4
  | .syncing .. => 3
  | .discarding .. => 2
  | .truncating .. => 2
  | .done _ => 0

theorem rank_search (live : Path) (source suffix bound : Nat) :
    (search live source suffix bound).rank = if suffix < bound then bound - suffix + 5 else 0 := by
  unfold search
  split <;> simp [rank]

theorem rank_next {r : Rotator} {now : Moment} {s : Stage} {q : Files.Request} (h : s.asks r.live = some q)
    (a : Files.Answer) : (s.next r now a).rank < s.rank := by
  cases s with
  | opening =>
    cases a with
    | error cause => simp [next, rank]
    | ok source =>
      simp only [next, rank_search, Rotator.bound]
      split <;> simp only [rank] <;> omega
  | naming source suffix bound =>
    cases a with
    | ok target => simp [next, rank]
    | error cause =>
      simp only [next]
      split
      · rw [rank_search]
        split <;> simp only [rank] <;> omega
      · simp [rank]
  | copying => cases a <;> simp [next, rank]
  | syncing => cases a <;> simp [next, rank]
  | discarding => cases a <;> simp [next, rank]
  | truncating => cases a <;> simp [next, rank]
  | done => simp [asks] at h

end Stage
end Rotation

def Rotator.learn (r : Rotator) (s : Rotation.Stage) (a : Files.Answer) : Rotator :=
  match s.given a with
  | some suffix => { r with last := max r.last suffix }
  | none => r

/-- A rotation in progress, with the files; the notes are kept latest first. -/
structure Rotation where
  rotator : Rotator
  files : Files
  stage : Rotation.Stage := .opening
  notes : Journal := []

namespace Rotation

/-- Makes one request, which a fault may make fail, and takes the answer. -/
def step (now : Moment) (fault : Option Files.Fault) (w : Rotation) : Rotation :=
  match w.stage.asks w.rotator.live with
  | none => w
  | some request =>
    let (answer, files) := w.files.serve fault request
    { rotator := w.rotator.learn w.stage answer
      files
      stage := w.stage.next w.rotator now answer
      notes := (w.stage.notes w.rotator.live answer).reverse ++ w.notes }

theorem rank_step {now : Moment} {fault : Option Files.Fault} {w : Rotation}
    (h : (w.stage.asks w.rotator.live).isSome) : (w.step now fault).stage.rank < w.stage.rank := by
  obtain ⟨q, hq⟩ := Option.isSome_iff_exists.1 h
  simp only [step, hq]
  exact Stage.rank_next hq _

def finish (now : Moment) (w : Rotation) : Rotation :=
  if _h : (w.stage.asks w.rotator.live).isSome then finish now (w.step now none) else w
termination_by w.stage.rank
decreasing_by exact rank_step _h

def report (live : Path) : Except Failure Rotated → Journal
  | .ok ⟨backup, bytes⟩ => [.count (.rotations true),
      .event ⟨.info, .rotator, "audit log rotated",
        [("backup", .text backup.display), ("bytes", .number bytes)]⟩]
  | .error failure => [.count (.rotations false),
      .event ⟨.warn, .rotator, "audit log rotation failed",
        [("path", .text live.display), ("error", .text failure.message)]⟩]

/-- Whether a live log is nonempty, by the answer on its size. -/
def pending (live : Path) : Files.Answer → Except Failure Bool
  | .ok bytes => .ok (0 < bytes)
  | .error cause =>
    if cause.kind = .notFound then .ok false
    else .error (.io s!"failed to stat audit log {live.display}" cause)

end Rotation
end AuditTrail
