import AuditTrail.Backup
import AuditTrail.Failure
import AuditTrail.Files.Request
import AuditTrail.Journal

/-! A sweep lists the backups of a live log and removes those older than the retention, one request
at a time. It goes on after a removal that fails. -/
namespace AuditTrail

structure Backup.Listed where
  path : Path
  timestamp : Nat
  deriving DecidableEq

namespace Backup

/-- The entry of a directory as a backup of the log named `base`. Only regular files count. -/
def ofEntry (f : Files) (base : Bytes) (dir : Path) : Bytes × Node → Option Listed
  | (name, node) =>
    if f.isRegular node && (Utf8.decode? name).isSome then
      (timestamp? base name).map fun t => ⟨dir.join name, t⟩
    else none

def unnamed (live : Path) : Failure := .setting "path" s!"'{live.display}' has no UTF-8 file name"

/-- The backups of a live log among the entries of its directory, oldest first. -/
def among (f : Files) (live : Path) (read : Except IoError (List (Bytes × Node))) :
    Except Failure (List Listed) :=
  match live.fileName? with
  | none => .error (unnamed live)
  | some base =>
    if (Utf8.decode? base).isNone then .error (unnamed live)
    else match read with
      | .error cause => .error (.io s!"failed to read directory {(dir live).display}" cause)
      | .ok entries =>
        .ok ((entries.filterMap (ofEntry f base (dir live))).mergeSort
          fun a b => a.timestamp ≤ b.timestamp)

def list (f : Files) (live : Path) : Except Failure (List Listed) := among f live (f.entries (dir live))

/-- Strictly older than the retention; backups in the future are kept. -/
def isExpired (retention : Duration) (now : Moment) (b : Listed) : Bool :=
  match age? b.timestamp now with
  | some age => retention < age
  | none => false

end Backup

/-- A sweep in progress: the backups that remain to be removed, and the result for the others. -/
structure Sweep where
  pending : List Backup.Listed
  scanned : Nat
  deleted : Nat := 0
  failed : Nat := 0
  deriving DecidableEq

namespace Sweep

structure Summary where
  scanned : Nat
  deleted : Nat
  failed : Nat
  deriving DecidableEq, Repr

def ofList (retention : Duration) (now : Moment) (backups : List Backup.Listed) : Sweep :=
  { pending := backups.filter (Backup.isExpired retention now), scanned := backups.length }

def start (f : Files) (live : Path) (retention : Duration) (now : Moment) : Except Failure Sweep :=
  (Backup.list f live).map (ofList retention now)

def summary (s : Sweep) : Summary := ⟨s.scanned, s.deleted, s.failed⟩

def asks (s : Sweep) : Option Files.Request := s.pending.head?.map (.remove ·.path)

/-- A backup that was already gone counts neither as deleted nor as failed. -/
def next (s : Sweep) : Files.Answer → Sweep
  | .ok _ => { s with pending := s.pending.tail, deleted := s.deleted + 1 }
  | .error cause =>
    if cause.kind = .notFound then { s with pending := s.pending.tail }
    else { s with pending := s.pending.tail, failed := s.failed + 1 }

def notes (b : Backup.Listed) : Files.Answer → Journal
  | .ok _ => [.count .backupsExpired, .event ⟨.info, .expirer, "expired backup deleted",
      [("backup", .text b.path.display)]⟩]
  | .error cause =>
    if cause.kind = .notFound then
      [.event ⟨.debug, .expirer, "backup already removed", [("backup", .text b.path.display)]⟩]
    else
      [.event ⟨.warn, .expirer, "failed to delete expired backup",
        [("backup", .text b.path.display), ("error", .text cause.text)]⟩]

def step (fault : Option Files.Fault) (f : Files) (s : Sweep) : Sweep × Files × Journal :=
  match s.pending with
  | [] => (s, f, [])
  | b :: _ =>
    let (answer, f) := f.serve fault (.remove b.path)
    (s.next answer, f, notes b answer)

def finish (f : Files) (s : Sweep) : Summary × Files × Journal :=
  go f s s.pending.length []
where
  /-- The notes are kept latest first. -/
  go (f : Files) (s : Sweep) (fuel : Nat) (met : Journal) : Summary × Files × Journal :=
    match fuel with
    | 0 => (s.summary, f, met.reverse)
    | fuel + 1 =>
      let (s, f, notes) := s.step none f
      go f s fuel (notes.reverse ++ met)

def run (f : Files) (live : Path) (retention : Duration) (now : Moment) :
    Except Failure Summary × Files × Journal :=
  match start f live retention now with
  | .error failure => (.error failure, f, [])
  | .ok s =>
    let (summary, f, notes) := s.finish f
    (.ok summary, f, notes)

end Sweep
end AuditTrail
