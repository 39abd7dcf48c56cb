import AuditTrail.Files.Basic

/-! Requests to the file system, one at a time. A request returns a number or fails, and an
injected fault makes any request fail; a copy may have moved some bytes before it fails. -/
namespace AuditTrail.Files

inductive Request where
  | size (path : Path)
  | openLive (path : Path)
  /-- Fails if there is any entry with that name. -/
  | create (path : Path)
  | copy (source target : Nat)
  | sync (file : Nat)
  | truncate (file : Nat)
  | remove (path : Path)
  deriving DecidableEq

abbrev Answer := Except IoError Nat

structure Fault where
  cause : IoError
  /-- How many bytes a copy moves before it fails. -/
  moved : Nat := 0
  deriving DecidableEq

def overwrite (fresh old : Bytes) : Bytes := fresh ++ old.drop fresh.length

def create (f : Files) (p : Path) : Answer × Files :=
  match f.find false p with
  | .error cause => (.error cause, f)
  | .ok ⟨place, none⟩ => (.ok f.inodes.length, f.addFile place [])
  | .ok ⟨_, some _⟩ => (.error (.ofKind .alreadyExists), f)

def copy (f : Files) (source target : Nat) : Answer × Files :=
  match f.contentOf source with
  | .error cause => (.error cause, f)
  | .ok content => (.ok content.length, f.revise target (overwrite content))

def truncate (f : Files) (n : Nat) : Answer × Files :=
  match f.inode? n with
  | some (.regular _) => (.ok 0, f.revise n fun _ => [])
  | _ => (.error (.ofKind .invalidInput), f)

/-- Removes an entry; a link is removed itself. -/
def remove (f : Files) (p : Path) : Answer × Files :=
  match f.find false p with
  | .error cause => (.error cause, f)
  | .ok ⟨_, none⟩ => (.error (.ofKind .notFound), f)
  | .ok ⟨_, some .directory⟩ => (.error (.ofKind .isADirectory), f)
  | .ok ⟨place, some _⟩ => (.ok 0, f.erase place)

def answer (f : Files) : Request → Answer × Files
  | .size p => (f.locate p |>.map f.extent, f)
  | .openLive p => (f.number p, f)
  | .create p => f.create p
  | .copy source target => f.copy source target
  | .sync _ => (.ok 0, f)
  | .truncate n => f.truncate n
  | .remove p => f.remove p

def refuse (f : Files) (fault : Fault) : Request → Answer × Files
  | .copy source target =>
    match f.contentOf source with
    | .error _ => (.error fault.cause, f)
    | .ok content => (.error fault.cause, f.revise target (overwrite (content.take fault.moved)))
  | _ => (.error fault.cause, f)

def serve (f : Files) (fault : Option Fault) (request : Request) : Answer × Files :=
  match fault with
  | none => f.answer request
  | some fault => f.refuse fault request

end AuditTrail.Files
