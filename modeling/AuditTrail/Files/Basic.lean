import AuditTrail.IoError
import AuditTrail.Path

/-! Files in memory. A directory entry is a file number, a directory or a link. Contents belong to
file numbers, so an open file survives the removal of its name. `Files.find` resolves a path. -/
namespace AuditTrail

/-- The kinds of file. A sink discards what is written to it and reads as empty; an unreadable file can be
opened but not read. -/
inductive Inode where
  | regular (content : Bytes)
  | sink
  | unreadable
  deriving DecidableEq, Repr

inductive Node where
  | file (number : Nat)
  | directory
  | link (target : Path)
  deriving DecidableEq

/-- Names from the innermost outwards; the root has none. -/
abbrev Place := List Bytes

structure Files where
  /-- In order of creation. -/
  nodes : List (Place × Node)
  inodes : List Inode
  /-- The directory where relative paths begin. -/
  here : Place
  deriving DecidableEq

namespace Files

def empty : Files := ⟨[], [], []⟩

def node? (f : Files) : Place → Option Node
  | [] => some .directory
  | place => (f.nodes.find? (·.1 == place)).map (·.2)

def inode? (f : Files) (number : Nat) : Option Inode := f.inodes[number]?

inductive Step where
  | name (n : Bytes)
  | up
  | stay
  deriving DecidableEq, Repr

def Step.ofPiece (piece : Bytes) : Step :=
  if piece = [] ∨ piece = [Path.dot] then .stay
  else if piece = [Path.dot, Path.dot] then .up
  else .name piece

/-- A separator at the end asks for a directory, as a dot does. -/
def steps (p : Path) : List Step := (p.bytes.splitOn Path.slash).map Step.ofPiece

def start (p : Path) (dir : Place) : Place := if p.isAbsolute then [] else dir

/-- Where a path leads. The node is `none` if the last name is free. -/
structure Found where
  place : Place
  node? : Option Node
  deriving DecidableEq

def longestName : Nat := 255

def longestPath : Nat := 4095

/-- Follows steps from a place, and passes what is behind a link to `relay`. A link at the end is followed
only if `through` is set. -/
def pass (f : Files) (through : Bool) (relay : Place → List Step → Except IoError Found)
    (place : Place) : List Step → Except IoError Found
  | [] => .ok ⟨place, f.node? place⟩
  | step :: rest =>
    if f.node? place ≠ some .directory then .error (.ofKind .notADirectory)
    else match step with
      | .stay => pass f through relay place rest
      | .up => pass f through relay place.tail rest
      | .name n =>
        if longestName < n.length then .error (.ofKind .invalidFilename)
        else match f.node? (n :: place) with
          | none => if rest.isEmpty then .ok ⟨n :: place, none⟩ else .error (.ofKind .notFound)
          | some (.link target) =>
            if rest.isEmpty && !through then .ok ⟨n :: place, some (.link target)⟩
            else relay (start target place) (steps target ++ rest)
          | some _ => pass f through relay (n :: place) rest

/-- Follows steps through at most so many links. -/
def walk (f : Files) (through : Bool) : Nat → Place → List Step → Except IoError Found
  | 0 => pass f through fun _ _ => .error (.ofKind .filesystemLoop)
  | links + 1 => pass f through (walk f through links)

def mostLinks : Nat := 40

def find (f : Files) (through : Bool) (p : Path) : Except IoError Found :=
  if p.bytes.contains 0 then
    .error ⟨.invalidInput, "file name contained an unexpected NUL byte"⟩
  else if p.bytes.isEmpty then .error (.ofKind .notFound)
  else if longestPath < p.bytes.length then .error (.ofKind .invalidFilename)
  else walk f through mostLinks (start p f.here) (steps p)

def locate (f : Files) (p : Path) : Except IoError Node :=
  match f.find true p with
  | .error cause => .error cause
  | .ok ⟨_, none⟩ => .error (.ofKind .notFound)
  | .ok ⟨_, some node⟩ => .ok node

def number (f : Files) (p : Path) : Except IoError Nat :=
  match f.locate p with
  | .error cause => .error cause
  | .ok (.file n) => .ok n
  | .ok .directory => .error (.ofKind .isADirectory)
  | .ok (.link _) => .error (.ofKind .filesystemLoop)

/-- The result of reading a whole file. -/
def contentOf (f : Files) (n : Nat) : Except IoError Bytes :=
  match f.inode? n with
  | some (.regular content) => .ok content
  | some .unreadable => .error (.ofKind .inputOutput)
  | some .sink | none => .ok []

def extent (f : Files) : Node → Nat
  | .file n => match f.inode? n with
    | some (.regular content) => content.length
    | _ => 0
  | .directory => 4096
  | .link target => target.bytes.length

def isRegular (f : Files) : Node → Bool
  | .file n => match f.inode? n with
    | some (.regular _) => true
    | _ => false
  | _ => false

def entries (f : Files) (p : Path) : Except IoError (List (Bytes × Node)) :=
  match f.find true p with
  | .error cause => .error cause
  | .ok ⟨_, none⟩ => .error (.ofKind .notFound)
  | .ok ⟨dir, some .directory⟩ => .ok (f.nodes.filterMap fun
      | (name :: place, node) => if place == dir then some (name, node) else none
      | ([], _) => none)
  | .ok _ => .error (.ofKind .notADirectory)

def read (f : Files) (p : Path) : Except IoError Bytes :=
  match f.number p with
  | .error cause => .error cause
  | .ok n => f.contentOf n

def add (f : Files) (place : Place) (node : Node) : Files :=
  { f with nodes := f.nodes ++ [(place, node)] }

def addFile (f : Files) (place : Place) (content : Bytes) : Files :=
  { f.add place (.file f.inodes.length) with inodes := f.inodes ++ [.regular content] }

def erase (f : Files) (place : Place) : Files :=
  { f with nodes := f.nodes.filter (·.1 != place) }

/-- Changes the content of a file, if it has one. -/
def revise (f : Files) (n : Nat) (change : Bytes → Bytes) : Files :=
  { f with inodes := f.inodes.modify n fun
      | .regular content => .regular (change content)
      | inode => inode }

/-- Changes the content of the file that a path leads to, or creates the file. -/
def update (f : Files) (p : Path) (change : Bytes → Bytes) : Except IoError Files :=
  match f.find true p with
  | .error cause => .error cause
  | .ok ⟨place, none⟩ => .ok (f.addFile place (change []))
  | .ok ⟨_, some (.file n)⟩ =>
    if f.inode? n = some .unreadable then .error (.ofKind .inputOutput)
    else .ok (f.revise n change)
  | .ok ⟨_, some .directory⟩ => .error (.ofKind .isADirectory)
  | .ok ⟨_, some (.link _)⟩ => .error (.ofKind .filesystemLoop)

def write (f : Files) (p : Path) (content : Bytes) : Except IoError Files :=
  f.update p fun _ => content

def append (f : Files) (p : Path) (more : Bytes) : Except IoError Files :=
  f.update p (· ++ more)

def make (f : Files) (p : Path) (node : Node) : Except IoError Files :=
  match f.find false p with
  | .error cause => .error cause
  | .ok ⟨place, none⟩ => .ok (f.add place node)
  | .ok ⟨_, some _⟩ => .error (.ofKind .alreadyExists)

end Files
end AuditTrail
