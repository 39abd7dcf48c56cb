import AuditTrail.Utf8

/-! File paths as bytes. A path is a head (a root, or a leading dot) and names between separators;
repeated separators and inner dots do not count. -/
namespace AuditTrail

structure Path where
  bytes : Bytes
  deriving DecidableEq, Repr

namespace Path

def ofString (text : String) : Path := ⟨Utf8.encode text⟩

/-- The path as text; invalid bytes are replaced. -/
def display (p : Path) : String := Utf8.decodeLossy p.bytes

def text? (p : Path) : Option String := Utf8.decode? p.bytes

def slash : UInt8 := 0x2F

def dot : UInt8 := 0x2E

def isAbsolute (p : Path) : Bool := p.bytes.head? == some slash

/-- The root, or the leading dot of a relative path. -/
def head (bytes : Bytes) : Bytes :=
  match bytes with
  | 0x2F :: _ => [slash]
  | [0x2E] => [dot]
  | 0x2E :: 0x2F :: _ => [dot]
  | _ => []

/-- Drops separators and dots from the end of a body, which is given latest byte first. -/
def trimBack (back : Bytes) : Bytes :=
  if back.isEmpty then []
  else
    let name := back.takeWhile (· ≠ slash)
    if name = [] ∨ name = [dot] then trimBack ((back.dropWhile (· ≠ slash)).drop 1) else back
termination_by back.length
decreasing_by
  rename_i h _
  have nonempty : back ≠ [] := by intro e; simp [e] at h
  have split := List.takeWhile_append_dropWhile (p := (· ≠ slash)) (l := back)
  have total := congrArg List.length split
  rw [List.length_append] at total
  have positive := List.length_pos_iff.2 nonempty
  rw [List.length_drop]
  by_cases d : List.dropWhile (· ≠ slash) back = []
  · simp only [d, List.length_nil] at total ⊢; omega
  · have := List.length_pos_iff.2 d; omega

/-- The body up to its last name, latest byte first. -/
def back (p : Path) : Bytes := trimBack (p.bytes.drop (head p.bytes).length).reverse

/-- The last name, unless it is `..` or there is none. -/
def fileName? (p : Path) : Option Bytes :=
  let name := (p.back.takeWhile (· ≠ slash)).reverse
  if name = [] ∨ name = [dot, dot] then none else some name

def parent? (p : Path) : Option Path :=
  let h := head p.bytes
  if p.back.isEmpty then if h = [dot] then some ⟨[]⟩ else none
  else some ⟨h ++ (trimBack ((p.back.dropWhile (· ≠ slash)).drop 1)).reverse⟩

def join (dir : Path) (name : Bytes) : Path :=
  if name.head? = some slash then ⟨name⟩
  else if dir.bytes = [] ∨ dir.bytes.getLast? = some slash then ⟨dir.bytes ++ name⟩
  else ⟨dir.bytes ++ slash :: name⟩

end Path
end AuditTrail
