import AuditTrail.Path
import AuditTrail.Unicode.Blank

/-! Directives for the inspection engine, one per line, and the block of them that makes it write
its audit log to the live log. -/
namespace AuditTrail

structure Directives where
  lines : List String
  deriving DecidableEq, Repr

namespace Directives

def empty : Directives := ⟨[]⟩

/-- Whether a trimmed line is a directive and not a comment. -/
def counts (line : List Char) : Bool := !line.isEmpty && line.head? != some '#'

def linesOf (text : String) : List String :=
  (((text.toList.splitOn '\n').map Unicode.trimChars).filter counts).map String.ofList

def add (d : Directives) (text : String) : Directives := ⟨d.lines ++ linesOf text⟩

/-- The arguments of a line that begins with `name` and a blank. -/
def arguments? (name : String) (line : String) : Option String :=
  let word := line.toList.takeWhile (!Unicode.isBlank ·)
  match line.toList.dropWhile (!Unicode.isBlank ·) with
  | [] => none
  | _ :: rest => if word = name.toList then some (.ofList (Unicode.trimChars rest)) else none

def get? (d : Directives) (name : String) : Option String := d.lines.findSome? (arguments? name)

def text (d : Directives) : String :=
  if d.lines.isEmpty then "" else String.intercalate "\n" d.lines ++ "\n"

/-- The parts of a transaction that the engine writes: headers, request headers, trailer, matched rules and
the end mark. -/
def parts : String := "AFHKZ"

def block (live : Path) : String :=
  String.join ((["SecAuditLog " ++ live.display, "SecAuditLogParts " ++ parts,
    "SecAuditLogFormat JSON", "SecAuditLogType Serial", "SecAuditEngine On"]).map (· ++ "\n"))

def pointedAt (d : Directives) (live : Path) : Directives := d.add (block live)

end Directives
end AuditTrail
