import AuditTrail.Uri.Basic

/-! The host and the path of a request target. The path is freed of percent escapes; the host keeps
its letters and its port. -/
namespace AuditTrail.Uri

structure Target where
  host : String
  path : String
  deriving DecidableEq, Repr

def isHexDigit (b : UInt8) : Bool :=
  (0x30 ≤ b && b ≤ 0x39) || (0x41 ≤ b && b ≤ 0x46) || (0x61 ≤ b && b ≤ 0x66)

/-- Whether two hexadecimal digits follow every percent sign. -/
def escapesFit : Bytes → Bool
  | [] => true
  | 0x25 :: rest =>
    (match rest with
      | a :: b :: _ => isHexDigit a && isHexDigit b
      | _ => false) && escapesFit rest
  | _ :: rest => escapesFit rest

def decodePath? (path : String) : Option String :=
  let bytes := Utf8.encode path
  if escapesFit bytes then some (Utf8.decodeLossy (unescape bytes)) else none

def before (c : Char) (text : List Char) : List Char := text.takeWhile (· ≠ c)

def after (c : Char) (text : List Char) : List Char := (text.dropWhile (· ≠ c)).drop 1

def authorityAndPath (text : List Char) : List Char × List Char :=
  match text with
  | '/' :: '/' :: rest => (rest.takeWhile (· ≠ '/'), rest.dropWhile (· ≠ '/'))
  | _ => ([], text)

def Target.cut? (hasScheme : Bool) (uri : List Char) : Option Target :=
  let text := before '?' (before '#' uri)
  let rest := if hasScheme then after ':' text else text
  let (authority, path) := authorityAndPath rest
  (decodePath? (.ofList path)).map fun path => ⟨.ofList (splitUser authority).2, path⟩

/-- None for a text that `judge` refuses and for a path with a broken escape. -/
def targetBy? (judge : String → Option Kind) (uri : String) : Option Target :=
  match judge uri with
  | none => none
  | some .flat => some ⟨"", ""⟩
  | some .absolute => Target.cut? true uri.toList
  | some .relative => Target.cut? false uri.toList

def target? : String → Option Target := targetBy? kind?

end AuditTrail.Uri
