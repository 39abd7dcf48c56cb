import AuditTrail.Unicode.HostMapping
import AuditTrail.Unicode.Direction
import AuditTrail.Unicode.Joining
import AuditTrail.Unicode.Normal
import AuditTrail.Uri.Punycode

/-! Domain names with characters of any script. `Domain.labels?` maps a name to lower case and
composed form and splits it at the dots; it returns none for a name that the rules for such domains
refuse. -/
namespace AuditTrail.Uri.Domain
open Unicode

/-- ASCII characters that no domain contains. -/
def isForbidden (c : Char) : Bool :=
  c.toNat ≤ 0x20 || c.toNat == 0x7F
    || ['%', '#', '/', ':', '<', '>', '?', '@', '[', '\\', ']', '^', '|'].contains c

def isAscii (c : Char) : Bool := c.toNat < 0x80

def mapped? : List Char → Option (List Char)
  | [] => some []
  | c :: rest =>
    if isAscii c then (mapped? rest).map (c.toLower :: ·)
    else match hostUse c with
      | .refused => none
      | .dropped => mapped? rest
      | .mapped image => (mapped? rest).map (image ++ ·)
      | .kept => (mapped? rest).map (c :: ·)

def cut (chars : List Char) : List (List Char) := chars.splitOn '.'

/-- A joiner may follow a virama; a non-joiner may also stand between letters that would otherwise join. -/
def joinersFit (before : List Char) : List Char → Bool
  | [] => true
  | c :: rest =>
    let afterVirama := match before with
      | b :: _ => markClass b == 9
      | [] => false
    let between :=
      (match before.dropWhile joinsTransparent.contains with
        | b :: _ => joinsLeft.contains b || joinsDual.contains b
        | [] => false)
      && (match rest.dropWhile joinsTransparent.contains with
        | a :: _ => joinsRight.contains a || joinsDual.contains a
        | [] => false)
    (if c = '\u200d' then afterVirama else if c = '\u200c' then afterVirama || between else true)
      && joinersFit (c :: before) rest

def isRightToLeft (c : Char) : Bool :=
  match Direction.ofChar c with
  | .rightToLeft | .arabicLetter | .arabicNumber => true
  | _ => false

/-- The rule for the direction of a label in a name with right-to-left characters. -/
def directionFits (label : List Char) : Bool :=
  let kinds := label.map Direction.ofChar
  let last := (kinds.reverse.dropWhile (· = .nonspacingMark)).head?
  let neutral : List Direction := [.europeanNumber, .europeanSeparator, .commonSeparator,
    .europeanTerminator, .otherNeutral, .boundaryNeutral, .nonspacingMark]
  match kinds.head? with
  | none => true
  | some .leftToRight =>
    kinds.all (fun k => k = .leftToRight || neutral.contains k)
      && (last = some .leftToRight || last = some .europeanNumber)
  | some .rightToLeft | some .arabicLetter =>
    kinds.all (fun k => k = .rightToLeft || k = .arabicLetter || k = .arabicNumber
        || neutral.contains k)
      && (last = some .rightToLeft || last = some .arabicLetter || last = some .europeanNumber
        || last = some .arabicNumber)
      && !(kinds.contains .europeanNumber && kinds.contains .arabicNumber)
  | some _ => false

def startsPuny (label : List Char) : Bool := label.take 4 == ['x', 'n', '-', '-']

def isKept (c : Char) : Bool := if isAscii c then c.toLower == c else hostUse c == .kept

/-- The characters that a label stands for. One in ASCII form must be ASCII throughout and stand for
characters that need that form and are already mapped and composed. -/
def meaning? (label : List Char) : Option (List Char) :=
  if startsPuny label then
    let body := label.drop 4
    if body.length > 2000 || !body.all isAscii then none
    else match Punycode.decode? body with
      | none => none
      | some chars =>
        if chars.all isAscii || !chars.all isKept || compose chars != chars || startsPuny chars then
          none
        else some chars
  else if label.all isAscii then some label
  else if label.length > 1000 then none
  else some label

def labelFits (label : List Char) : Bool :=
  label.all (fun c => !(isAscii c && isForbidden c))
    && (match label with
      | [] => true
      | c :: _ => !marks.contains c)
    && joinersFit [] label

def labels? (name : List Char) : Option (List (List Char)) := do
  let chars ← mapped? name
  let labels := cut (compose chars)
  let meanings ← labels.mapM meaning?
  if meanings.all labelFits
      && (!meanings.any (·.any isRightToLeft) || meanings.all directionFits) then some labels
  else none

end AuditTrail.Uri.Domain
