import AuditTrail.Utf8
import AuditTrail.Uri.Domain
import AuditTrail.Uri.Address

/-! The kind of address that a text is. `Uri.kind?` follows the common rules for URLs and returns
none for a text that they refuse. Only the authority can be refused; a path, query or fragment
never is. -/
namespace AuditTrail.Uri

inductive Kind where
  /-- There is a scheme, and what follows it is not hierarchical. -/
  | flat
  | absolute
  | relative
  deriving DecidableEq, Repr

inductive Scheme where
  | file
  /-- A scheme whose addresses always have a host. -/
  | hosted
  | other
  deriving DecidableEq, Repr

def Scheme.ofName (name : List Char) : Scheme :=
  match String.ofList (name.map Char.toLower) with
  | "file" => .file
  | "http" | "https" | "ws" | "wss" | "ftp" => .hosted
  | _ => .other

def isLetter (c : Char) : Bool := ('a' ≤ c && c ≤ 'z') || ('A' ≤ c && c ≤ 'Z')

def isSchemeChar (c : Char) : Bool :=
  isLetter c || ('0' ≤ c && c ≤ '9') || c == '+' || c == '-' || c == '.'

/-- Drops controls and blanks at the ends, and line breaks and tabs anywhere. -/
def significant (text : List Char) : List Char :=
  let ends (c : Char) : Bool := c.toNat ≤ 0x20
  let trimmed := ((text.dropWhile ends).reverse.dropWhile ends).reverse
  trimmed.filter fun c => c ≠ '\t' && c ≠ '\n' && c ≠ '\r'

def scheme? (text : List Char) : Option (Scheme × List Char) :=
  match text with
  | c :: _ =>
    if isLetter c then
      match text.dropWhile isSchemeChar with
      | ':' :: rest => some (.ofName (text.takeWhile isSchemeChar), rest)
      | _ => none
    else none
  | [] => none

def isSlash (c : Char) : Bool := c == '/' || c == '\\'

def endsAuthority (scheme : Scheme) (c : Char) : Bool :=
  c == '/' || c == '?' || c == '#' || (c == '\\' && scheme != .other)

/-- The host ends at a colon outside brackets; the rest begins with that colon. -/
def splitPort (inside : Bool) (host : List Char) : List Char → List Char × List Char
  | [] => (host.reverse, [])
  | ':' :: rest => if inside then splitPort inside (':' :: host) rest else (host.reverse, ':' :: rest)
  | '[' :: rest => splitPort true ('[' :: host) rest
  | ']' :: rest => splitPort false (']' :: host) rest
  | c :: rest => splitPort inside (c :: host) rest

/-- Digits up to 65535, or nothing. -/
def isPort (text : List Char) : Bool :=
  text.all Char.isDigit && match Address.valueIn 10 text with
    | some n => n < 65536
    | none => false

/-- Undoes percent escapes; a percent sign that begins none stands for itself. -/
def unescapeOnto (read : Bytes) : Bytes → Bytes
  | 0x25 :: a :: b :: rest =>
    match Address.digitIn 16 (Char.ofNat a.toNat), Address.digitIn 16 (Char.ofNat b.toNat) with
    | some x, some y => unescapeOnto (UInt8.ofNat (x * 16 + y) :: read) rest
    | _, _ => unescapeOnto (0x25 :: read) (a :: b :: rest)
  | b :: rest => unescapeOnto (b :: read) rest
  | [] => read.reverse
termination_by bytes => bytes.length

def unescape (bytes : Bytes) : Bytes := unescapeOnto [] bytes

def bracketed? (host : List Char) : Option (List Char) :=
  match host with
  | '[' :: rest => some rest
  | _ => none

def isBracketedAddress (rest : List Char) : Bool :=
  match rest.reverse with
  | ']' :: inner => Address.isSixteenByte inner.reverse
  | _ => false

def isLookupHost (host : List Char) : Bool :=
  match bracketed? host with
  | some rest => isBracketedAddress rest
  | none =>
    match (Utf8.decode? (unescape (Utf8.encode (String.ofList host)))).map String.toList with
    | none => false
    | some name =>
      match Domain.labels? name with
      | none => false
      | some labels =>
        labels != [[]] && (!Address.endsInNumber labels || Address.isFourByte labels)

def isForbiddenOpaque (c : Char) : Bool :=
  ['\x00', '\t', '\n', '\r', ' ', '#', '/', ':', '<', '>', '?', '@', '[', '\\', ']', '^', '|'].contains c

/-- A host of a scheme that gives hosts no meaning. -/
def isOpaqueHost (host : List Char) : Bool :=
  match bracketed? host with
  | some rest => isBracketedAddress rest
  | none => !host.any isForbiddenOpaque

def splitUser (authority : List Char) : Option (List Char) × List Char :=
  if authority.contains '@' then
    let back := authority.reverse
    (some ((back.dropWhile (· ≠ '@')).drop 1).reverse, (back.takeWhile (· ≠ '@')).reverse)
  else (none, authority)

/-- A lone colon gives neither a user nor a password. -/
def isCredential (user : List Char) : Bool := !user.isEmpty && user != [':']

/-- Whether the text after the two slashes begins with a valid authority. A backslash ends a port in every
scheme, and the host only where it counts as a slash. -/
def authorityFits (scheme : Scheme) (text : List Char) : Bool :=
  let authority := text.takeWhile (!endsAuthority scheme ·)
  let after := text.dropWhile (!endsAuthority scheme ·)
  let (user, hostPort) := splitUser authority
  let (host, rest) := splitPort false [] hostPort
  let port := (rest.drop 1).takeWhile (· ≠ '\\')
  if user = some [] && hostPort.isEmpty && !after.isEmpty then false
  else if host.isEmpty then
    scheme == .other && rest.isEmpty && !(user.map isCredential).getD false
  else (if scheme == .other then isOpaqueHost host else isLookupHost host) && isPort port

def isDrive (host : List Char) : Bool :=
  match host with
  | [c, ':'] | [c, '|'] => isLetter c
  | _ => false

def fileHostFits (text : List Char) : Bool :=
  let host := text.takeWhile fun c => !(isSlash c || c == '?' || c == '#')
  host.isEmpty || isDrive host || isLookupHost host

/-- A reference without a scheme, resolved against an address with a host. -/
def relativeFits (text : List Char) : Bool :=
  match text with
  | '/' :: '/' :: rest => authorityFits .hosted rest
  | a :: b :: _ =>
    if isSlash a && isSlash b then authorityFits .hosted (text.dropWhile isSlash) else true
  | _ => true

def absoluteFits (scheme : Scheme) (rest : List Char) : Bool :=
  match scheme with
  | .file =>
    match rest with
    | a :: b :: host => if isSlash a && isSlash b then fileHostFits host else true
    | _ => true
  | .hosted => authorityFits .hosted (rest.dropWhile isSlash)
  | .other =>
    match rest with
    | '/' :: '/' :: rest => authorityFits .other rest
    | _ => true

def kindOf? (text : List Char) : Option Kind :=
  match scheme? text with
  | some (scheme, rest) =>
    if scheme == .other && rest.head? != some '/' then some .flat
    else if absoluteFits scheme rest then some .absolute else none
  | none => if relativeFits text then some .relative else none

def kind? (uri : String) : Option Kind := kindOf? (significant uri.toList)

end AuditTrail.Uri
