import AuditTrail.Utf8

/-! The lexical layer of JSON text. `Token.scan` splits bytes into tokens; a string keeps the bytes
between its quotes and a number its spelling. The token `junk` marks the first byte that begins no
token. -/
namespace AuditTrail.Json

inductive Token where
  | beginObject | endObject | beginArray | endArray | colon | comma
  | null
  | bool (value : Bool)
  | number (spelling : Bytes)
  | string (raw : Bytes)
  | junk
  deriving DecidableEq, Repr

/-- The state of reading a number. -/
inductive Number where
  | minus | zero | whole | point | fraction | mark | sign | power
  deriving DecidableEq, Repr

namespace Number

def isDigit (b : UInt8) : Bool := 0x30 ≤ b && b ≤ 0x39

def next? (n : Number) (b : UInt8) : Option Number :=
  match n with
  | .minus => if b = 0x30 then some .zero else if isDigit b then some .whole else none
  | .zero =>
    if b = 0x2E then some .point else if b = 0x65 ∨ b = 0x45 then some .mark else none
  | .whole =>
    if isDigit b then some .whole
    else if b = 0x2E then some .point else if b = 0x65 ∨ b = 0x45 then some .mark else none
  | .point => if isDigit b then some .fraction else none
  | .fraction =>
    if isDigit b then some .fraction else if b = 0x65 ∨ b = 0x45 then some .mark else none
  | .mark =>
    if isDigit b then some .power else if b = 0x2B ∨ b = 0x2D then some .sign else none
  | .sign => if isDigit b then some .power else none
  | .power => if isDigit b then some .power else none

def isComplete : Number → Bool
  | .zero | .whole | .fraction | .power => true
  | .minus | .point | .mark | .sign => false

end Number

/-- The state of the scanner; the current token is kept latest byte first. -/
inductive Scanner.Place where
  | between
  | number (phase : Number) (read : Bytes)
  | word (rest : Bytes) (token : Token)
  | text (read : Bytes)
  | escape (read : Bytes)
  | unicode (owed : Nat) (read : Bytes)
  | stopped
  deriving DecidableEq, Repr

structure Scanner where
  place : Scanner.Place
  done : List Token
  deriving DecidableEq, Repr

namespace Scanner

def start : Scanner := ⟨.between, []⟩

def isBlank (b : UInt8) : Bool := b == 0x20 || b == 0x09 || b == 0x0A || b == 0x0D

def isHex (b : UInt8) : Bool :=
  Number.isDigit b || (0x41 ≤ b && b ≤ 0x46) || (0x61 ≤ b && b ≤ 0x66)

/-- The bytes that may follow a backslash, except the one that starts four hex digits. -/
def isShortEscape (b : UInt8) : Bool :=
  b == 0x22 || b == 0x5C || b == 0x2F || b == 0x62 || b == 0x66 || b == 0x6E || b == 0x72
    || b == 0x74

def first (done : List Token) (b : UInt8) : Scanner :=
  if isBlank b then ⟨.between, done⟩
  else if b = 0x7B then ⟨.between, .beginObject :: done⟩
  else if b = 0x7D then ⟨.between, .endObject :: done⟩
  else if b = 0x5B then ⟨.between, .beginArray :: done⟩
  else if b = 0x5D then ⟨.between, .endArray :: done⟩
  else if b = 0x3A then ⟨.between, .colon :: done⟩
  else if b = 0x2C then ⟨.between, .comma :: done⟩
  else if b = 0x22 then ⟨.text [], done⟩
  else if b = 0x2D then ⟨.number .minus [b], done⟩
  else if b = 0x30 then ⟨.number .zero [b], done⟩
  else if Number.isDigit b then ⟨.number .whole [b], done⟩
  else if b = 0x6E then ⟨.word [0x75, 0x6C, 0x6C] .null, done⟩
  else if b = 0x74 then ⟨.word [0x72, 0x75, 0x65] (.bool true), done⟩
  else if b = 0x66 then ⟨.word [0x61, 0x6C, 0x73, 0x65] (.bool false), done⟩
  else ⟨.stopped, .junk :: done⟩

def feed (s : Scanner) (b : UInt8) : Scanner :=
  match s.place with
  | .between => first s.done b
  | .number phase read =>
    match phase.next? b with
    | some phase => ⟨.number phase (b :: read), s.done⟩
    | none =>
      if phase.isComplete then first (.number read.reverse :: s.done) b
      else ⟨.stopped, .junk :: s.done⟩
  | .word [] _ => ⟨.stopped, .junk :: s.done⟩
  | .word (c :: rest) token =>
    if b = c then
      if rest.isEmpty then ⟨.between, token :: s.done⟩ else ⟨.word rest token, s.done⟩
    else ⟨.stopped, .junk :: s.done⟩
  | .text read =>
    if b = 0x22 then ⟨.between, .string read.reverse :: s.done⟩
    else if b = 0x5C then ⟨.escape (b :: read), s.done⟩
    else if b < 0x20 then ⟨.stopped, .junk :: s.done⟩
    else ⟨.text (b :: read), s.done⟩
  | .escape read =>
    if isShortEscape b then ⟨.text (b :: read), s.done⟩
    else if b = 0x75 then ⟨.unicode 4 (b :: read), s.done⟩
    else ⟨.stopped, .junk :: s.done⟩
  | .unicode owed read =>
    if isHex b then
      if owed ≤ 1 then ⟨.text (b :: read), s.done⟩ else ⟨.unicode (owed - 1) (b :: read), s.done⟩
    else ⟨.stopped, .junk :: s.done⟩
  | .stopped => s

def finish (s : Scanner) : List Token :=
  match s.place with
  | .between | .stopped => s.done.reverse
  | .number phase read =>
    (if phase.isComplete then Token.number read.reverse :: s.done else .junk :: s.done).reverse
  | .word _ _ | .text _ | .escape _ | .unicode _ _ => (Token.junk :: s.done).reverse

end Scanner

def Token.scan (bytes : Bytes) : List Token := (bytes.foldl Scanner.feed Scanner.start).finish

end AuditTrail.Json
