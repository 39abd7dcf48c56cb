/-! UTF-8 encoding and decoding. `decode?` refuses invalid bytes, and `decodeLossy` replaces each
longest prefix of an encoding that is not completed, and each byte that begins none, by one
replacement character. -/
namespace AuditTrail

abbrev Bytes := List UInt8

namespace Utf8

def encode (text : String) : Bytes := text.toList.flatMap String.utf8EncodeChar

def decode? (bytes : Bytes) : Option String := String.fromUTF8? bytes.toByteArray

/-- What the first byte of a character determines: the number of bytes that follow, the range of the next one,
and its own bits. -/
structure Lead where
  owed : Nat
  low : UInt8
  high : UInt8
  bits : Nat
  deriving DecidableEq, Repr

inductive State where
  | between
  | inside (lead : Lead)
  deriving DecidableEq, Repr

def replacement : Char := '\ufffd'

/-- The narrower ranges exclude overlong encodings, surrogates and values past the last code point. -/
def lead? (b : UInt8) : Option Lead :=
  if 0xC2 ≤ b ∧ b ≤ 0xDF then some ⟨1, 0x80, 0xBF, b.toNat - 0xC0⟩
  else if b = 0xE0 then some ⟨2, 0xA0, 0xBF, 0⟩
  else if b = 0xED then some ⟨2, 0x80, 0x9F, 0xD⟩
  else if 0xE1 ≤ b ∧ b ≤ 0xEF then some ⟨2, 0x80, 0xBF, b.toNat - 0xE0⟩
  else if b = 0xF0 then some ⟨3, 0x90, 0xBF, 0⟩
  else if 0xF1 ≤ b ∧ b ≤ 0xF3 then some ⟨3, 0x80, 0xBF, b.toNat - 0xF0⟩
  else if b = 0xF4 then some ⟨3, 0x80, 0x8F, 4⟩
  else none

/-- The characters decoded so far, latest first, and the state within the current one. -/
structure Decoder where
  state : State
  done : List Char
  deriving DecidableEq, Repr

namespace Decoder

def start : Decoder := ⟨.between, []⟩

def first (done : List Char) (b : UInt8) : Decoder :=
  if b < 0x80 then ⟨.between, Char.ofNat b.toNat :: done⟩
  else match lead? b with
    | some lead => ⟨.inside lead, done⟩
    | none => ⟨.between, replacement :: done⟩

def feed (d : Decoder) (b : UInt8) : Decoder :=
  match d.state with
  | .between => first d.done b
  | .inside lead =>
    if lead.low ≤ b ∧ b ≤ lead.high then
      let bits := lead.bits * 64 + (b.toNat - 0x80)
      if lead.owed ≤ 1 then ⟨.between, Char.ofNat bits :: d.done⟩
      else ⟨.inside ⟨lead.owed - 1, 0x80, 0xBF, bits⟩, d.done⟩
    else first (replacement :: d.done) b

def finish (d : Decoder) : List Char :=
  match d.state with
  | .between => d.done.reverse
  | .inside _ => (replacement :: d.done).reverse

end Decoder

def decodeLossy (bytes : Bytes) : String :=
  String.ofList (bytes.foldl Decoder.feed Decoder.start).finish

end Utf8
end AuditTrail
