import AuditTrail.Json.Basic

/-! Strings and integers in JSON text. `unescape?` refuses lone surrogates and bytes that are not
UTF-8. `integer?` reads a number as an integer if it has no fraction and no exponent and is not a
negative zero. -/
namespace AuditTrail.Json

def hexDigit (n : Nat) : UInt8 := if n < 10 then UInt8.ofNat (0x30 + n) else UInt8.ofNat (0x57 + n)

/-- Escapes quotes, backslashes and control characters, five of the latter by a letter. -/
def escapeChar (c : Char) : Bytes :=
  match c with
  | '"' => [0x5C, 0x22]
  | '\\' => [0x5C, 0x5C]
  | '\x08' => [0x5C, 0x62]
  | '\t' => [0x5C, 0x74]
  | '\n' => [0x5C, 0x6E]
  | '\x0c' => [0x5C, 0x66]
  | '\r' => [0x5C, 0x72]
  | c =>
    if c.toNat < 0x20 then
      [0x5C, 0x75, 0x30, 0x30, hexDigit (c.toNat / 16), hexDigit (c.toNat % 16)]
    else String.utf8EncodeChar c

def escape (text : String) : Bytes := text.toList.flatMap escapeChar

def ofString (text : String) : Json := .string (escape text)

def hexValue (b : UInt8) : Nat :=
  if b ≤ 0x39 then b.toNat - 0x30 else if b ≤ 0x46 then b.toNat - 0x37 else b.toNat - 0x57

def shortEscape (b : UInt8) : UInt8 :=
  if b = 0x62 then 0x08 else if b = 0x74 then 0x09 else if b = 0x6E then 0x0A
  else if b = 0x66 then 0x0C else if b = 0x72 then 0x0D else b

def unit (a b c d : UInt8) : Nat :=
  ((hexValue a * 16 + hexValue b) * 16 + hexValue c) * 16 + hexValue d

def isLeading (u : Nat) : Bool := 0xD800 ≤ u && u < 0xDC00

def isTrailing (u : Nat) : Bool := 0xDC00 ≤ u && u < 0xE000

/-- The bytes that an escaped text stands for, after those already read, latest first. -/
def unescapeOnto (read : Bytes) : Bytes → Option Bytes
  | 0x5C :: 0x75 :: a :: b :: c :: d :: rest =>
    let u := unit a b c d
    if isLeading u then
      match rest with
      | 0x5C :: 0x75 :: e :: f :: g :: h :: rest =>
        let v := unit e f g h
        if isTrailing v then
          let c := Char.ofNat (0x10000 + (u - 0xD800) * 0x400 + (v - 0xDC00))
          unescapeOnto ((String.utf8EncodeChar c).reverse ++ read) rest
        else none
      | _ => none
    else if isTrailing u then none
    else unescapeOnto ((String.utf8EncodeChar (Char.ofNat u)).reverse ++ read) rest
  | 0x5C :: b :: rest => unescapeOnto (shortEscape b :: read) rest
  | b :: rest => unescapeOnto (b :: read) rest
  | [] => some read.reverse

def unescape? (raw : Bytes) : Option String := (unescapeOnto [] raw).bind Utf8.decode?

def string? : Json → Option String
  | .string raw => unescape? raw
  | _ => none

def digits? (spelling : Bytes) : Option Nat :=
  if spelling.isEmpty then none
  else spelling.foldl (fun n b =>
    n.bind fun n => if Number.isDigit b then some (n * 10 + (b.toNat - 0x30)) else none) (some 0)

def integerOf? : Bytes → Option Int
  | 0x2D :: rest => (digits? rest).bind fun n => if n = 0 then none else some (-n)
  | spelling => (digits? spelling).map Int.ofNat

def integer? : Json → Option Int
  | .number spelling => integerOf? spelling
  | _ => none

def ofInt (n : Int) : Json := .number (Utf8.encode (toString n))

end AuditTrail.Json
