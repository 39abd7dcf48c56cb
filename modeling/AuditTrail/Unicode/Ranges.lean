/-! Sets of code points, given by a text of hexadecimal numbers and ranges such as
41-5A 61-7A AA. -/
namespace AuditTrail.Unicode

structure Ranges where
  pairs : Array (Nat × Nat)

namespace Ranges

/-- The ranges read so far, the first number of the current range, and the digits of the current number. -/
structure Reader where
  pairs : Array (Nat × Nat)
  first : Option Nat
  digits : Option Nat

def hexDigit? (c : Char) : Option Nat :=
  if '0' ≤ c && c ≤ '9' then some (c.toNat - 0x30)
  else if 'A' ≤ c && c ≤ 'F' then some (c.toNat - 0x37)
  else none

def Reader.endRange (r : Reader) : Reader :=
  match r.digits with
  | some last => ⟨r.pairs.push (r.first.getD last, last), none, none⟩
  | none => ⟨r.pairs, none, none⟩

def Reader.feed (r : Reader) (c : Char) : Reader :=
  match hexDigit? c with
  | some d => { r with digits := some (r.digits.getD 0 * 16 + d) }
  | none => if c = '-' then { r with first := r.digits, digits := none } else r.endRange

def ofText (text : String) : Ranges :=
  ⟨(text.toList.foldl Reader.feed ⟨#[], none, none⟩).endRange.pairs⟩

def contains (r : Ranges) (c : Char) : Bool :=
  r.pairs.any fun (first, last) => first ≤ c.toNat && c.toNat ≤ last

end Ranges
end AuditTrail.Unicode
