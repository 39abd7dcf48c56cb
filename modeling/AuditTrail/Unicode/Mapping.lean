import AuditTrail.Unicode.Ranges

/-! Mappings of code points, given by a text of entries such as A0>20, 41-5A>61, 100-12E/2>101
and FB01>66,69. A range, or every second code point of it, is mapped with its distance from the
first. -/
namespace AuditTrail.Unicode

structure Mapping.Entry where
  first : Nat
  last : Nat
  step : Nat
  image : List Nat

structure Mapping where
  entries : Array Mapping.Entry

namespace Mapping

structure Reader where
  entries : Array Entry
  first : Option Nat
  last : Option Nat
  step : Nat
  targets : List Nat
  digits : Nat
  /-- Which part of the entry the digits belong to. -/
  part : Nat

namespace Reader

def start (entries : Array Entry) : Reader := ⟨entries, none, none, 1, [], 0, 0⟩

def file (r : Reader) : Reader :=
  match r.part with
  | 0 => { r with first := some r.digits, digits := 0 }
  | 1 => { r with last := some r.digits, digits := 0 }
  | 2 => { r with step := r.digits, digits := 0 }
  | _ => { r with targets := r.digits :: r.targets, digits := 0 }

def endEntry (r : Reader) : Reader :=
  let r := r.file
  match r.first, r.targets with
  | some first, targets@(_ :: _) =>
    start (r.entries.push ⟨first, r.last.getD first, r.step, targets.reverse⟩)
  | _, _ => start r.entries

def feed (r : Reader) (c : Char) : Reader :=
  match Ranges.hexDigit? c with
  | some d => { r with digits := r.digits * 16 + d }
  | none =>
    if c = '-' then { r.file with part := 1 }
    else if c = '/' then { r.file with part := 2 }
    else if c = '>' then { r.file with part := 3 }
    else if c = ',' then r.file
    else r.endEntry

end Reader

def ofText (text : String) : Mapping :=
  ⟨(text.toList.foldl Reader.feed (.start #[])).endEntry.entries⟩

def Entry.covers (e : Entry) (n : Nat) : Bool :=
  e.first ≤ n && n ≤ e.last && (n - e.first) % e.step == 0

def find? (m : Mapping) (c : Char) : Option (List Char) :=
  (m.entries.find? (·.covers c.toNat)).map fun e =>
    e.image.map fun n => Char.ofNat (n + (c.toNat - e.first))

end Mapping
end AuditTrail.Unicode
