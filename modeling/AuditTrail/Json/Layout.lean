import AuditTrail.Json.Text

/-! Reading structures from JSON. A layout lists the fields in order; an object gives them by name
and an array by position, and missing fields keep their defaults. Unknown members are skipped, a
field may be given once, and values are read in the order of the text. -/
namespace AuditTrail.Json

/-- Errors that a reader reports for a value of the wrong type. -/
class Complaint (ε : Type) where
  malformed : ε

instance : Complaint Unit := ⟨()⟩

export Complaint (malformed)

structure Field (ε α : Type) where
  name : String
  put : Json → α → Except ε α

abbrev Layout (ε α : Type) := List (Field ε α)

def expect [Complaint ε] : Option β → Except ε β
  | some b => .ok b
  | none => .error malformed

/-- A field that keeps its default if the value is `null`. -/
def Field.orNull (field : Field ε α) : Field ε α :=
  ⟨field.name, fun value a => if value.isNull then .ok a else field.put value a⟩

def Field.text [Complaint ε] (name : String) (set : String → α → α) : Field ε α :=
  ⟨name, fun value a => (expect value.string?).map (set · a)⟩

namespace Layout

def ofArray [Complaint ε] : Layout ε α → List Json → α → Except ε α
  | _, [], a => .ok a
  | [], _ :: _, _ => .error malformed
  | field :: layout, value :: rest, a =>
    match field.put value a with
    | .ok a => ofArray layout rest a
    | .error e => .error e

def ofMembers [Complaint ε] (layout : Layout ε α) (seen : List String) :
    List (Bytes × Json) → α → Except ε α
  | [], a => .ok a
  | (raw, value) :: rest, a =>
    match unescape? raw with
    | none => .error malformed
    | some name =>
      match layout.find? (·.name == name) with
      | none => ofMembers layout seen rest a
      | some field =>
        if seen.contains name then .error malformed
        else match field.put value a with
          | .ok a => ofMembers layout (name :: seen) rest a
          | .error e => .error e

def decode [Complaint ε] (layout : Layout ε α) (default : α) : Json → Except ε α
  | .object members => layout.ofMembers [] members default
  | .array elements => layout.ofArray elements default
  | _ => .error malformed

/-- As `decode`, but ignores elements of an array past the last field. -/
def decodeLeading [Complaint ε] (layout : Layout ε α) (default : α) : Json → Except ε α
  | .array elements => layout.ofArray (elements.take layout.length) default
  | value => layout.decode default value

end Layout

/-- Reads a whole text. An incomplete text is malformed, unless the part before the break has an error of its
own. -/
def decodeText [Complaint ε] (decode : Json → Except ε α) (bytes : Bytes) : Except ε α :=
  match read bytes with
  | .whole value => decode value
  | .cut none => .error malformed
  | .cut (some value) =>
    match decode value with
    | .ok _ => .error malformed
    | .error e => .error e

end AuditTrail.Json
