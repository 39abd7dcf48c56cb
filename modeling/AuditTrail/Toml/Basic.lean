import AuditTrail.Json.Text

/-! TOML values, and how the statements of a document build its tables. A table records how it was
created, which decides whether later statements may extend it. -/
namespace AuditTrail

/-- How a table was created: by its own header, on the way to another header, by a dotted key, or inline. -/
inductive Toml.Form where
  | header | implied | dotted | inline
  deriving DecidableEq, Repr

/-- Floating point numbers and times are read but not kept. -/
inductive Toml where
  | text (s : String)
  | integer (n : Int)
  | float
  | boolean (b : Bool)
  | time
  | array (elements : List Toml)
  | table (form : Toml.Form) (entries : List (String × Toml))
  /-- Tables under a double-bracket header, latest first. -/
  | tables (latest : List (String × Toml)) (earlier : List (List (String × Toml)))
  deriving Repr

namespace Toml

abbrev Entries := List (String × Toml)

def Entries.find? (entries : Entries) (key : String) : Option Toml := entries.lookup key

def Entries.replace (entries : Entries) (key : String) (value : Toml) : Entries :=
  entries.map fun (k, v) => if k = key then (k, value) else (k, v)

/-- Changes the table at the end of a path and creates missing tables on the way. Dotted keys may not pass
through a table with a header, and nothing passes through an inline table. -/
def descend (dotted : Bool) (change : Form → Entries → Option Entries) :
    List String → Form → Entries → Option Entries
  | [], form, entries => change form entries
  | key :: path, _, entries =>
    match entries.find? key with
    | none =>
      let form := if dotted then .dotted else .implied
      (descend dotted change path form []).map fun sub => entries ++ [(key, .table form sub)]
    | some (.table form sub) =>
      if form = .inline ∨ dotted ∧ form = .header then none
      else (descend dotted change path form sub).map fun sub =>
        entries.replace key (.table form sub)
    | some (.tables latest earlier) =>
      if dotted then none
      else (descend dotted change path .header latest).map fun latest =>
        entries.replace key (.tables latest earlier)
    | some _ => none

def insertNew (key : String) (value : Toml) (entries : Entries) : Option Entries :=
  if (entries.find? key).isSome then none else some (entries ++ [(key, value)])

/-- A key: its last part, and those before it. -/
structure Key where
  path : List String
  last : String
  deriving DecidableEq, Repr

def assign (key : Key) (value : Toml) (form : Form) (entries : Entries) : Option Entries :=
  descend true (fun form entries =>
    if key.path.isEmpty ∨ form = .dotted then insertNew key.last value entries else none)
    key.path form entries

def openTable (key : Key) (entries : Entries) : Option Entries :=
  descend false (fun _ entries =>
    match entries.find? key.last with
    | none => some (entries ++ [(key.last, .table .header [])])
    | some (.table .implied sub) => some (entries.replace key.last (.table .header sub))
    | some _ => none) key.path .header entries

def openElement (key : Key) (entries : Entries) : Option Entries :=
  descend false (fun _ entries =>
    match entries.find? key.last with
    | none => some (entries ++ [(key.last, .tables [] [])])
    | some (.tables latest earlier) =>
      some (entries.replace key.last (.tables [] (latest :: earlier)))
    | some _ => none) key.path .header entries

inductive Statement where
  | assignment (key : Key) (value : Toml)
  | header (key : Key)
  | doubledHeader (key : Key)
  deriving Repr

/-- The document so far, and the path of the current table. -/
structure Tree where
  root : Entries
  current : List String
  deriving Repr

namespace Tree

def empty : Tree := ⟨[], []⟩

def add (t : Tree) : Statement → Option Tree
  | .assignment key value =>
    (descend false (assign key value) t.current .header t.root).map fun root => ⟨root, t.current⟩
  | .header key => (openTable key t.root).map fun root => ⟨root, key.path ++ [key.last]⟩
  | .doubledHeader key => (openElement key t.root).map fun root => ⟨root, key.path ++ [key.last]⟩

end Tree

def inlineTable (assignments : List (Key × Toml)) : Option Toml :=
  (assignments.foldlM (fun entries (key, value) => assign key value .inline entries) []).map
    (.table .inline)

mutual

/-- A document as a JSON value; a time becomes an object. -/
def toJson : Toml → Json
  | .text s => .ofString s
  | .integer n => .ofInt n
  | .float => .number [0x30, 0x2E, 0x30]
  | .boolean b => .bool b
  | .time => .object []
  | .array elements => .array (elementsJson elements)
  | .table _ entries => .object (entriesJson entries)
  | .tables latest earlier => .array ((.object (entriesJson latest) :: tablesJson earlier).reverse)

def elementsJson : List Toml → List Json
  | [] => []
  | value :: rest => value.toJson :: elementsJson rest

def entriesJson : List (String × Toml) → List (Bytes × Json)
  | [] => []
  | (key, value) :: rest => (Json.escape key, value.toJson) :: entriesJson rest

def tablesJson : List (List (String × Toml)) → List Json
  | [] => []
  | entries :: rest => .object (entriesJson entries) :: tablesJson rest

end

end Toml
end AuditTrail
