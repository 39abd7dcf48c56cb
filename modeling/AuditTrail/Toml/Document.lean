import AuditTrail.Toml.Scalar
import AuditTrail.Toml.Text

/-! TOML documents as text: `Toml.parse?` reads the statements in order and builds their tables. -/
namespace AuditTrail.Toml

/-- What follows blanks, line ends and comments; a comment may not contain control characters. -/
def trivia (inComment : Bool) : List Char → Option (List Char)
  | [] => some []
  | c :: rest =>
    if inComment then
      if c = '\n' then trivia false rest else if isAllowed c then trivia true rest else none
    else if isBlank c ∨ c = '\n' then trivia false rest
    else if c = '#' then trivia true rest
    else some (c :: rest)

def lineEnd (inComment : Bool) : List Char → Option (List Char)
  | [] => some []
  | c :: rest =>
    if c = '\n' then some rest
    else if inComment then if isAllowed c then lineEnd true rest else none
    else if isBlank c then lineEnd false rest
    else if c = '#' then lineEnd true rest
    else none

def blanks (chars : List Char) : List Char := chars.dropWhile isBlank

def isBareChar (c : Char) : Bool :=
  isDigit c || ('a' ≤ c && c ≤ 'z') || ('A' ≤ c && c ≤ 'Z') || c == '_' || c == '-'

def keyPart? (chars : List Char) : Option (String × List Char) :=
  match line? chars with
  | some part => some part
  | none =>
    let bare := chars.takeWhile isBareChar
    if bare.isEmpty then none else some (.ofList bare, chars.dropWhile isBareChar)

/-- A key, after the parts already read, latest first. -/
def keyAfter? : Nat → List String → List Char → Option (Key × List Char)
  | 0, _, _ => none
  | fuel + 1, read, chars => do
    let (part, rest) ← keyPart? (blanks chars)
    match blanks rest with
    | '.' :: rest => keyAfter? fuel (part :: read) rest
    | rest => some (⟨read.reverse, part⟩, rest)

def key? (chars : List Char) : Option (Key × List Char) := keyAfter? (chars.length + 1) [] chars

abbrev Reader (α : Type) := List Char → Option (α × List Char)

def assignment? (value : Reader Toml) : Reader (Key × Toml) := fun chars => do
  let (key, rest) ← key? chars
  match rest with
  | '=' :: rest => do
    let (v, rest) ← value (blanks rest)
    some ((key, v), rest)
  | _ => none

/-- Items separated by commas, up to a closing bracket; a trailing comma is allowed. -/
def items? (item : Reader α) (close : Char) : Nat → List α → Reader (List α)
  | 0, _, _ => none
  | fuel + 1, read, chars => do
    match ← trivia false chars with
    | [] => none
    | c :: rest =>
      if c = close then some (read.reverse, rest)
      else do
        let (a, rest) ← item (c :: rest)
        match ← trivia false rest with
        | [] => none
        | c :: rest =>
          if c = close then some ((a :: read).reverse, rest)
          else if c = ',' then items? item close fuel (a :: read) rest
          else none

/-- A value, with brackets nested to a bounded depth. -/
def value? : Nat → Reader Toml
  | 0, chars => (string? chars).map (fun (s, rest) => (.text s, rest)) <|> scalar? chars
  | depth + 1, chars =>
    match chars with
    | '[' :: rest =>
      (items? (value? depth) ']' (rest.length + 1) [] rest).map fun (vs, rest) => (.array vs, rest)
    | '{' :: rest => do
      let (entries, rest) ← items? (assignment? (value? depth)) '}' (rest.length + 1) [] rest
      let table ← inlineTable entries
      some (table, rest)
    | chars => (string? chars).map (fun (s, rest) => (.text s, rest)) <|> scalar? chars

def maxDepth : Nat := 80

def statement? (chars : List Char) : Option (Statement × List Char) :=
  match chars with
  | '[' :: '[' :: rest => do
    let (key, rest) ← key? rest
    match rest with
    | ']' :: ']' :: rest => some (.doubledHeader key, rest)
    | _ => none
  | '[' :: rest => do
    let (key, rest) ← key? rest
    match rest with
    | ']' :: rest => some (.header key, rest)
    | _ => none
  | chars => (assignment? (value? maxDepth) chars).map fun ((key, v), rest) => (.assignment key v, rest)

/-- The statements of a text, after those already read, latest first. -/
def statements? : Nat → List Statement → List Char → Option (List Statement)
  | 0, _, _ => none
  | fuel + 1, read, chars => do
    match ← trivia false chars with
    | [] => some read.reverse
    | chars => do
      let (s, rest) ← statement? chars
      statements? fuel (s :: read) (← lineEnd false rest)

def singleEnds : List Char → List Char
  | '\r' :: '\n' :: rest => '\n' :: singleEnds rest
  | c :: rest => c :: singleEnds rest
  | [] => []

/-- Drops a byte order mark. -/
def afterMark : List Char → List Char
  | '\ufeff' :: rest => rest
  | chars => chars

def parse? (text : String) : Option Toml := do
  let chars := singleEnds (afterMark text.toList)
  let statements ← statements? (chars.length + 1) [] chars
  let tree ← statements.foldlM Tree.add Tree.empty
  some (.table .header tree.root)

end AuditTrail.Toml
