/-! Strings of TOML documents: basic and literal, on one line or several. -/
namespace AuditTrail.Toml

def isAllowed (c : Char) : Bool := c == '\t' || (' ' ≤ c && c ≠ '\x7f')

def isBlank (c : Char) : Bool := c == ' ' || c == '\t'

def escaped? : Char → Option Char
  | 'b' => some '\x08'
  | 't' => some '\t'
  | 'n' => some '\n'
  | 'f' => some '\x0c'
  | 'r' => some '\r'
  | 'e' => some '\x1b'
  | '"' => some '"'
  | '\\' => some '\\'
  | _ => none

def hexDigit? (c : Char) : Option Nat :=
  if '0' ≤ c ∧ c ≤ '9' then some (c.toNat - 48)
  else if 'a' ≤ c ∧ c ≤ 'f' then some (c.toNat - 87)
  else if 'A' ≤ c ∧ c ≤ 'F' then some (c.toNat - 55)
  else none

/-- The character with a hexadecimal number. -/
def numbered? (digits : List Char) : Option Char :=
  (digits.foldlM (fun n c => (hexDigit? c).map (n * 16 + ·)) 0).bind fun n =>
    if n.isValidChar then some (Char.ofNat n) else none

/-- The character for the escape after a backslash, and the rest. -/
def escape? : List Char → Option (Char × List Char)
  | 'x' :: a :: b :: rest => (numbered? [a, b]).map (·, rest)
  | 'u' :: a :: b :: c :: d :: rest => (numbered? [a, b, c, d]).map (·, rest)
  | 'U' :: a :: b :: c :: d :: e :: f :: g :: h :: rest =>
    (numbered? [a, b, c, d, e, f, g, h]).map (·, rest)
  | c :: rest => (escaped? c).map (·, rest)
  | [] => none

theorem length_escape? {chars rest : List Char} {c : Char} (h : escape? chars = some (c, rest)) :
    rest.length < chars.length := by
  unfold escape? at h
  split at h <;> simp only [Option.map_eq_some_iff, Prod.mk.injEq, reduceCtorEq] at h
  all_goals
    obtain ⟨_, _, _, rfl⟩ := h
    simp only [List.length_cons]
    omega

/-- The rest of a quoted string; `read` is what was read, latest first. -/
def quotedRest (read : List Char) (chars : List Char) : Option (String × List Char) :=
  match chars with
  | '"' :: rest => some (.ofList read.reverse, rest)
  | '\\' :: rest =>
    match _next : escape? rest with
    | some (c, rest) => quotedRest (c :: read) rest
    | none => none
  | c :: rest => if isAllowed c then quotedRest (c :: read) rest else none
  | [] => none
termination_by chars.length
decreasing_by
  · have := length_escape? _next
    simp only [List.length_cons]
    omega
  · simp

def literalRest (read : List Char) : List Char → Option (String × List Char)
  | '\'' :: rest => some (.ofList read.reverse, rest)
  | c :: rest => if isAllowed c then literalRest (c :: read) rest else none
  | [] => none

/-- The rest of a quoted string of several lines. Up to two quotes may stand before the closing ones. While
`trimming`, blanks and line ends are skipped. -/
def quotedLines (trimming : Bool) (read : List Char) (chars : List Char) :
    Option (String × List Char) :=
  match chars with
  | '"' :: '"' :: '"' :: '"' :: '"' :: rest => some (.ofList ('"' :: '"' :: read).reverse, rest)
  | '"' :: '"' :: '"' :: '"' :: rest => some (.ofList ('"' :: read).reverse, rest)
  | '"' :: '"' :: '"' :: rest => some (.ofList read.reverse, rest)
  | '\\' :: rest =>
    match _next : escape? rest with
    | some (c, rest) => quotedLines false (c :: read) rest
    | none =>
      match _line : rest.dropWhile isBlank with
      | '\n' :: after => quotedLines true read after
      | _ => none
  | c :: rest =>
    if trimming && (isBlank c || c == '\n') then quotedLines true read rest
    else if isAllowed c || c == '\n' then quotedLines false (c :: read) rest
    else none
  | [] => none
termination_by chars.length
decreasing_by
  · have := length_escape? _next
    simp only [List.length_cons]
    omega
  · have shorter := (List.dropWhile_suffix isBlank (l := rest)).length_le
    rw [_line] at shorter
    simp only [List.length_cons] at *
    omega
  · simp
  · simp

def literalLines (read : List Char) : List Char → Option (String × List Char)
  | '\'' :: '\'' :: '\'' :: '\'' :: '\'' :: rest => some (.ofList ('\'' :: '\'' :: read).reverse, rest)
  | '\'' :: '\'' :: '\'' :: '\'' :: rest => some (.ofList ('\'' :: read).reverse, rest)
  | '\'' :: '\'' :: '\'' :: rest => some (.ofList read.reverse, rest)
  | c :: rest => if isAllowed c || c == '\n' then literalLines (c :: read) rest else none
  | [] => none

def afterOpening : List Char → List Char
  | '\n' :: rest => rest
  | chars => chars

def line? : List Char → Option (String × List Char)
  | '"' :: rest => quotedRest [] rest
  | '\'' :: rest => literalRest [] rest
  | _ => none

def string? : List Char → Option (String × List Char)
  | '"' :: '"' :: '"' :: rest => quotedLines false [] (afterOpening rest)
  | '\'' :: '\'' :: '\'' :: rest => literalLines [] (afterOpening rest)
  | chars => line? chars

/-- A character as it is written between quotes. -/
def quoteChar (c : Char) : List Char :=
  match c with
  | '"' => ['\\', '"']
  | '\\' => ['\\', '\\']
  | '\n' => ['\\', 'n']
  | '\r' => ['\\', 'r']
  | '\t' => ['\\', 't']
  | c =>
    if isAllowed c then [c]
    else ['\\', 'x', Nat.digitChar (c.toNat / 16), Nat.digitChar (c.toNat % 16)]

def quote (text : String) : String := .ofList ('"' :: text.toList.flatMap quoteChar ++ ['"'])

end AuditTrail.Toml
