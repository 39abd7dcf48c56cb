import AuditTrail.Proofs.Json.Text
import AuditTrail.Proofs.Toml.Text
import AuditTrail.Toml.Document

/-! Documents made of sections, each a header and a line for every key. They are read as the table
of these sections, for every spelling of their strings, if no section or key is given twice. -/
namespace AuditTrail.Toml

variable {c : Char} {name : String} {v : Toml} {chars rest : List Char}

/-! ### Numbers -/

theorem isDigit_toDigits (n : Nat) : ∀ c ∈ Nat.toDigits 10 n, isDigit c = true :=
  fun _ member => Nat.isDigit_of_mem_toDigits (by decide) (by decide) member

theorem toDigits_ne {n : Nat} (member : c ∈ chars) (other : isDigit c = false) :
    Nat.toDigits 10 n ≠ chars := by
  rintro rfl
  rw [isDigit_toDigits n c member] at other
  cases other

theorem isScalarChar_of_isDigit (digit : isDigit c = true) : isScalarChar c = true := by
  simp [isScalarChar, digit]

theorem digits?_of_digit {digits : List Char} (some_ : digits ≠ []) (all : ∀ c ∈ digits, isDigit c = true) :
    digits? isDigit digits = some digits := by
  have whole : '_' ∉ digits := fun member => absurd (all _ member) (by decide)
  rw [digits?, List.splitOn_eq_singleton whole]
  simpa [some_] using all

theorem wholeDigits?_toDigits (n : Nat) : wholeDigits? (Nat.toDigits 10 n) = some (Nat.toDigits 10 n) := by
  rw [wholeDigits?, digits?_of_digit Nat.toDigits_ne_nil (isDigit_toDigits n), Option.bind_some, if_neg]
  rintro ⟨many, zero⟩
  by_cases positive : 0 < n
  · obtain ⟨c, first, nonzero⟩ := Json.head?_toDigits positive
    exact nonzero (Option.some.inj (first.symm.trans zero))
  · obtain rfl : n = 0 := Nat.eq_zero_of_not_pos positive
    exact absurd many (by decide)

theorem valueIn_toDigits (n : Nat) : valueIn 10 (Nat.toDigits 10 n) = n := by
  have same : ∀ (digits : List Char) (init : Nat), (∀ c ∈ digits, isDigit c = true) →
      digits.foldl (fun n c => n * 10 + digitValue c) init = Nat.ofDigitChars 10 digits init := by
    intro digits
    induction digits with
    | nil => exact fun _ _ => rfl
    | cons c rest ih =>
      intro init all
      obtain ⟨here, later⟩ := List.forall_mem_cons.1 all
      have small : c ≤ '9' := by
        simp only [isDigit, Bool.and_eq_true, decide_eq_true_eq] at here
        exact here.2
      rw [List.foldl_cons, ih _ later, Nat.ofDigitChars_cons, digitValue, if_pos small, Nat.mul_comm]
      rfl
  rw [valueIn, same _ _ (isDigit_toDigits n), Nat.ofDigitChars_ten_toDigits]

theorem integer?_toDigits {n : Nat} (small : n < UInt64.size) :
    integer? (Nat.toDigits 10 n) = some (.integer n) := by
  have plain : integer? (Nat.toDigits 10 n) =
      (wholeDigits? (withoutSign (Nat.toDigits 10 n))).bind fun ds => bounded? (valueIn 10 ds) := by
    unfold integer?
    split
    next shape => exact absurd shape (toDigits_ne (c := 'x') (by simp) (by decide))
    next shape => exact absurd shape (toDigits_ne (c := 'o') (by simp) (by decide))
    next shape => exact absurd shape (toDigits_ne (c := 'b') (by simp) (by decide))
    next shape => exact absurd shape (toDigits_ne List.mem_cons_self (by decide))
    next => rfl
  have unsigned : withoutSign (Nat.toDigits 10 n) = Nat.toDigits 10 n := by
    unfold withoutSign
    split
    next shape => exact absurd shape (toDigits_ne List.mem_cons_self (by decide))
    next shape => exact absurd shape (toDigits_ne List.mem_cons_self (by decide))
    next => rfl
  rw [plain, unsigned, wholeDigits?_toDigits, Option.bind_some, valueIn_toDigits, bounded?, if_pos]
  have limit : (1 <<< 128 : Nat) = 340282366920938463463374607431768211456 := by decide
  have low : 0 ≤ (1 <<< 127 : Nat) := Nat.zero_le _
  change n < 18446744073709551616 at small
  omega

/-! ### Values -/

theorem takeWhile_append_cons {p : Char → Bool} {front : List Char} (rest : List Char)
    (all : ∀ c ∈ front, p c = true) (stop : p c = false) :
    (front ++ c :: rest).takeWhile p = front ∧ (front ++ c :: rest).dropWhile p = c :: rest := by
  constructor
  · rw [List.takeWhile_append_of_pos all, List.takeWhile_cons_of_neg (by simp [stop]), List.append_nil]
  · rw [List.dropWhile_append_of_pos all, List.dropWhile_cons_of_neg (by simp [stop])]

theorem scalar?_line {first : List Char} (all : ∀ c ∈ first, isScalarChar c = true) :
    scalar? (first ++ '\n' :: rest) = (scalarOf? first).map (·, '\n' :: rest) := by
  obtain ⟨taken, dropped⟩ := takeWhile_append_cons rest all (by decide : isScalarChar '\n' = false)
  unfold scalar?
  simp only [taken, dropped]
  split
  next space => simp at space
  next => rfl

/-- The text of a value. -/
inductive Written : Toml → List Char → Prop where
  | text {s : String} {chars : List Char} (spelled : Spelled s chars) : Written (.text s) chars
  | boolean (b : Bool) : Written (.boolean b) (if b then "true" else "false").toList
  | integer {n : Nat} (small : n < UInt64.size) : Written (.integer n) (toString n).toList

theorem Spelled.exists_cons {s : String} (spelled : Spelled s chars) :
    ∃ d after, chars = d :: after ∧ (d = '"' ∨ d = '\'') := by
  cases spelled with
  | quoted | quotedLines => exact ⟨_, _, rfl, .inl rfl⟩
  | literal | literalLines => exact ⟨_, _, rfl, .inr rfl⟩

theorem Written.scalar (written : Written v chars) : (∃ s, v = .text s ∧ Spelled s chars) ∨
    (chars ≠ [] ∧ (∀ c ∈ chars, isScalarChar c = true) ∧ scalarOf? chars = some v) := by
  cases written with
  | text spelled => exact .inl ⟨_, rfl, spelled⟩
  | boolean b => cases b <;> exact .inr ⟨by decide, List.all_eq_true.1 (by decide), rfl⟩
  | @integer n small =>
    rw [Nat.toString_eq_repr, Nat.toList_repr]
    have plain : ∀ c ∈ Nat.toDigits 10 n, isScalarChar c = true :=
      fun c member => isScalarChar_of_isDigit (isDigit_toDigits n c member)
    refine .inr ⟨Nat.toDigits_ne_nil, plain, ?_⟩
    rw [scalarOf?, if_neg (toDigits_ne (c := 't') (by decide) (by decide)),
      if_neg (toDigits_ne (c := 'f') (by decide) (by decide)), integer?_toDigits small]
    rfl

theorem Written.exists_cons (written : Written v chars) : ∃ d after, chars = d :: after ∧
    isBlank d = false ∧ d ≠ '[' ∧ d ≠ '{' := by
  rcases written.scalar with ⟨s, -, spelled⟩ | ⟨some_, all, -⟩
  · obtain ⟨d, after, rfl, rfl | rfl⟩ := spelled.exists_cons <;> exact ⟨_, _, rfl, by decide⟩
  · obtain ⟨d, after, rfl⟩ := List.exists_cons_of_ne_nil some_
    have plain := all d List.mem_cons_self
    have other : ∀ e, isScalarChar e = false → d ≠ e := by
      rintro e no rfl
      rw [no] at plain
      cases plain
    refine ⟨d, after, rfl, ?_, other _ (by decide), other _ (by decide)⟩
    simp [isBlank, other ' ' (by decide), other '\t' (by decide)]

theorem string?_eq_none (quote : chars.head? ≠ some '"') (mark : chars.head? ≠ some '\'') :
    string? chars = none := by
  unfold string?
  split
  · exact absurd rfl quote
  · exact absurd rfl mark
  · unfold line?
    split
    · exact absurd rfl quote
    · exact absurd rfl mark
    · rfl

theorem Written.value? (written : Written v chars) (depth : Nat) :
    Toml.value? (depth + 1) (chars ++ '\n' :: rest) = some (v, '\n' :: rest) := by
  obtain ⟨d, after, shape, -, square, curly⟩ := written.exists_cons
  have plain : Toml.value? (depth + 1) (chars ++ '\n' :: rest) =
      ((string? (chars ++ '\n' :: rest)).map (fun read => (Toml.text read.1, read.2))
        <|> scalar? (chars ++ '\n' :: rest)) := by
    subst shape
    rw [Toml.value?]
    · exact fun _ bracket => square (List.cons.inj bracket).1
    · exact fun _ bracket => curly (List.cons.inj bracket).1
  rw [plain]
  rcases written.scalar with ⟨s, rfl, spelled⟩ | ⟨some_, all, read⟩
  · rw [spelled.string? (by simp)]
    rfl
  · have plain := all d (by simp [shape])
    have none_ : string? (chars ++ '\n' :: rest) = none := by
      refine string?_eq_none ?_ ?_
      · rw [shape]
        rintro ⟨⟩
        exact absurd plain (by decide)
      · rw [shape]
        rintro ⟨⟩
        exact absurd plain (by decide)
    rw [none_, scalar?_line all, read]
    rfl

/-! ### Lines -/

theorem blanks_space : blanks (' ' :: rest) = blanks rest := rfl

theorem blanks_visible (visible : isBlank c = false) : blanks (c :: rest) = c :: rest := by
  rw [blanks, List.dropWhile_cons_of_neg (by simp [visible])]

/-- A key that needs no quotes. -/
def isBare (name : String) : Bool := !name.toList.isEmpty && name.toList.all isBareChar

theorem isBare_iff : isBare name = true ↔ name.toList ≠ [] ∧ ∀ c ∈ name.toList, isBareChar c = true := by
  simp [isBare]

theorem ne_of_isBareChar {d : Char} (bare : isBareChar c = true) (other : isBareChar d = false) : c ≠ d := by
  rintro rfl
  rw [other] at bare
  cases bare

theorem key?_bare (rest : List Char) (bare : isBare name = true) (stop : isBareChar c = false)
    (next : (blanks (c :: rest)).head? ≠ some '.') :
    key? (name.toList ++ c :: rest) = some (⟨[], name⟩, blanks (c :: rest)) := by
  obtain ⟨some_, all⟩ := isBare_iff.1 bare
  obtain ⟨first, more, shape⟩ := List.exists_cons_of_ne_nil some_
  have here : isBareChar first = true := all first (by simp [shape])
  have front : blanks (name.toList ++ c :: rest) = name.toList ++ c :: rest := by
    rw [shape]
    refine blanks_visible ?_
    simp [isBlank, ne_of_isBareChar here (d := ' ') (by decide),
      ne_of_isBareChar here (d := '\t') (by decide)]
  have part : keyPart? (name.toList ++ c :: rest) = some (name, c :: rest) := by
    obtain ⟨taken, dropped⟩ := takeWhile_append_cons rest all stop
    have unquoted : line? (name.toList ++ c :: rest) = none := by
      rw [shape]
      unfold line?
      split
      next quote => exact absurd (List.cons.inj quote).1 (ne_of_isBareChar here (by decide))
      next mark => exact absurd (List.cons.inj mark).1 (ne_of_isBareChar here (by decide))
      next => rfl
    simp only [keyPart?, unquoted, taken, dropped, List.isEmpty_iff, some_, if_false, String.ofList_toList]
  rw [key?, keyAfter?, front, part]
  simp only [Option.bind_eq_bind, Option.bind_some]
  split
  next point => rw [point] at next; exact absurd rfl next
  next => rfl

/-- Statements on lines of their own, with empty lines between them. -/
inductive Document : List Statement → List Char → Prop where
  | nil : Document [] []
  | blank {statements : List Statement} {chars : List Char} (rest : Document statements chars) :
    Document statements ('\n' :: chars)
  | header {statements : List Statement} {chars : List Char} {name : String} (bare : isBare name = true)
    (rest : Document statements chars) :
    Document (.header ⟨[], name⟩ :: statements) ('[' :: (name.toList ++ ']' :: '\n' :: chars))
  | assignment {statements : List Statement} {chars written : List Char} {name : String} {v : Toml}
    (bare : isBare name = true) (value : Written v written) (rest : Document statements chars) :
    Document (.assignment ⟨[], name⟩ v :: statements)
      (name.toList ++ ' ' :: '=' :: ' ' :: (written ++ '\n' :: chars))

theorem exists_cons_of_isBare (bare : isBare name = true) :
    ∃ first more, name.toList = first :: more ∧ isBareChar first = true := by
  obtain ⟨some_, all⟩ := isBare_iff.1 bare
  obtain ⟨first, more, shape⟩ := List.exists_cons_of_ne_nil some_
  exact ⟨first, more, shape, all first (by simp [shape])⟩

theorem statement?_header (bare : isBare name = true) :
    statement? ('[' :: (name.toList ++ ']' :: rest)) = some (.header ⟨[], name⟩, rest) := by
  obtain ⟨first, more, shape, here⟩ := exists_cons_of_isBare bare
  have key := key?_bare rest bare (by decide : isBareChar ']' = false)
    (by rw [blanks_visible (by decide)]; simp)
  rw [statement?]
  · rw [key]
    rfl
  · rw [shape]
    exact fun _ doubled => ne_of_isBareChar here (by decide) (List.cons.inj doubled).1

theorem statement?_assignment {written : List Char} (rest : List Char) (bare : isBare name = true)
    (value : Written v written) :
    statement? (name.toList ++ ' ' :: '=' :: ' ' :: (written ++ '\n' :: rest)) =
      some (.assignment ⟨[], name⟩ v, '\n' :: rest) := by
  obtain ⟨first, more, shape, here⟩ := exists_cons_of_isBare bare
  have equals : ∀ chars, blanks (' ' :: '=' :: chars) = '=' :: chars := fun chars => by
    rw [blanks_space, blanks_visible (by decide)]
  have key := key?_bare ('=' :: ' ' :: (written ++ '\n' :: rest)) bare
    (by decide : isBareChar ' ' = false) (by rw [equals]; simp)
  have gap : blanks (' ' :: (written ++ '\n' :: rest)) = written ++ '\n' :: rest := by
    obtain ⟨d, after, rfl, visible, -⟩ := value.exists_cons
    rw [blanks_space, List.cons_append, blanks_visible visible]
  have plain : ∀ chars, statement? (name.toList ++ chars) =
      (assignment? (value? maxDepth) (name.toList ++ chars)).map
        fun read => (.assignment read.1.1 read.1.2, read.2) := by
    intro chars
    rw [shape, statement?]
    · exact fun _ bracket => ne_of_isBareChar here (by decide) (List.cons.inj bracket).1
    · exact fun _ bracket => ne_of_isBareChar here (by decide) (List.cons.inj bracket).1
  rw [plain, assignment?, key, equals]
  simp only [Option.bind_eq_bind, Option.bind_some, gap]
  rw [maxDepth, value.value? 79]
  rfl

theorem trivia_visible (visible : isBlank c = false) (stays : c ≠ '\n') (told : c ≠ '#') :
    trivia false (c :: rest) = some (c :: rest) := by
  simp [trivia, visible, stays, told]

theorem statements?_line {fuel : Nat} {read : List Statement} {statement : Statement}
    (visible : isBlank c = false) (stays : c ≠ '\n') (told : c ≠ '#')
    (here : statement? (c :: chars) = some (statement, '\n' :: rest)) :
    statements? (fuel + 1) read (c :: chars) = statements? fuel (statement :: read) rest := by
  rw [statements?, trivia_visible visible stays told]
  simp only [Option.bind_eq_bind, Option.bind_some, here]
  rfl

/-- Reading a document gives its statements. -/
theorem Document.statements? {statements : List Statement} (document : Document statements chars)
    {fuel : Nat} (enough : statements.length < fuel) (read : List Statement) :
    Toml.statements? fuel read chars = some (read.reverse ++ statements) := by
  induction document generalizing fuel read with
  | nil =>
    obtain ⟨fuel, rfl⟩ := Nat.exists_eq_add_one_of_ne_zero (Nat.ne_of_gt enough)
    simp [Toml.statements?, trivia]
  | blank _ ih =>
    obtain ⟨fuel, rfl⟩ := Nat.exists_eq_add_one_of_ne_zero (by omega : fuel ≠ 0)
    rw [← ih enough read]
    rfl
  | header bare _ ih =>
    obtain ⟨fuel, rfl⟩ := Nat.exists_eq_add_one_of_ne_zero (by omega : fuel ≠ 0)
    rw [statements?_line (by decide) (by decide) (by decide) (statement?_header bare),
      ih (Nat.lt_of_succ_lt_succ enough), List.reverse_cons, List.append_assoc]
    rfl
  | @assignment statements chars written name v bare value _ ih =>
    obtain ⟨fuel, rfl⟩ := Nat.exists_eq_add_one_of_ne_zero (by omega : fuel ≠ 0)
    obtain ⟨first, more, shape, here⟩ := exists_cons_of_isBare bare
    have statement := statement?_assignment chars bare value
    have visible : isBlank first = false := by
      simp [isBlank, ne_of_isBareChar here (d := ' ') (by decide),
        ne_of_isBareChar here (d := '\t') (by decide)]
    rw [shape, List.cons_append] at statement ⊢
    rw [statements?_line visible (ne_of_isBareChar here (by decide))
      (ne_of_isBareChar here (by decide)) statement, ih (Nat.lt_of_succ_lt_succ enough), List.reverse_cons,
      List.append_assoc]
    rfl

theorem Document.length_le {statements : List Statement} (document : Document statements chars) :
    statements.length ≤ chars.length := by
  induction document with
  | nil => exact Nat.le_refl 0
  | blank _ ih => exact Nat.le_succ_of_le ih
  | header | assignment => simp_all; omega

theorem Written.no_return (written : Written v chars) : '\r' ∉ chars := by
  rcases written.scalar with ⟨s, -, spelled⟩ | ⟨-, all, -⟩
  · exact spelled.no_return
  · exact fun member => absurd (all _ member) (by decide)

theorem Document.no_return {statements : List Statement} (document : Document statements chars) :
    '\r' ∉ chars := by
  have key : ∀ {name}, isBare name = true → '\r' ∉ name.toList :=
    fun bare member => absurd ((isBare_iff.1 bare).2 _ member) (by decide)
  induction document with
  | nil => exact List.not_mem_nil
  | blank _ ih => simp [ih]
  | header bare _ ih => simp [key bare, ih]
  | assignment bare value _ ih => simp [key bare, value.no_return, ih]

theorem singleEnds_eq_self (free : '\r' ∉ chars) : singleEnds chars = chars := by
  induction chars with
  | nil => rfl
  | cons c rest ih =>
    rw [List.mem_cons, not_or] at free
    rw [singleEnds, ih free.2]
    rintro _ rfl
    exact absurd rfl free.1

theorem Document.unmarked {statements : List Statement} (document : Document statements chars) :
    afterMark chars = chars := by
  have first : chars.head? ≠ some '\ufeff' := by
    cases document with
    | nil | blank | header => simp
    | assignment bare =>
      obtain ⟨first, more, shape, here⟩ := exists_cons_of_isBare bare
      rw [shape, List.cons_append, List.head?_cons, ne_eq, Option.some.injEq]
      exact ne_of_isBareChar here (by decide)
  unfold afterMark
  split
  · exact absurd rfl first
  · rfl

/-! ### Sections -/

def assignments (entries : Entries) : List Statement :=
  entries.map fun (key, v) => .assignment ⟨[], key⟩ v

/-- The statements of some sections. -/
def statements (sections : List (String × Entries)) : List Statement :=
  sections.flatMap fun (name, entries) => .header ⟨[], name⟩ :: assignments entries

def sectionTables (sections : List (String × Entries)) : Entries :=
  sections.map fun (name, entries) => (name, .table .header entries)

variable {entries before front : Entries} {key : String} {w : Toml}

theorem find?_eq_none (fresh : key ∉ entries.map Prod.fst) : entries.find? key = none := by
  rw [Entries.find?, List.lookup_eq_none_iff]
  intro entry member
  rw [bne_iff_ne]
  rintro rfl
  exact fresh (List.mem_map_of_mem member)

theorem find?_last (fresh : key ∉ front.map Prod.fst) :
    Entries.find? (front ++ [(key, v)]) key = some v := by
  have none_ : List.lookup key front = none := find?_eq_none fresh
  rw [Entries.find?, List.lookup_append, none_, Option.none_or, List.lookup_cons_self]

theorem replace_last (fresh : key ∉ front.map Prod.fst) :
    Entries.replace (front ++ [(key, v)]) key w = front ++ [(key, w)] := by
  have others : Entries.replace front key w = front := by
    refine (List.map_congr_left fun entry member => if_neg ?_).trans (List.map_id _)
    rintro rfl
    exact fresh (List.mem_map_of_mem member)
  rw [Entries.replace, List.map_append, ← Entries.replace, others]
  simp

theorem add_header {t : Tree} (fresh : name ∉ t.root.map Prod.fst) :
    t.add (.header ⟨[], name⟩) = some ⟨t.root ++ [(name, .table .header [])], [name]⟩ := by
  simp only [Tree.add, openTable, descend, find?_eq_none fresh]
  rfl

theorem add_assignment (other : name ∉ front.map Prod.fst) (fresh : key ∉ before.map Prod.fst) :
    Tree.add ⟨front ++ [(name, .table .header before)], [name]⟩ (.assignment ⟨[], key⟩ v) =
      some ⟨front ++ [(name, .table .header (before ++ [(key, v)]))], [name]⟩ := by
  have assigned : assign ⟨[], key⟩ v .header before = some (before ++ [(key, v)]) := by
    simp [assign, descend, insertNew, find?_eq_none fresh]
  simp only [Tree.add, descend, find?_last other]
  rw [if_neg (by decide), assigned, Option.map_some, replace_last other]
  rfl

theorem add_assignments (before : Entries) (other : name ∉ front.map Prod.fst)
    (distinct : ((before ++ entries).map Prod.fst).Nodup) :
    (assignments entries).foldlM Tree.add ⟨front ++ [(name, .table .header before)], [name]⟩ =
      some ⟨front ++ [(name, .table .header (before ++ entries))], [name]⟩ := by
  induction entries generalizing before with
  | nil => rw [List.append_nil]; rfl
  | cons entry rest ih =>
    obtain ⟨key, v⟩ := entry
    have fresh : key ∉ before.map Prod.fst := by
      rw [List.map_append, List.map_cons, List.nodup_append] at distinct
      exact fun member => distinct.2.2 _ member _ List.mem_cons_self rfl
    have added := ih (before ++ [(key, v)]) (by simpa using distinct)
    rw [List.append_assoc] at added
    rw [assignments, List.map_cons, List.foldlM_cons, add_assignment other fresh]
    exact added

theorem add_sections {sections : List (String × Entries)} (front : Entries) (current : List String)
    (distinct : (front.map Prod.fst ++ sections.map Prod.fst).Nodup)
    (keys : ∀ s ∈ sections, (s.2.map Prod.fst).Nodup) :
    ∃ last, (statements sections).foldlM Tree.add ⟨front, current⟩ =
      some ⟨front ++ sectionTables sections, last⟩ := by
  induction sections generalizing front current with
  | nil => exact ⟨current, by rw [sectionTables, List.map_nil, List.append_nil]; rfl⟩
  | cons first rest ih =>
    obtain ⟨name, entries⟩ := first
    obtain ⟨here, later⟩ := List.forall_mem_cons.1 keys
    have fresh : name ∉ front.map Prod.fst := by
      rw [List.map_cons, List.nodup_append] at distinct
      exact fun member => distinct.2.2 _ member _ List.mem_cons_self rfl
    obtain ⟨last, added⟩ := ih (front ++ [(name, .table .header entries)]) [name]
      (by simpa using distinct) later
    refine ⟨last, ?_⟩
    rw [statements, List.flatMap_cons, List.cons_append, List.foldlM_cons, add_header fresh,
      Option.bind_eq_bind, Option.bind_some, List.foldlM_append,
      add_assignments [] fresh here]
    rw [List.append_assoc] at added
    exact added

/-- A document of sections is read as their table. -/
theorem parse?_document {sections : List (String × Entries)} {text : String}
    (document : Document (statements sections) text.toList) (distinct : (sections.map Prod.fst).Nodup)
    (keys : ∀ s ∈ sections, (s.2.map Prod.fst).Nodup) :
    parse? text = some (.table .header (sectionTables sections)) := by
  have read := document.statements? (Nat.lt_succ_of_le document.length_le) []
  obtain ⟨last, added⟩ := add_sections [] [] distinct keys
  rw [parse?, document.unmarked, singleEnds_eq_self document.no_return]
  simp only [read, List.reverse_nil, List.nil_append, Option.bind_eq_bind, Option.bind_some, Tree.empty,
    added]

end AuditTrail.Toml
