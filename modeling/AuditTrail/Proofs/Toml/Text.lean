import AuditTrail.Toml.Text
import Mathlib.Data.List.Basic

/-! The spellings of a string in a TOML document: basic or literal, on one line or several. Each is
read as that string. -/
namespace AuditTrail.Toml

/-- A character between quotes: as it is, by a letter, or by its number. -/
inductive Piece : Char → List Char → Prop where
  | plain {c : Char} (allowed : isAllowed c = true) (quote : c ≠ '"') (escape : c ≠ '\\') : Piece c [c]
  | letter {c e : Char} (escaped : escaped? e = some c) : Piece c ['\\', e]
  | byte {c x y : Char} (value : numbered? [x, y] = some c) : Piece c ['\\', 'x', x, y]
  | short {c x y z w : Char} (value : numbered? [x, y, z, w] = some c) : Piece c ['\\', 'u', x, y, z, w]
  | long {c x y z w x' y' z' w' : Char} (value : numbered? [x, y, z, w, x', y', z', w'] = some c) :
    Piece c ['\\', 'U', x, y, z, w, x', y', z', w']

inductive Literal : Char → List Char → Prop where
  | mk {c : Char} (allowed : isAllowed c = true) (mark : c ≠ '\'') : Literal c [c]

/-- Within a string of several lines a line may end. -/
inductive Broken (Content : Char → List Char → Prop) : Char → List Char → Prop where
  | within {c : Char} {p : List Char} (content : Content c p) : Broken Content c p
  | lineEnd : Broken Content '\n' ['\n']

inductive Run (Content : Char → List Char → Prop) : List Char → List Char → Prop where
  | nil : Run Content [] []
  | cons {c : Char} {p s r : List Char} (content : Content c p) (rest : Run Content s r) :
    Run Content (c :: s) (p ++ r)

/-- Characters spelled in a string of several lines, with up to two of the closing marks in a row. -/
inductive Lines (mark : Char) (Content : Char → List Char → Prop) : List Char → List Char → Prop where
  | done {k : Nat} (few : k ≤ 2) : Lines mark Content (.replicate k mark) (.replicate k mark)
  | cons {k : Nat} {c : Char} {p s r : List Char} (few : k ≤ 2) (content : Broken Content c p)
    (rest : Lines mark Content s r) :
    Lines mark Content (.replicate k mark ++ c :: s) (.replicate k mark ++ (p ++ r))

/-- A line end after the opening marks is skipped. -/
inductive Opening : List Char → List Char → Prop where
  | same {r : List Char} (plain : r.head? ≠ some '\n') : Opening r r
  | lineEnd {r : List Char} : Opening r ('\n' :: r)

/-- The spellings of a string. -/
inductive Spelled (s : String) : List Char → Prop where
  | quoted {r : List Char} (run : Run Piece s.toList r) : Spelled s ('"' :: (r ++ ['"']))
  | literal {r : List Char} (run : Run Literal s.toList r) : Spelled s ('\'' :: (r ++ ['\'']))
  | quotedLines {r o : List Char} (lines : Lines '"' Piece s.toList r) (opening : Opening r o) :
    Spelled s ('"' :: '"' :: '"' :: (o ++ ['"', '"', '"']))
  | literalLines {r o : List Char} (lines : Lines '\'' Literal s.toList r) (opening : Opening r o) :
    Spelled s ('\'' :: '\'' :: '\'' :: (o ++ ['\'', '\'', '\'']))

variable {c : Char} {p s r rest read : List Char}

/-! ### Characters -/

theorem escape?_letter {e : Char} (escaped : escaped? e = some c) (rest : List Char) :
    escape? (e :: rest) = some (c, rest) := by
  unfold escaped? at escaped
  split at escaped <;> first | cases escaped; rfl | cases escaped

theorem Piece.plain_or_escape (piece : Piece c p) :
    (p = [c] ∧ isAllowed c = true ∧ c ≠ '"' ∧ c ≠ '\\') ∨
      ∃ after, p = '\\' :: after ∧ ∀ rest, escape? (after ++ rest) = some (c, rest) := by
  cases piece with
  | plain allowed quote escape => exact .inl ⟨rfl, allowed, quote, escape⟩
  | letter escaped => exact .inr ⟨_, rfl, escape?_letter escaped⟩
  | byte value => exact .inr ⟨_, rfl, fun rest => by simp [escape?, value]⟩
  | short value => exact .inr ⟨_, rfl, fun rest => by simp [escape?, value]⟩
  | long value => exact .inr ⟨_, rfl, fun rest => by simp [escape?, value]⟩

theorem quotedRest_piece (piece : Piece c p) :
    quotedRest read (p ++ rest) = quotedRest (c :: read) rest := by
  rcases piece.plain_or_escape with ⟨rfl, allowed, quote, escape⟩ | ⟨after, rfl, escaped⟩
  · rw [List.singleton_append, quotedRest, if_pos allowed]
    · rintro rfl
      exact quote rfl
    · rintro rfl
      exact escape rfl
  · rw [List.cons_append, quotedRest]
    split
    next found =>
      rw [escaped] at found
      cases found
      rfl
    next found =>
      rw [escaped] at found
      cases found

theorem Piece.exists_cons (piece : Piece c p) : ∃ d after, p = d :: after ∧ d ≠ '"' := by
  rcases piece.plain_or_escape with ⟨rfl, -, quote, -⟩ | ⟨after, rfl, -⟩
  · exact ⟨c, [], rfl, quote⟩
  · exact ⟨'\\', after, rfl, by decide⟩

theorem Literal.exists_cons (literal : Literal c p) : ∃ d after, p = d :: after ∧ d ≠ '\'' := by
  obtain ⟨-, mark⟩ := literal
  exact ⟨c, [], rfl, mark⟩

/-! ### One line -/

theorem quotedRest_run (run : Run Piece s r) :
    quotedRest read (r ++ '"' :: rest) = some (.ofList (read.reverse ++ s), rest) := by
  induction run generalizing read with
  | nil => rw [List.nil_append, quotedRest, List.append_nil]
  | cons piece _ ih =>
    rw [List.append_assoc, quotedRest_piece piece, ih, List.reverse_cons, List.append_assoc]
    rfl

theorem literalRest_run (run : Run Literal s r) :
    literalRest read (r ++ '\'' :: rest) = some (.ofList (read.reverse ++ s), rest) := by
  induction run generalizing read with
  | nil => rw [List.nil_append, literalRest, List.append_nil]
  | cons literal _ ih =>
    obtain ⟨allowed, mark⟩ := literal
    rw [List.append_assoc, List.singleton_append, literalRest, if_pos allowed, ih, List.reverse_cons,
      List.append_assoc]
    · rfl
    · rintro rfl
      exact mark rfl

theorem Run.not_marks {mark : Char} {Content : Char → List Char → Prop}
    (unlike : ∀ {c p}, Content c p → ∃ d after, p = d :: after ∧ d ≠ mark) (run : Run Content s r)
    (past : rest.head? ≠ some mark) (tail : List Char) : r ++ mark :: rest ≠ mark :: mark :: tail := by
  cases run with
  | nil =>
    intro same
    exact past (by rw [(List.cons.inj same).2]; rfl)
  | cons content _ =>
    obtain ⟨d, after, rfl, other⟩ := unlike content
    intro same
    exact other (List.cons.inj same).1

/-! ### Several lines -/

theorem up_to_two {k : Nat} (few : k ≤ 2) : k = 0 ∨ k = 1 ∨ k = 2 := by omega

/-- A reader of strings of several lines. It reads their characters one by one and ends at the last three
marks. -/
structure ReadsLines (mark : Char) (Content : Char → List Char → Prop)
    (reads : List Char → List Char → Option (String × List Char)) : Prop where
  content : ∀ {c p} read rest, Broken Content c p → reads read (p ++ rest) = reads (c :: read) rest
  lone : ∀ read rest, rest.take 2 ≠ [mark, mark] → reads read (mark :: rest) = reads (mark :: read) rest
  ends : ∀ {k} read rest, k ≤ 2 → rest.head? ≠ some mark →
    reads read (.replicate k mark ++ mark :: mark :: mark :: rest) =
      some (.ofList (read.reverse ++ .replicate k mark), rest)
  unlike : ∀ {c p}, Broken Content c p → ∃ d after, p = d :: after ∧ d ≠ mark

theorem ReadsLines.run {mark : Char} {Content : Char → List Char → Prop}
    {reads : List Char → List Char → Option (String × List Char)} (reader : ReadsLines mark Content reads)
    (read : List Char) (lines : Lines mark Content s r) (past : rest.head? ≠ some mark) :
    reads read (r ++ mark :: mark :: mark :: rest) = some (.ofList (read.reverse ++ s), rest) := by
  induction lines generalizing read with
  | done few => exact reader.ends read rest few past
  | @cons k c p s r few content _ ih =>
    obtain ⟨d, after, shape, other⟩ := reader.unlike content
    have marks : reads read (.replicate k mark ++ (p ++ r) ++ mark :: mark :: mark :: rest) =
        reads (.replicate k mark ++ read) (p ++ (r ++ mark :: mark :: mark :: rest)) := by
      subst shape
      rcases up_to_two few with rfl | rfl | rfl
      · simp
      · exact (reader.lone read _ (by simp [other])).trans (by simp)
      · refine (reader.lone read _ (by simp [other])).trans ?_
        exact (reader.lone _ _ (by simp [other])).trans (by simp)
    rw [marks, reader.content _ _ content, ih]
    simp

theorem readsLines_quoted : ReadsLines '"' Piece (quotedLines false) where
  content := by
    intro c p read rest content
    cases content with
    | lineEnd =>
      rw [List.singleton_append, quotedLines]
      · rfl
      all_goals simp
    | within piece =>
      rcases piece.plain_or_escape with ⟨rfl, allowed, quote, escape⟩ | ⟨after, rfl, escaped⟩
      · rw [List.singleton_append, quotedLines]
        · simp [allowed]
        all_goals simp_all
      · rw [List.cons_append, quotedLines]
        split
        next found =>
          rw [escaped] at found
          cases found
          rfl
        next found =>
          rw [escaped] at found
          cases found
  lone := by
    intro read rest few
    rw [quotedLines]
    · rfl
    · exact fun _ _ same => few (by rw [same]; rfl)
    · exact fun _ _ same => few (by rw [same]; rfl)
    · exact fun _ _ same => few (by rw [same]; rfl)
    · simp
  ends := by
    intro k read rest few past
    rcases up_to_two few with rfl | rfl | rfl
    · rw [List.replicate_zero, List.nil_append, quotedLines, List.append_nil]
      all_goals rintro _ rfl; exact past rfl
    · rw [List.replicate_one, List.singleton_append, quotedLines, List.reverse_cons]
      rintro _ rfl; exact past rfl
    · simp [quotedLines]
  unlike := by
    intro c p content
    cases content with
    | lineEnd => exact ⟨'\n', [], rfl, by decide⟩
    | within piece => exact piece.exists_cons

theorem readsLines_literal : ReadsLines '\'' Literal literalLines where
  content := by
    intro c p read rest content
    cases content with
    | lineEnd =>
      rw [List.singleton_append, literalLines]
      · rfl
      all_goals simp
    | within literal =>
      obtain ⟨allowed, mark⟩ := literal
      rw [List.singleton_append, literalLines]
      · simp [allowed]
      all_goals simp_all
  lone := by
    intro read rest few
    rw [literalLines]
    · rfl
    all_goals exact fun _ _ same => few (by rw [same]; rfl)
  ends := by
    intro k read rest few past
    rcases up_to_two few with rfl | rfl | rfl
    · rw [List.replicate_zero, List.nil_append, literalLines, List.append_nil]
      all_goals rintro _ rfl; exact past rfl
    · rw [List.replicate_one, List.singleton_append, literalLines, List.reverse_cons]
      rintro _ rfl; exact past rfl
    · simp [literalLines]
  unlike := by
    intro c p content
    cases content with
    | lineEnd => exact ⟨'\n', [], rfl, by decide⟩
    | within literal => exact literal.exists_cons

theorem Opening.afterOpening {r o : List Char} (opening : Opening r o) {mark : Char} (breaks : mark ≠ '\n') :
    Toml.afterOpening (o ++ mark :: rest) = r ++ mark :: rest := by
  cases opening with
  | lineEnd => rfl
  | same plain =>
    unfold Toml.afterOpening
    split
    next begins =>
      cases r with
      | nil => exact absurd (List.cons.inj begins).1 breaks
      | cons d r => exact absurd (congrArg some (List.cons.inj begins).1) plain
    next => rfl

/-! ### Strings -/

/-- A spelling is read as its string, whatever follows it. -/
theorem Spelled.string? {text : String} {chars : List Char} (spelled : Spelled text chars)
    (past : rest.head? ≠ some '"' ∧ rest.head? ≠ some '\'') :
    Toml.string? (chars ++ rest) = some (text, rest) := by
  cases spelled with
  | @quoted r run =>
    have single : Toml.string? ('"' :: (r ++ '"' :: rest)) = quotedRest [] (r ++ '"' :: rest) := by
      unfold Toml.string?
      split
      next triple => exact absurd (List.cons.inj triple).2 (run.not_marks Piece.exists_cons past.1 _)
      next triple => simp at triple
      next => rfl
    simp only [List.cons_append, List.append_assoc, List.nil_append]
    rw [single, quotedRest_run run]
    simp
  | @literal r run =>
    have single : Toml.string? ('\'' :: (r ++ '\'' :: rest)) = literalRest [] (r ++ '\'' :: rest) := by
      unfold Toml.string?
      split
      next triple => simp at triple
      next triple => exact absurd (List.cons.inj triple).2 (run.not_marks Literal.exists_cons past.2 _)
      next => rfl
    simp only [List.cons_append, List.append_assoc, List.nil_append]
    rw [single, literalRest_run run]
    simp
  | quotedLines lines opening =>
    have read := readsLines_quoted.run [] lines past.1
    simp only [List.cons_append, List.append_assoc, List.nil_append, Toml.string?]
    rw [opening.afterOpening (by decide), read]
    simp
  | literalLines lines opening =>
    have read := readsLines_literal.run [] lines past.2
    simp only [List.cons_append, List.append_assoc, List.nil_append, Toml.string?]
    rw [opening.afterOpening (by decide), read]
    simp

/-! A carriage return in a string is written as an escape. -/

theorem ne_return_of_isAllowed (allowed : isAllowed c = true) : c ≠ '\r' := by
  rintro rfl
  exact absurd allowed (by decide)

theorem numbered?_eq_none {digits : List Char} (member : '\r' ∈ digits) : numbered? digits = none := by
  obtain ⟨front, back, rfl⟩ := List.append_of_mem member
  have none_ : hexDigit? '\r' = none := by decide
  simp [numbered?, List.foldlM_append, none_]

theorem Piece.no_return (piece : Piece c p) : '\r' ∉ p := by
  have digits : ∀ (front : List Char) {digits : List Char}, '\r' ∉ front → numbered? digits = some c →
      '\r' ∉ front ++ digits := by
    intro front digits first value
    rw [List.mem_append, not_or]
    refine ⟨first, fun member => ?_⟩
    rw [numbered?_eq_none member] at value
    cases value
  cases piece with
  | plain allowed => simpa using (ne_return_of_isAllowed allowed).symm
  | @letter e escaped =>
    have other : e ≠ '\r' := by
      rintro rfl
      exact absurd escaped (by simp [escaped?])
    simpa using other.symm
  | byte value => exact digits ['\\', 'x'] (by decide) value
  | short value => exact digits ['\\', 'u'] (by decide) value
  | long value => exact digits ['\\', 'U'] (by decide) value

theorem Literal.no_return (literal : Literal c p) : '\r' ∉ p := by
  obtain ⟨allowed, -⟩ := literal
  simpa using (ne_return_of_isAllowed allowed).symm

theorem Run.no_return {Content : Char → List Char → Prop} (run : Run Content s r)
    (free : ∀ {c p}, Content c p → '\r' ∉ p) : '\r' ∉ r := by
  induction run with
  | nil => exact List.not_mem_nil
  | cons content _ ih => simp [free content, ih]

theorem Broken.no_return {Content : Char → List Char → Prop} (content : Broken Content c p)
    (free : ∀ {c p}, Content c p → '\r' ∉ p) : '\r' ∉ p := by
  cases content with
  | within content => exact free content
  | lineEnd => decide

theorem Lines.no_return {mark : Char} {Content : Char → List Char → Prop} (lines : Lines mark Content s r)
    (other : mark ≠ '\r') (free : ∀ {c p}, Content c p → '\r' ∉ p) : '\r' ∉ r := by
  have marks : ∀ k, '\r' ∉ List.replicate k mark := fun k member =>
    other (List.eq_of_mem_replicate member).symm
  induction lines with
  | done => exact marks _
  | cons _ content _ ih => simp [marks, content.no_return free, ih]

theorem Spelled.no_return {text : String} {chars : List Char} (spelled : Spelled text chars) :
    '\r' ∉ chars := by
  have opened : ∀ {r o : List Char}, Opening r o → '\r' ∉ r → '\r' ∉ o := by
    rintro r o (_ | _) free
    · exact free
    · simpa using free
  cases spelled with
  | quoted run => simp [run.no_return Piece.no_return]
  | literal run => simp [run.no_return Literal.no_return]
  | quotedLines lines opening =>
    simp [opened opening (lines.no_return (by decide) Piece.no_return)]
  | literalLines lines opening =>
    simp [opened opening (lines.no_return (by decide) Literal.no_return)]

theorem piece_quoteChar (c : Char) : Piece c (quoteChar c) := by
  have numbers : ∀ n < 128, isAllowed (Char.ofNat n) = false →
      numbered? [Nat.digitChar (n / 16), Nat.digitChar (n % 16)] = some (Char.ofNat n) := by decide +kernel
  unfold quoteChar
  split
  · exact .letter rfl
  · exact .letter rfl
  · exact .letter rfl
  · exact .letter rfl
  · exact .letter rfl
  next quote escape _ _ _ =>
    split
    next allowed => exact .plain allowed quote escape
    next control =>
      have small : c.toNat < 128 := by
        simp only [isAllowed, Bool.or_eq_true, Bool.and_eq_true, decide_eq_true_eq, not_or, not_and,
          ne_eq, not_not, Char.le_def, UInt32.le_iff_toNat_le] at control
        by_cases visible : ' '.val.toNat ≤ c.val.toNat
        · rw [control.2 visible]
          decide
        · exact Nat.lt_trans (Nat.not_le.1 visible) (by decide)
      have value := numbers _ small (by rw [Char.ofNat_toNat]; simpa using control)
      rw [Char.ofNat_toNat] at value
      exact .byte value

theorem spelled_quote (text : String) : Spelled text (quote text).toList := by
  have run : ∀ chars : List Char, Run Piece chars (chars.flatMap quoteChar) := by
    intro chars
    induction chars with
    | nil => exact .nil
    | cons c rest ih => exact .cons (piece_quoteChar c) ih
  rw [quote, String.toList_ofList]
  exact .quoted (run text.toList)

/-- A way to spell all strings. -/
structure Quoting where
  quote : String → String
  spelled : ∀ text, Spelled text (quote text).toList

def Quoting.escaped : Quoting := ⟨Toml.quote, spelled_quote⟩

end AuditTrail.Toml
