import AuditTrail.Proofs.Directives

/-! Directives as text. Every line of a set is trimmed, nonempty and free of line ends, so parsing
the text of a set gives the set back, and texts can be added one by one or joined. -/
namespace AuditTrail

namespace Unicode

theorem trimChars_concat {c : Char} (blank : isBlank c = true) (chars : List Char) :
    trimChars (chars ++ [c]) = trimChars chars := by
  by_cases all : ∀ d ∈ chars, isBlank d = true
  · have none_ : chars.dropWhile isBlank = [] := List.dropWhile_eq_nil_iff.2 all
    have last : [c].dropWhile isBlank = [] := by rw [List.dropWhile_cons_of_pos blank]; rfl
    simp only [trimChars, List.dropWhile_append, none_, last, List.isEmpty_nil, if_true]
  · have present : (chars.dropWhile isBlank).isEmpty = false := by
      rw [List.isEmpty_eq_false_iff]
      exact mt List.dropWhile_eq_nil_iff.1 all
    have kept : (chars ++ [c]).dropWhile isBlank = chars.dropWhile isBlank ++ [c] := by
      rw [List.dropWhile_append, present]
      rfl
    rw [trimChars, kept, List.reverse_append, List.reverse_singleton, List.singleton_append,
      List.dropWhile_cons_of_pos blank, trimChars]

end Unicode

namespace Directives

open Unicode (trimChars isBlank)

variable {d : Directives} {text line : String}

/-! ### Lines -/

def withoutReturn (line : List Char) : List Char :=
  if line.getLast? = some '\r' then line.dropLast else line

/-- The lines of a text. A line ends in a newline, with an optional carriage return before it, and the last
one may be without. -/
def cut (chars : List Char) : List (List Char) :=
  let pieces := chars.splitOn '\n'
  pieces.dropLast.map withoutReturn ++ [pieces.getLastD []].filter (!·.isEmpty)

/-- The trimmed lines that are neither empty nor comments. -/
def counted (text : String) : List String :=
  (((cut text.toList).map trimChars).filter counts).map String.ofList

theorem trimChars_withoutReturn (line : List Char) : trimChars (withoutReturn line) = trimChars line := by
  unfold withoutReturn
  split
  next ends =>
    obtain ⟨front, rfl⟩ := List.getLast?_eq_some_iff.1 ends
    rw [List.dropLast_concat, Unicode.trimChars_concat (by decide)]
  · rfl

theorem linesOf_eq (text : String) : linesOf text = counted text := by
  obtain ⟨front, last, split⟩ : ∃ front last, text.toList.splitOn '\n' = front ++ [last] :=
    ⟨_, _, (List.dropLast_append_getLast (List.splitOn_ne_nil '\n' text.toList)).symm⟩
  have ended : (([last].filter (!·.isEmpty)).map trimChars).filter counts =
      ([last].map trimChars).filter counts := by
    cases last <;> rfl
  have fronts : (front.map withoutReturn).map trimChars = front.map trimChars := by
    rw [List.map_map]
    exact List.map_congr_left fun line _ => trimChars_withoutReturn line
  simp only [linesOf, counted, cut, split, List.dropLast_concat, List.getLastD_concat, List.map_append,
    List.filter_append, fronts, ended]

theorem counts_of_mem (member : line ∈ linesOf text) : counts line.toList = true := by
  simp only [linesOf, List.mem_map, List.mem_filter] at member
  obtain ⟨chars, ⟨-, counted⟩, rfl⟩ := member
  rwa [String.toList_ofList]

theorem linesOf_of_mem (member : line ∈ linesOf text) : linesOf line = [line] :=
  linesOf_single (single_of_mem member) (counts_of_mem member)

/-! ### Texts -/

theorem text_eq (d : Directives) : d.text = String.join (d.lines.map (· ++ "\n")) := by
  have ended : ∀ (line : String) (rest : List String),
      String.intercalate "\n" (line :: rest) ++ "\n" = String.join ((line :: rest).map (· ++ "\n")) := by
    intro line rest
    induction rest generalizing line with
    | nil => rw [String.intercalate_singleton]; simp
    | cons next rest ih =>
      rw [String.intercalate_cons_cons, String.append_assoc, ih]
      exact String.join_cons.symm
  rw [Directives.text]
  cases d.lines with
  | nil => rfl
  | cons line rest => exact ended line rest

theorem text_append (front back : List String) :
    (⟨front ++ back⟩ : Directives).text = (⟨front⟩ : Directives).text ++ (⟨back⟩ : Directives).text := by
  simp only [text_eq, List.map_append, String.join_append]

theorem lines_foldl (texts : List String) (d : Directives) :
    (texts.foldl add d).lines = d.lines ++ texts.flatMap linesOf := by
  induction texts generalizing d with
  | nil => exact (List.append_nil _).symm
  | cons text rest ih => rw [List.foldl_cons, ih, add, List.flatMap_cons, List.append_assoc]

theorem linesOf_text (whole : ∀ line ∈ d.lines, linesOf line = [line]) : linesOf d.text = d.lines := by
  rw [text_eq, linesOf_join, List.flatMap_congr whole, List.flatMap_singleton']

end Directives

/-- The directives made of some texts are the lines of these texts. They are read back from their own text,
two texts may be added as one with a newline between them, and new directives are appended. -/
theorem directives_as_text (texts : List String) (a b : String) :
    let d := texts.foldl Directives.add .empty
    d.lines = texts.flatMap Directives.counted ∧
      Directives.empty.add d.text = d ∧
      (d.add a).add b = d.add (a ++ "\n" ++ b) ∧
      (d.add b).text = d.text ++ (Directives.empty.add b).text := by
  intro d
  have lines : d.lines = texts.flatMap Directives.linesOf :=
    (Directives.lines_foldl texts .empty).trans (List.nil_append _)
  have whole : ∀ line ∈ d.lines, Directives.linesOf line = [line] := by
    intro line member
    rw [lines, List.mem_flatMap] at member
    obtain ⟨text, -, member⟩ := member
    exact Directives.linesOf_of_mem member
  refine ⟨?_, ?_, ?_, ?_⟩
  · rw [lines]
    exact List.flatMap_congr fun text _ => Directives.linesOf_eq text
  · rw [Directives.add, Directives.linesOf_text whole]
    rfl
  · simp only [Directives.add, Directives.linesOf_append, List.append_assoc]
  · exact Directives.text_append d.lines _

example : Directives.empty.add "A 1\r\n\u2003B 2\rC \r\n# D\n\nE" =
    ⟨["A 1", "B 2\rC", "E"]⟩ := by decide

end AuditTrail
