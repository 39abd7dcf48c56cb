import AuditTrail.Duration.Text
import AuditTrail.Proofs.Text

/-! Spans of time come back from their text, which is a sequence of counts with units. -/
namespace AuditTrail.Duration
open Unicode (isBlank Tight)

theorem not_isDigit_of_isUnitChar {c : Char} (letter : isUnitChar c = true) :
    c.isDigit = false ∧ isBlank c = false := by
  have each : ∀ n < 256, isUnitChar (Char.ofNat n) = true →
      (Char.ofNat n).isDigit = false ∧ isBlank (Char.ofNat n) = false := by decide +kernel
  have small : c.toNat < 256 := by
    simp only [isUnitChar, Bool.or_eq_true, Bool.and_eq_true, decide_eq_true_eq, beq_iff_eq,
      Char.le_def, UInt32.le_iff_toNat_le] at letter
    rcases letter with (⟨-, most⟩ | ⟨-, most⟩) | rfl
    · exact Nat.lt_of_le_of_lt most (by decide)
    · exact Nat.lt_of_le_of_lt most (by decide)
    · decide
  rw [← Char.ofNat_toNat c] at letter ⊢
  exact each _ small letter

theorem not_isBlank_of_isDigit {c : Char} (digit : c.isDigit = true) : isBlank c = false := by
  have each : ∀ n < 58, (Char.ofNat n).isDigit = true → isBlank (Char.ofNat n) = false := by decide
  have small : c.toNat < 58 := by
    simp only [Char.isDigit, Bool.and_eq_true, decide_eq_true_eq, UInt32.le_iff_toNat_le] at digit
    exact Nat.lt_of_le_of_lt digit.2 (by decide)
  rw [← Char.ofNat_toNat c] at digit ⊢
  exact each _ small digit

theorem Unit.letters_of_ofName? {name : String} {u : Unit} (named : ofName? name = some u) :
    name.toList ≠ [] ∧ ∀ c ∈ name.toList, isUnitChar c = true := by
  have spelled : name.toList ≠ [] ∧ name.toList.all isUnitChar = true := by
    unfold ofName? at named
    split at named <;> first | decide | cases named
  exact ⟨spelled.1, List.all_eq_true.1 spelled.2⟩

/-- The time on a clock in nanoseconds. -/
def Clock.worth (c : Clock) : Nat := c.secs * 1000000000 + c.nanos

/-- A count of units, with the name that is written for the unit. -/
structure Part where
  count : Nat
  name : String
  unit : Unit

namespace Part

def worth (p : Part) : Nat := p.count * p.unit.nanos

def text (p : Part) : String := toString p.count ++ p.name

def total (parts : List Part) : Nat := parts.foldr (fun p sum => p.worth + sum) 0

theorem total_nil : total [] = 0 := rfl

theorem total_cons {p : Part} {rest : List Part} : total (p :: rest) = p.worth + total rest := by
  rw [total, List.foldr_cons, total]

/-- The name is that of the unit, and a count below a second is less than the next larger unit. -/
structure Sound (p : Part) : Prop where
  named : Unit.ofName? p.name = some p.unit
  small : p.unit.nanos < 1000000000 → p.count < 1000

end Part

/-! ### Reading -/

variable {c : Clock} {sum : Option Clock} {p : Part} {parts : List Part}

theorem fits_eq {n : Nat} (below : n < word) : fits n = some n := if_pos below

theorem add?_eq {s ns : Nat} (nanos : c.nanos + ns < word)
    (secs : c.secs + s + (c.nanos + ns) / 1000000000 < word) : c.add? s ns =
      some ⟨c.secs + s + (c.nanos + ns) / 1000000000, (c.nanos + ns) % 1000000000⟩ := by
  unfold Clock.add?
  rw [fits_eq nanos, Option.bind_eq_bind, Option.bind_some, fits_eq secs]
  rfl

theorem add?_worth {s ns : Nat} (nanos : c.nanos < 1000000000) (part : ns < 1000000000)
    (bounded : c.worth + (s * 1000000000 + ns) < limit) :
    ∃ d, c.add? s ns = some d ∧ d.nanos < 1000000000 ∧ d.worth = c.worth + (s * 1000000000 + ns) := by
  simp only [Clock.worth, limit] at bounded ⊢
  refine ⟨_, add?_eq ?_ ?_, Nat.mod_lt _ (by decide), ?_⟩
  · change _ < 18446744073709551616
    omega
  · change _ < 18446744073709551616
    omega
  · dsimp only
    omega

/-- Units below a second are added as nanoseconds, the others as seconds. -/
theorem wholePart_eq (u : Unit) (n : Nat) :
    (u.nanos * 1000 ≤ 1000000000 ∧ wholePart u n = (fits (n * u.nanos)).map fun ns => (0, ns)) ∨
      (u.seconds * 1000000000 = u.nanos ∧ wholePart u n = (fits (n * u.seconds)).map fun s => (s, 0)) := by
  cases u with
  | nanosecond | microsecond | millisecond => exact .inl ⟨by decide, rfl⟩
  | second | minute | hour | day | week | month | year => exact .inr ⟨by decide, rfl⟩

theorem exists_wholePart (sound : p.Sound) (bounded : p.worth < limit) : ∃ s ns,
    wholePart p.unit p.count = some (s, ns) ∧ ns < 1000000000 ∧ s * 1000000000 + ns = p.worth := by
  simp only [Part.worth, limit] at bounded ⊢
  rcases wholePart_eq p.unit p.count with ⟨short, whole⟩ | ⟨long, whole⟩
  · have few : p.count * p.unit.nanos ≤ 999 * p.unit.nanos :=
      Nat.mul_le_mul_right _ (Nat.le_of_lt_succ (sound.small (by omega)))
    have below : p.count * p.unit.nanos < word := Nat.lt_of_le_of_lt few (by
      change _ < 18446744073709551616
      omega)
    exact ⟨0, p.count * p.unit.nanos, by rw [whole, fits_eq below]; rfl, by omega, by omega⟩
  · rw [← long, ← Nat.mul_assoc] at bounded ⊢
    have below : p.count * p.unit.seconds < word := by
      change _ < 18446744073709551616
      omega
    exact ⟨p.count * p.unit.seconds, 0, by rw [whole, fits_eq below]; rfl, by decide, Nat.add_zero _⟩

theorem addItem?_worth (sound : p.Sound) (nanos : c.nanos < 1000000000)
    (bounded : c.worth + p.worth < limit) :
    ∃ d, c.addItem? p.count none p.name.toList = some d ∧ d.nanos < 1000000000 ∧
      d.worth = c.worth + p.worth := by
  obtain ⟨s, ns, whole, part, worth⟩ := exists_wholePart sound (by omega)
  obtain ⟨d, added, below, total⟩ := add?_worth (s := s) nanos part (by rwa [worth])
  refine ⟨d, ?_, below, by rw [total, worth]⟩
  simp only [Clock.addItem?, String.ofList_toList, sound.named, whole, added, Option.bind_eq_bind,
    Option.bind_some]

/-! ### Characters -/

theorem le_ofDigitChars {digits : List Char} {n : Nat} : n ≤ Nat.ofDigitChars 10 digits n := by
  induction digits generalizing n with
  | nil => exact Nat.le_refl n
  | cons c rest ih =>
    rw [Nat.ofDigitChars_cons]
    exact Nat.le_trans (by omega) ih

theorem feed_digits {digits : List Char} {n : Nat} (all : ∀ c ∈ digits, c.isDigit = true)
    (below : Nat.ofDigitChars 10 digits n < word) :
    digits.foldlM Reader.feed ⟨sum, .whole n⟩ = some ⟨sum, .whole (Nat.ofDigitChars 10 digits n)⟩ := by
  induction digits generalizing n with
  | nil => rfl
  | cons c rest ih =>
    obtain ⟨digit, later⟩ := List.forall_mem_cons.1 all
    rw [Nat.ofDigitChars_cons] at below ⊢
    have same : n * 10 + Duration.digit c = 10 * n + (c.toNat - '0'.toNat) := by
      rw [Nat.mul_comm]
      rfl
    have fed : Reader.feed ⟨sum, .whole n⟩ c =
        some ⟨sum, .whole (10 * n + (c.toNat - '0'.toNat))⟩ := by
      simp only [Reader.feed, digit, if_true, same]
      rw [fits_eq (Nat.lt_of_le_of_lt le_ofDigitChars below)]
      rfl
    rw [List.foldlM_cons, fed]
    exact ih later below

theorem feed_letters {letters name : List Char} {n : Nat} {f : Option Fraction}
    (all : ∀ c ∈ letters, isUnitChar c = true) :
    letters.foldlM Reader.feed ⟨sum, .unit n f name⟩ = some ⟨sum, .unit n f (letters.reverse ++ name)⟩ := by
  induction letters generalizing name with
  | nil => rfl
  | cons c rest ih =>
    obtain ⟨letter, later⟩ := List.forall_mem_cons.1 all
    obtain ⟨digit, blank⟩ := not_isDigit_of_isUnitChar letter
    have fed : Reader.feed ⟨sum, .unit n f name⟩ c = some ⟨sum, .unit n f (c :: name)⟩ := by
      simp only [Reader.feed, digit, blank, letter, Bool.false_eq_true, if_false, if_true]
    rw [List.foldlM_cons, fed, List.reverse_cons, List.append_assoc]
    exact ih later

/-! ### Rows of parts -/

/-- The text of some parts, separated by blanks. -/
def row (parts : List Part) : String := String.intercalate " " (parts.map Part.text)

theorem row_cons_cons {q : Part} {rest : List Part} :
    (row (p :: q :: rest)).toList = p.text.toList ++ ' ' :: (row (q :: rest)).toList := by
  simp only [row, List.map_cons, String.intercalate_cons_cons, String.toList_append, List.append_assoc]
  rfl

theorem text_ends (sound : p.Sound) : ∃ first middle last, p.text.toList = first :: middle ++ [last] ∧
    first.isDigit = true ∧ isUnitChar last = true := by
  obtain ⟨present, letters⟩ := Unit.letters_of_ofName? sound.named
  obtain ⟨first, digits, whole⟩ :=
    List.exists_cons_of_ne_nil (Nat.toDigits_ne_nil (n := p.count) (b := 10))
  obtain ⟨front, last, name⟩ := (List.eq_nil_or_concat' p.name.toList).resolve_left present
  refine ⟨first, digits ++ front, last, ?_, ?_, letters last (by simp [name])⟩
  · rw [Part.text, String.toList_append, Nat.toString_eq_repr, Nat.toList_repr, whole, name]
    simp
  · exact Nat.isDigit_of_mem_toDigits (b := 10) (n := p.count) (by decide) (by decide) (by simp [whole])

theorem row_ends (some_ : parts ≠ []) (sound : ∀ p ∈ parts, p.Sound) : ∃ first middle last,
    (row parts).toList = first :: middle ++ [last] ∧ first.isDigit = true ∧ isUnitChar last = true := by
  induction parts with
  | nil => exact absurd rfl some_
  | cons p rest ih =>
    obtain ⟨here, later⟩ := List.forall_mem_cons.1 sound
    obtain ⟨first, middle, last, text, digit, letter⟩ := text_ends here
    cases rest with
    | nil => exact ⟨first, middle, last, text, digit, letter⟩
    | cons q rest =>
      obtain ⟨first', middle', last', text', -, letter'⟩ := ih nofun later
      refine ⟨first, middle ++ last :: ' ' :: first' :: middle', last', ?_, digit, letter'⟩
      rw [row_cons_cons, text, text']
      simp

theorem trimChars_row (some_ : parts ≠ []) (sound : ∀ p ∈ parts, p.Sound) :
    Unicode.trimChars (row parts).toList = (row parts).toList ∧ (row parts).toList ≠ ['0'] := by
  obtain ⟨first, middle, last, text, digit, letter⟩ := row_ends some_ sound
  have blank := (not_isDigit_of_isUnitChar letter).2
  rw [text]
  refine ⟨Unicode.trimChars_eq_self (.cons_append (not_isBlank_of_isDigit digit) ⟨?_, ?_⟩ nofun), by simp⟩
  · rintro c ⟨⟩
    exact blank
  · rintro c ⟨⟩
    exact blank

theorem feed_text (sound : p.Sound) (below : p.count < word) :
    p.text.toList.foldlM Reader.feed ⟨sum, .gap⟩ =
      some ⟨some (sum.getD ⟨0, 0⟩), .unit p.count none p.name.toList.reverse⟩ := by
  obtain ⟨present, letters⟩ := Unit.letters_of_ofName? sound.named
  obtain ⟨first, digits, whole⟩ :=
    List.exists_cons_of_ne_nil (Nat.toDigits_ne_nil (n := p.count) (b := 10))
  obtain ⟨letter, name, spelled⟩ := List.exists_cons_of_ne_nil present
  have all : ∀ c ∈ first :: digits, c.isDigit = true := by
    rw [← whole]
    exact fun c member => Nat.isDigit_of_mem_toDigits (by decide) (by decide) member
  have count : Nat.ofDigitChars 10 digits (digit first) = p.count := by
    have read := Nat.ofDigitChars_ten_toDigits (n := p.count)
    rw [whole, Nat.ofDigitChars_cons, Nat.mul_zero, Nat.zero_add] at read
    exact read
  have begun : Reader.feed ⟨sum, .gap⟩ first = some ⟨some (sum.getD ⟨0, 0⟩), .whole (digit first)⟩ := by
    simp only [Reader.feed, all first List.mem_cons_self, if_true]
    rfl
  have counted := @feed_digits (some (sum.getD ⟨0, 0⟩)) _ (digit first)
    (fun c member => all c (List.mem_cons_of_mem _ member)) (by rwa [count])
  rw [spelled] at letters
  obtain ⟨here, later⟩ := List.forall_mem_cons.1 letters
  have named : Reader.feed ⟨some (sum.getD ⟨0, 0⟩), .whole p.count⟩ letter =
      some ⟨some (sum.getD ⟨0, 0⟩), .unit p.count none [letter]⟩ := by
    obtain ⟨other, blank⟩ := not_isDigit_of_isUnitChar here
    simp only [Reader.feed, other, blank, here, Bool.false_eq_true, if_false, if_true]
  rw [Part.text, String.toList_append, Nat.toString_eq_repr, Nat.toList_repr, whole, spelled,
    List.foldlM_append, List.foldlM_cons, begun]
  simp only [Option.bind_eq_bind, Option.bind_some, counted, count, List.foldlM_cons, named]
  exact (feed_letters later).trans (by rw [List.reverse_cons])

theorem count_lt_word (sound : p.Sound) (bounded : p.worth < limit) : p.count < word := by
  obtain ⟨count, name, unit⟩ := p
  have small := sound.small
  change _ < 18446744073709551616
  simp only [Part.worth, limit] at bounded small ⊢
  cases unit <;> simp only [Unit.nanos] at bounded small <;> omega

/-- Reading the text of some parts adds up their worth. -/
theorem read_row (some_ : parts ≠ []) (sound : ∀ p ∈ parts, p.Sound)
    (nanos : (sum.getD ⟨0, 0⟩).nanos < 1000000000)
    (bounded : (sum.getD ⟨0, 0⟩).worth + Part.total parts < limit) :
    ∃ d, ((row parts).toList.foldlM Reader.feed ⟨sum, .gap⟩).bind Reader.finish = some d ∧
      d.worth = (sum.getD ⟨0, 0⟩).worth + Part.total parts := by
  induction parts generalizing sum with
  | nil => exact absurd rfl some_
  | cons p rest ih =>
    obtain ⟨here, later⟩ := List.forall_mem_cons.1 sound
    rw [Part.total_cons] at bounded ⊢
    have read := @feed_text sum p here (count_lt_word here (by omega))
    obtain ⟨d, added, below, worth⟩ := addItem?_worth here nanos (by omega)
    cases rest with
    | nil =>
      refine ⟨d, ?_, by simpa [Part.total_nil] using worth⟩
      have alone : row [p] = p.text := rfl
      simp only [alone, read, Option.bind_some, Reader.finish, List.reverse_reverse]
      exact added
    | cons q rest =>
      obtain ⟨e, whole, total⟩ := @ih (some d) (List.cons_ne_nil q rest) later below (by rw [Option.getD_some]; omega)
      refine ⟨e, ?_, by rw [total, Option.getD_some]; omega⟩
      have space : Reader.feed ⟨some (sum.getD ⟨0, 0⟩), .unit p.count none p.name.toList.reverse⟩ ' ' =
          some ⟨some d, .gap⟩ := by
        have blank : isBlank ' ' = true ∧ ' '.isDigit = false := by decide
        simp only [Reader.feed, blank, List.reverse_reverse, Reader.total, Option.getD_some, added]
        rfl
      rw [row_cons_cons, List.foldlM_append, read, Option.bind_eq_bind, Option.bind_some,
        List.foldlM_cons, space]
      exact whole

/-! ### Spans -/

def ending (n : Nat) : String := if n > 1 then "s" else ""

/-- All parts of a span, including those with a count of zero. -/
def allParts (d : Duration) : List Part :=
  let days := d.secs % 31557600 % 2630016
  let day := days % 86400
  [⟨d.secs / 31557600, "year" ++ ending (d.secs / 31557600), .year⟩,
    ⟨d.secs % 31557600 / 2630016, "month" ++ ending (d.secs % 31557600 / 2630016), .month⟩,
    ⟨days / 86400, "day" ++ ending (days / 86400), .day⟩,
    ⟨day / 3600, "h", .hour⟩, ⟨day % 3600 / 60, "m", .minute⟩, ⟨day % 60, "s", .second⟩,
    ⟨d.subsec / 1000000, "ms", .millisecond⟩, ⟨d.subsec / 1000 % 1000, "us", .microsecond⟩,
    ⟨d.subsec % 1000, "ns", .nanosecond⟩]

def shown (d : Duration) : List Part := d.allParts.filter (·.count != 0)

theorem sound_allParts {d : Duration} : ∀ p ∈ d.allParts, p.Sound := by
  have named : ∀ n, Unit.ofName? ("year" ++ ending n) = some .year ∧
      Unit.ofName? ("month" ++ ending n) = some .month ∧ Unit.ofName? ("day" ++ ending n) = some .day := by
    intro n
    unfold ending
    split <;> decide
  have below : d.subsec < 1000000000 := Nat.mod_lt _ (by decide)
  have long : ∀ {u : Unit} {n : Nat} {name : String}, Unit.ofName? name = some u →
      1000000000 ≤ u.nanos → (⟨n, name, u⟩ : Part).Sound :=
    fun named long => ⟨named, fun short => absurd short (Nat.not_lt.2 long)⟩
  simp only [allParts, List.forall_mem_cons]
  refine ⟨long (named _).1 (by decide), long (named _).2.1 (by decide), long (named _).2.2 (by decide),
    long (by decide) (by decide), long (by decide) (by decide), long (by decide) (by decide),
    ⟨rfl, fun _ => ?_⟩, ⟨rfl, fun _ => Nat.mod_lt _ (by decide)⟩,
    ⟨rfl, fun _ => Nat.mod_lt _ (by decide)⟩, nofun⟩
  exact Nat.div_lt_of_lt_mul below

theorem seconds_eq (n : Nat) : n / 31557600 * 31557600 + (n % 31557600 / 2630016 * 2630016 +
    (n % 31557600 % 2630016 / 86400 * 86400 + (n % 31557600 % 2630016 % 86400 / 3600 * 3600 +
      (n % 31557600 % 2630016 % 86400 % 3600 / 60 * 60 + n % 31557600 % 2630016 % 86400 % 60)))) = n := by
  omega

theorem subseconds_eq (n : Nat) : n / 1000000 * 1000000 + (n / 1000 % 1000 * 1000 + n % 1000) = n := by
  omega

theorem total_allParts (d : Duration) : Part.total d.allParts = d.nanos := by
  have whole : d.secs * 1000000000 + d.subsec = d.nanos := Nat.div_add_mod' d.nanos 1000000000
  rw [← whole]
  conv_rhs => rw [← seconds_eq d.secs, ← subseconds_eq d.subsec]
  simp only [allParts, Part.total_cons, Part.total_nil, Part.worth, Unit.nanos]
  rw [Nat.add_zero, Nat.mul_one]
  simp only [Nat.add_mul, Nat.mul_assoc, Nat.add_assoc]

theorem total_shown (d : Duration) : Part.total d.shown = d.nanos := by
  have skipped : ∀ parts : List Part, Part.total (parts.filter (·.count != 0)) = Part.total parts := by
    intro parts
    induction parts with
    | nil => rfl
    | cons p rest ih =>
      by_cases zero : p.count = 0
      · simp [zero, ih, Part.total_cons, Part.worth]
      · simp [zero, ih, Part.total_cons]
  rw [shown, skipped, total_allParts]

theorem longItem_eq (n : Nat) (unit : String) : longItem n unit = item n (unit ++ ending n) := by
  rw [longItem, item, ending, String.append_assoc]

theorem format_eq (d : Duration) : d.format = if d.shown.isEmpty then "0s" else row d.shown := by
  have single : ∀ n name u, item n name =
      (([⟨n, name, u⟩] : List Part).filter (·.count != 0)).map Part.text := by
    intro n name u
    by_cases zero : n = 0
    · simp [item, zero]
    · simp [item, zero, Part.text]
  have items : d.format = if (d.shown.map Part.text).isEmpty then "0s"
      else String.intercalate " " (d.shown.map Part.text) := by
    unfold format
    simp only [longItem_eq]
    rw [single _ _ .year, single _ _ .month, single _ _ .day, single _ _ .hour, single _ _ .minute,
      single _ _ .second, single _ _ .millisecond, single _ _ .microsecond, single _ _ .nanosecond]
    simp only [← List.map_append, ← List.filter_append]
    rfl
  rw [items, row, List.isEmpty_map]

/-- Reading a formatted span gives the span back. -/
theorem parse?_format (d : Duration) : parse? d.format = some d := by
  rw [format_eq]
  by_cases none_ : d.shown = []
  · have zero : d = zero := by
      refine ext ?_
      rw [← total_shown, none_]
      rfl
    rw [none_, zero]
    decide
  · have sound : ∀ p ∈ d.shown, p.Sound := fun p member => sound_allParts p (List.mem_of_mem_filter member)
    obtain ⟨clock, read, worth⟩ := @read_row none d.shown none_ sound (by decide)
      (by rw [total_shown]; exact (Nat.zero_add _).trans_lt d.bounded)
    obtain ⟨trimmed, nonzero⟩ := trimChars_row none_ sound
    obtain ⟨reader, fed, finished⟩ := Option.bind_eq_some_iff.1 read
    have total : clock.secs * 1000000000 + clock.nanos = d.nanos := by
      rw [total_shown] at worth
      exact worth.trans (Nat.zero_add _)
    rw [List.isEmpty_eq_false_iff.2 none_, if_neg Bool.false_ne_true, parse?]
    simp only [trimmed, if_neg nonzero]
    rw [Reader.start, fed, Option.bind_some, finished, Option.bind_some, ofClock?, total, ofNanos?,
      dif_pos d.bounded]

end AuditTrail.Duration
