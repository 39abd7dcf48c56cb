import AuditTrail.Uri.Target
import AuditTrail.Proofs.Utf8

/-! Percent escapes. `Escaped` relates a text to the bytes it stands for. It has no case for a
percent sign that two digits do not follow, so a text either has such a sign or stands for bytes. -/
namespace AuditTrail.Uri

/-- A hexadecimal digit and its value. -/
def Digit (c : Char) (value : Nat) : Prop :=
  value < 16 ∧ (c = Nat.digitChar value ∨ c = (Nat.digitChar value).toUpper)

/-- The bytes of a text with escapes. -/
inductive Escaped : List Char → Bytes → Prop where
  | nil : Escaped [] []
  | plain {c : Char} {text : List Char} {bytes : Bytes} (other : c ≠ '%') (rest : Escaped text bytes) :
    Escaped (c :: text) (String.utf8EncodeChar c ++ bytes)
  | escape {a b : Char} {x y : Nat} {text : List Char} {bytes : Bytes} (first : Digit a x)
    (second : Digit b y) (rest : Escaped text bytes) :
    Escaped ('%' :: a :: b :: text) (UInt8.ofNat (x * 16 + y) :: bytes)

/-- Some percent sign is not followed by two hexadecimal digits. -/
def Broken (text : List Char) : Prop :=
  ∃ front back, text = front ++ '%' :: back ∧
    ¬ ∃ a b x y rest, back = a :: b :: rest ∧ Digit a x ∧ Digit b y

variable {text : List Char} {bytes front rest : Bytes} {c : Char} {x : Nat}

/-! ### Digits -/

structure DigitByte (c : Char) (value : Nat) (digit : UInt8) : Prop where
  encoded : String.utf8EncodeChar c = [digit]
  hex : isHexDigit digit = true
  value : Address.digitIn 16 (Char.ofNat digit.toNat) = some value
  other : digit ≠ 0x25

instance (c : Char) (value : Nat) (digit : UInt8) : Decidable (DigitByte c value digit) :=
  decidable_of_iff (_ ∧ _ ∧ _ ∧ _)
    ⟨fun ⟨encoded, hex, value, other⟩ => ⟨encoded, hex, value, other⟩,
      fun byte => ⟨byte.encoded, byte.hex, byte.value, byte.other⟩⟩

theorem Digit.byte (digit : Digit c x) : DigitByte c x (UInt8.ofNat c.toNat) := by
  obtain ⟨low, spelled⟩ := digit
  have all : ∀ v < 16, let c := Nat.digitChar v
      DigitByte c v (UInt8.ofNat c.toNat) ∧ DigitByte c.toUpper v (UInt8.ofNat c.toUpper.toNat) := by
    decide +kernel
  obtain ⟨lower, upper⟩ := all x low
  rcases spelled with rfl | rfl
  · exact lower
  · exact upper

theorem exists_digit (hex : isHexDigit (UInt8.ofNat c.toNat) = true) (small : c.toNat < 0x80) :
    ∃ v, Digit c v := by
  have all : ∀ n : Fin 0x80, isHexDigit (UInt8.ofNat n) = true →
      ∃ v : Fin 16, Char.ofNat n = Nat.digitChar v ∨ Char.ofNat n = (Nat.digitChar v).toUpper := by
    decide +kernel
  obtain ⟨v, spelled⟩ := all ⟨c.toNat, small⟩ hex
  rw [Char.ofNat_toNat] at spelled
  exact ⟨v, v.isLt, spelled⟩

/-! ### Texts that fit -/

theorem percent_not_mem (other : c ≠ '%') : (0x25 : UInt8) ∉ String.utf8EncodeChar c := by
  intro member
  by_cases small : c.toNat < 0x80
  · rw [Utf8.encode_small small, List.mem_singleton] at member
    have same := congrArg UInt8.toNat member
    rw [UInt8.toNat_ofNat_of_lt' (Nat.lt_trans small (by decide))] at same
    exact other (Char.toNat_inj.1 same.symm)
  · have large := Utf8.encode_large (by omega) _ member
    exact absurd large (by decide)

theorem escapesFit_append (free : 0x25 ∉ front) (rest : Bytes) :
    escapesFit (front ++ rest) = escapesFit rest := by
  induction front with
  | nil => rfl
  | cons b front ih =>
    rw [List.mem_cons, not_or] at free
    rw [List.cons_append, escapesFit, ih free.2]
    exact fun same => free.1 same.symm

theorem unescapeOnto_append (free : 0x25 ∉ front) (read rest : Bytes) :
    unescapeOnto read (front ++ rest) = unescapeOnto (front.reverse ++ read) rest := by
  induction front generalizing read with
  | nil => rfl
  | cons b front ih =>
    rw [List.mem_cons, not_or] at free
    rw [List.cons_append, unescapeOnto, ih free.2]
    · simp
    · intro x y more same
      exact absurd same.symm free.1

theorem escapesFit_tail {b : UInt8} (fits : escapesFit (b :: rest) = true) : escapesFit rest = true := by
  unfold escapesFit at fits
  split at fits
  · next same => cases same
  · next same =>
    obtain ⟨rfl, rfl⟩ := List.cons.inj same
    exact (Bool.and_eq_true _ _ ▸ fits).2
  · next same =>
    obtain ⟨rfl, rfl⟩ := List.cons.inj same
    exact fits

theorem exists_of_escapesFit (fits : escapesFit (front ++ 0x25 :: rest) = true) :
    ∃ p q more, rest = p :: q :: more ∧ isHexDigit p = true ∧ isHexDigit q = true := by
  induction front with
  | nil =>
    match rest with
    | [] | [_] => simp [escapesFit] at fits
    | p :: q :: more =>
      rw [List.nil_append, escapesFit, Bool.and_eq_true] at fits
      exact ⟨p, q, more, rfl, by simpa using fits.1⟩
  | cons b front ih => exact ih (escapesFit_tail fits)

theorem exists_digit_cons {p : UInt8} (hex : isHexDigit p = true)
    (starts : text.flatMap String.utf8EncodeChar = p :: rest) :
    ∃ c v text', text = c :: text' ∧ Digit c v ∧ text'.flatMap String.utf8EncodeChar = rest := by
  cases text with
  | nil => cases starts
  | cons c text' =>
    rw [List.flatMap_cons] at starts
    by_cases small : c.toNat < 0x80
    · rw [Utf8.encode_small small] at starts
      obtain ⟨rfl, same⟩ := List.cons.inj starts
      obtain ⟨v, digit⟩ := exists_digit hex small
      exact ⟨c, v, text', rfl, digit, same⟩
    · obtain ⟨lead, more, encoded, -⟩ := Utf8.encode_lead c
      have large := Utf8.encode_large (c := c) (by omega) lead (by simp [encoded])
      rw [encoded] at starts
      obtain ⟨rfl, -⟩ := List.cons.inj starts
      have low : isHexDigit lead = true → lead < 0x80 := by
        simp only [isHexDigit, Bool.or_eq_true, Bool.and_eq_true, decide_eq_true_eq,
          UInt8.le_iff_toNat_le, UInt8.lt_iff_toNat_lt]
        intro ranges
        have limits : (0x39 : UInt8).toNat = 57 ∧ (0x46 : UInt8).toNat = 70 ∧ (0x66 : UInt8).toNat = 102 ∧
          (0x80 : UInt8).toNat = 128 := by decide
        omega
      exact absurd large (UInt8.not_le.2 (low hex))

theorem Escaped.fits (escaped : Escaped text bytes) :
    escapesFit (text.flatMap String.utf8EncodeChar) = true := by
  induction escaped with
  | nil => rfl
  | plain other rest ih => rw [List.flatMap_cons, escapesFit_append (percent_not_mem other), ih]
  | @escape a b x y text bytes first second rest ih =>
    have digits := first.byte
    have digits' := second.byte
    have percent : String.utf8EncodeChar '%' = [0x25] := by decide
    have free : (0x25 : UInt8) ∉ [UInt8.ofNat a.toNat, UInt8.ofNat b.toNat] := by
      simp [digits.other.symm, digits'.other.symm]
    have onward := escapesFit_append free (text.flatMap String.utf8EncodeChar)
    simp only [List.flatMap_cons, percent, digits.encoded, digits'.encoded, List.cons_append,
      List.nil_append] at onward ⊢
    rw [escapesFit, onward, ih, digits.hex, digits'.hex]
    rfl

theorem Escaped.unescaped (escaped : Escaped text bytes) (read : Bytes) :
    unescapeOnto read (text.flatMap String.utf8EncodeChar) = read.reverse ++ bytes := by
  induction escaped generalizing read with
  | nil => simp [unescapeOnto]
  | plain other rest ih =>
    rw [List.flatMap_cons, unescapeOnto_append (percent_not_mem other), ih]
    simp
  | @escape a b x y text bytes first second rest ih =>
    have digits := first.byte
    have digits' := second.byte
    have percent : String.utf8EncodeChar '%' = [0x25] := by decide
    simp only [List.flatMap_cons, percent, digits.encoded, digits'.encoded, List.singleton_append]
    rw [unescapeOnto, digits.value, digits'.value]
    simp [ih]

/-- Every text is either decodable or broken. -/
theorem escaped_or_broken (text : List Char) : (∃ bytes, Escaped text bytes) ∨ Broken text := by
  match text with
  | [] => exact .inl ⟨[], .nil⟩
  | c :: text =>
    by_cases percent : c = '%'
    · subst percent
      by_cases fits : ∃ a b x y rest, text = a :: b :: rest ∧ Digit a x ∧ Digit b y
      · obtain ⟨a, b, x, y, rest, rfl, first, second⟩ := fits
        rcases escaped_or_broken rest with ⟨bytes, escaped⟩ | ⟨front, back, rfl, alone⟩
        · exact .inl ⟨_, .escape first second escaped⟩
        · exact .inr ⟨'%' :: a :: b :: front, back, rfl, alone⟩
      · exact .inr ⟨[], text, rfl, fits⟩
    · rcases escaped_or_broken text with ⟨bytes, escaped⟩ | ⟨front, back, rfl, alone⟩
      · exact .inl ⟨_, .plain percent escaped⟩
      · exact .inr ⟨c :: front, back, rfl, alone⟩
termination_by text.length

theorem Broken.not_fits (broken : Broken text) :
    escapesFit (text.flatMap String.utf8EncodeChar) = false := by
  obtain ⟨front, back, rfl, alone⟩ := broken
  rw [← Bool.not_eq_true]
  intro fits
  have percent : String.utf8EncodeChar '%' = [0x25] := by decide
  rw [List.flatMap_append, List.flatMap_cons, percent, List.singleton_append] at fits
  obtain ⟨p, q, more, starts, hex, hex'⟩ := exists_of_escapesFit fits
  obtain ⟨a, x, back, rfl, first, starts'⟩ := exists_digit_cons hex starts
  obtain ⟨b, y, back, rfl, second, -⟩ := exists_digit_cons hex' starts'
  exact alone ⟨a, b, x, y, back, rfl, first, second⟩

def Decodes (text : List Char) : Option String → Prop
  | none => Broken text
  | some decoded => ∃ bytes, Escaped text bytes ∧ decoded = Utf8.decodeLossy bytes

theorem decodePath?_escaped {path : String} (escaped : Escaped path.toList bytes) :
    decodePath? path = some (Utf8.decodeLossy bytes) := by
  rw [decodePath?, Utf8.encode, if_pos escaped.fits, unescape, escaped.unescaped]
  rfl

theorem decodePath?_broken {path : String} (broken : Broken path.toList) : decodePath? path = none := by
  rw [decodePath?, Utf8.encode, if_neg (by simp [broken.not_fits])]

theorem decodePath?_eq_iff (path : String) (decoded : Option String) :
    decodePath? path = decoded ↔ Decodes path.toList decoded := by
  constructor
  · rintro rfl
    rcases escaped_or_broken path.toList with ⟨bytes, escaped⟩ | broken
    · exact decodePath?_escaped escaped ▸ ⟨bytes, escaped, rfl⟩
    · exact decodePath?_broken broken ▸ broken
  · intro stands
    cases decoded with
    | none => exact decodePath?_broken stands
    | some decoded =>
      obtain ⟨bytes, escaped, rfl⟩ := stands
      exact decodePath?_escaped escaped

end AuditTrail.Uri
