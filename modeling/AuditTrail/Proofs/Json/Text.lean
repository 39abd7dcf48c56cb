import AuditTrail.Json.Text
import AuditTrail.Proofs.Backup
import AuditTrail.Proofs.Json.Spelling
import AuditTrail.Proofs.Utf8

/-! Strings and integers in JSON text can be read back. -/
namespace AuditTrail

namespace Json

open Scanner (isHex isShortEscape)

/-! ### Strings -/

theorem escapeChar_cases (c : Char) :
    (∃ b, isShortEscape b = true ∧ escapeChar c = [0x5C, b] ∧
      String.utf8EncodeChar c = [shortEscape b]) ∨
    (c.toNat < 0x20 ∧ escapeChar c =
      [0x5C, 0x75, 0x30, 0x30, hexDigit (c.toNat / 16), hexDigit (c.toNat % 16)]) ∨
    (escapeChar c = String.utf8EncodeChar c ∧
      ∀ b ∈ String.utf8EncodeChar c, 0x20 ≤ b ∧ b ≠ 0x22 ∧ b ≠ 0x5C) := by
  unfold escapeChar
  split
  · exact .inl ⟨0x22, by decide⟩
  · exact .inl ⟨0x5C, by decide⟩
  · exact .inl ⟨0x62, by decide⟩
  · exact .inl ⟨0x74, by decide⟩
  · exact .inl ⟨0x6E, by decide⟩
  · exact .inl ⟨0x66, by decide⟩
  · exact .inl ⟨0x72, by decide⟩
  · next quote escape _ _ _ _ _ =>
    split
    · next control => exact .inr (.inl ⟨control, rfl⟩)
    · next visible =>
      refine .inr (.inr ⟨rfl, ?_⟩)
      by_cases small : c.toNat < 0x80
      · have other : ∀ d : Char, c ≠ d → c.toNat ≠ d.toNat := by
          intro d differs same
          exact differs (Char.toNat_inj.1 same)
        have same : (UInt8.ofNat c.toNat).toNat = c.toNat := by
          rw [UInt8.toNat_ofNat_of_lt' (by rw [UInt8.size]; omega)]
        rw [Utf8.encode_small small]
        simp only [List.forall_mem_singleton]
        refine ⟨?_, ?_, ?_⟩
        · rw [UInt8.le_iff_toNat_le, same]
          exact Nat.not_lt.1 visible
        · intro is
          exact other '"' quote (same.symm.trans (congrArg UInt8.toNat is))
        · intro is
          exact other '\\' escape (same.symm.trans (congrArg UInt8.toNat is))
      · intro b member
        have large := Utf8.encode_large (Nat.not_lt.1 small) b member
        grind

theorem unescapeOnto_plain {b : UInt8} (plain : b ≠ 0x5C) (read rest : Bytes) :
    unescapeOnto read (b :: rest) = unescapeOnto (b :: read) rest := by
  rw [unescapeOnto]
  · rintro _ _ _ _ _ rfl
    exact absurd rfl plain
  · rintro _ _ rfl
    exact absurd rfl plain

theorem unescapeOnto_append {bytes : Bytes} (plain : ∀ b ∈ bytes, b ≠ 0x5C) (read rest : Bytes) :
    unescapeOnto read (bytes ++ rest) = unescapeOnto (bytes.reverse ++ read) rest := by
  induction bytes generalizing read with
  | nil => rfl
  | cons b more ih =>
    obtain ⟨here, later⟩ := List.forall_mem_cons.1 plain
    rw [List.cons_append, unescapeOnto_plain here, ih later]
    simp

theorem unescapeOnto_short {b : UInt8} (letter : isShortEscape b = true) (read rest : Bytes) :
    unescapeOnto read (0x5C :: b :: rest) = unescapeOnto (shortEscape b :: read) rest := by
  rw [unescapeOnto]
  rintro _ _ _ _ _ rfl
  exact absurd letter (by decide)

theorem hexValue_hexDigit : ∀ n < 16, hexValue (hexDigit n) = n := by decide

theorem isHex_hexDigit : ∀ n < 16, isHex (hexDigit n) = true := by decide

theorem unescapeOnto_control {c : Char} (control : c.toNat < 0x20) (read rest : Bytes) :
    unescapeOnto read (0x5C :: 0x75 :: 0x30 :: 0x30 :: hexDigit (c.toNat / 16) ::
      hexDigit (c.toNat % 16) :: rest) =
      unescapeOnto ((String.utf8EncodeChar c).reverse ++ read) rest := by
  have number : unit 0x30 0x30 (hexDigit (c.toNat / 16)) (hexDigit (c.toNat % 16)) = c.toNat := by
    have zero : hexValue 0x30 = 0 := by decide
    rw [unit, zero, hexValue_hexDigit _ (by omega), hexValue_hexDigit _ (by omega)]
    omega
  have unpaired : isLeading c.toNat = false ∧ isTrailing c.toNat = false := by
    simp only [isLeading, isTrailing, Bool.and_eq_false_iff, decide_eq_false_iff_not]
    omega
  rw [unescapeOnto.eq_def]
  simp only [number, unpaired, Bool.false_eq_true, if_false, Char.ofNat_toNat]

theorem unescapeOnto_escapeChar (c : Char) (read rest : Bytes) :
    unescapeOnto read (escapeChar c ++ rest) =
      unescapeOnto ((String.utf8EncodeChar c).reverse ++ read) rest := by
  rcases escapeChar_cases c with ⟨b, letter, escaped, encoded⟩ | ⟨control, escaped⟩ |
    ⟨same, plain⟩
  · rw [escaped, encoded]
    exact unescapeOnto_short letter read rest
  · rw [escaped]
    exact unescapeOnto_control control read rest
  · rw [same]
    exact unescapeOnto_append (fun b member => (plain b member).2.2) read rest

/-- Unescaping inverts escaping. -/
@[simp] theorem unescape?_escape (text : String) : unescape? (escape text) = some text := by
  have onto : ∀ (chars : List Char) (read : Bytes), unescapeOnto read (chars.flatMap escapeChar) =
      some (read.reverse ++ chars.flatMap String.utf8EncodeChar) := by
    intro chars
    induction chars with
    | nil => simp [unescapeOnto]
    | cons c rest ih =>
      intro read
      rw [List.flatMap_cons, unescapeOnto_escapeChar, ih]
      simp
  rw [unescape?, escape, onto]
  exact Utf8.decode?_eq_some text

theorem Quotable.append {front back : Bytes} (first : Quotable front) (second : Quotable back) :
    Quotable (front ++ back) := by
  induction first with
  | nil => exact second
  | plain printable quote escape _ ih => exact .plain printable quote escape ih
  | short letter _ ih => exact .short letter ih
  | unicode a b c d _ ih => exact .unicode a b c d ih

theorem Quotable.of_plain {bytes : Bytes} (plain : ∀ b ∈ bytes, 0x20 ≤ b ∧ b ≠ 0x22 ∧ b ≠ 0x5C) :
    Quotable bytes := by
  induction bytes with
  | nil => exact .nil
  | cons b rest ih =>
    obtain ⟨⟨printable, quote, escape⟩, later⟩ := List.forall_mem_cons.1 plain
    exact .plain printable quote escape (ih later)

theorem quotable_escapeChar (c : Char) : Quotable (escapeChar c) := by
  rcases escapeChar_cases c with ⟨b, letter, escaped, -⟩ | ⟨control, escaped⟩ | ⟨same, plain⟩
  · exact escaped ▸ .short letter .nil
  · rw [escaped]
    exact .unicode (by decide) (by decide) (isHex_hexDigit _ (by omega)) (isHex_hexDigit _ (by omega))
      .nil
  · exact same ▸ .of_plain plain

theorem quotable_escape (text : String) : Quotable (escape text) := by
  rw [escape]
  induction text.toList with
  | nil => exact .nil
  | cons c rest ih => exact (quotable_escapeChar c).append ih

@[simp] theorem string?_ofString (text : String) : (ofString text).string? = some text :=
  unescape?_escape text

theorem proper_ofString (text : String) : (ofString text).Proper := .string (quotable_escape text)

/-! ### Integers -/

theorem isDigit_decimal (n : Nat) : ∀ b ∈ Backup.decimal n, Number.isDigit b = true :=
  Backup.isDigit_decimal n

@[simp] theorem digits?_decimal (n : Nat) : digits? (Backup.decimal n) = some n := by
  have onto : ∀ (bytes : Bytes) (init : Nat), (∀ b ∈ bytes, Number.isDigit b = true) →
      bytes.foldl (fun n b => n.bind fun n =>
        if Number.isDigit b then some (n * 10 + (b.toNat - 0x30)) else none) (some init) =
      some (bytes.foldl (fun n b => n * 10 + (b.toNat - 0x30)) init) := by
    intro bytes
    induction bytes with
    | nil => exact fun _ _ => rfl
    | cons b rest ih =>
      intro init digits
      obtain ⟨here, later⟩ := List.forall_mem_cons.1 digits
      rw [List.foldl_cons, Option.bind_some, if_pos here, ih _ later, List.foldl_cons]
  have some_ : (Backup.decimal n).isEmpty = false := by
    simpa using Backup.decimal_ne_nil n
  rw [digits?, some_, onto _ 0 (isDigit_decimal n)]
  exact congrArg some (Backup.value_decimal n)

theorem digitChar_ne_zero : ∀ n < 10, 0 < n → Nat.digitChar n ≠ '0' := by decide

theorem head?_toDigits {n : Nat} (positive : 0 < n) :
    ∃ c, (Nat.toDigits 10 n).head? = some c ∧ c ≠ '0' := by
  induction n using Nat.strongRecOn with
  | ind n ih =>
    rw [Nat.toDigits_eq_if (by decide)]
    split
    · next small => exact ⟨n.digitChar, rfl, digitChar_ne_zero n small positive⟩
    · next large =>
      obtain ⟨c, first, nonzero⟩ := ih (n / 10) (by omega) (by omega)
      exact ⟨c, by rw [List.head?_append, first, Option.some_or], nonzero⟩

theorem head?_decimal {n : Nat} (positive : 0 < n) : (Backup.decimal n).head? ≠ some 0x30 := by
  obtain ⟨c, first, nonzero⟩ := head?_toDigits positive
  have digit := Backup.isDigit_toDigits n c (List.mem_of_head? first)
  obtain ⟨-, -, same⟩ := Backup.toNat_digit digit
  rw [Backup.decimal_eq, List.head?_map, first]
  intro is
  apply nonzero
  have value : c.val.toUInt8 = 0x30 := Option.some.inj is
  rw [value] at same
  exact Char.toNat_inj.1 same.symm

theorem spelling_ofInt (n : Int) : Utf8.encode (toString n) =
    if 0 ≤ n then Backup.decimal n.toNat else 0x2D :: Backup.decimal (-n).toNat := by
  rw [Int.toString_eq_repr, Int.repr_eq_if]
  split
  · rfl
  · rw [Utf8.encode, String.toList_append, List.flatMap_append]
    rfl

theorem numeral_decimal (n : Nat) : Numeral [] (Backup.decimal n) [] [] where
  sign := .inl rfl
  whole := by
    by_cases zero : n = 0
    · subst zero
      exact .inl (by decide)
    · exact .inr ⟨⟨Backup.decimal_ne_nil n, isDigit_decimal n⟩, head?_decimal (Nat.pos_of_ne_zero zero)⟩
  fraction := .inl rfl
  power := .inl rfl

theorem Numeral.negative {whole fraction power : Bytes} (numeral : Numeral [] whole fraction power) :
    Numeral [0x2D] whole fraction power :=
  ⟨.inr rfl, numeral.whole, numeral.fraction, numeral.power⟩

theorem proper_ofInt (n : Int) : (ofInt n).Proper := by
  rw [ofInt, spelling_ofInt]
  split
  · simpa using Proper.number (numeral_decimal n.toNat)
  · simpa using Proper.number (numeral_decimal (-n).toNat).negative

theorem integerOf?_of_digit {bytes : Bytes} (digits : ∀ b ∈ bytes, Number.isDigit b = true) :
    integerOf? bytes = (digits? bytes).map Int.ofNat := by
  unfold integerOf?
  split
  · exact absurd (digits 0x2D List.mem_cons_self) (by decide)
  · rfl

@[simp] theorem integer?_ofInt (n : Int) : (ofInt n).integer? = some n := by
  rw [ofInt, integer?, spelling_ofInt]
  split
  · next positive =>
    rw [integerOf?_of_digit (isDigit_decimal _), digits?_decimal, Option.map_some,
      Int.ofNat_eq_natCast, Int.toNat_of_nonneg positive]
  · next negative =>
    have nonzero : (-n).toNat ≠ 0 := by omega
    simp only [integerOf?, digits?_decimal, Option.bind_some, if_neg nonzero, Option.some.injEq]
    omega

end Json

end AuditTrail
