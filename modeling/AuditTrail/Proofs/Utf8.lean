import AuditTrail.Utf8
import Mathlib.Tactic.SplitIfs

/-! UTF-8. Encodings can be decoded, and valid bytes may be joined, and cut at a character. -/
namespace AuditTrail.Utf8

/-- Decoding inverts encoding. -/
theorem decode?_eq_some (text : String) : decode? (encode text) = some text := by
  have bytes : (encode text).toByteArray = text.toByteArray := by
    rw [encode, ← List.utf8Encode, String.utf8Encode_toList]
  unfold decode? String.fromUTF8?
  rw [bytes, dif_pos text.isValidUTF8]
  rfl

theorem encode_small {c : Char} (small : c.toNat < 0x80) :
    String.utf8EncodeChar c = [UInt8.ofNat c.toNat] := by
  have within : c.val.toNat ≤ 127 := Nat.le_of_lt_succ small
  simp only [String.utf8EncodeChar, if_pos within]
  rfl

theorem encode_large {c : Char} (large : 0x80 ≤ c.toNat) :
    ∀ b ∈ String.utf8EncodeChar c, 0x80 ≤ b := by
  have beyond : ¬ c.val.toNat ≤ 127 := Nat.not_le.2 large
  have high : ∀ n m, n + m < 256 → 128 ≤ m → (0x80 : UInt8) ≤ UInt8.ofNat (n + m) := by
    intro n m most least
    rw [UInt8.le_iff_toNat_le, UInt8.toNat_ofNat_of_lt' most]
    exact Nat.le_trans least (Nat.le_add_left m n)
  have lead : ∀ n k m, 0 < k → k + m ≤ 256 → 128 ≤ m → (0x80 : UInt8) ≤ UInt8.ofNat (n % k + m) := by
    intro n k m positive most least
    have below := Nat.mod_lt n positive
    exact high _ _ (by omega) least
  simp only [String.utf8EncodeChar, if_neg beyond]
  split_ifs <;> simp only [List.forall_mem_cons, List.not_mem_nil, false_implies, implies_true,
    and_true]
  · exact ⟨lead _ 32 192 (by decide) (by decide) (by decide),
      lead _ 64 128 (by decide) (by decide) (by decide)⟩
  · exact ⟨lead _ 16 224 (by decide) (by decide) (by decide),
      lead _ 64 128 (by decide) (by decide) (by decide),
      lead _ 64 128 (by decide) (by decide) (by decide)⟩
  · exact ⟨lead _ 8 240 (by decide) (by decide) (by decide),
      lead _ 64 128 (by decide) (by decide) (by decide),
      lead _ 64 128 (by decide) (by decide) (by decide),
      lead _ 64 128 (by decide) (by decide) (by decide)⟩

/-- The bytes are valid UTF-8. -/
def Legible (bytes : Bytes) : Prop := (decode? bytes).isSome

variable {bytes front back : Bytes} {b : UInt8}

theorem legible_iff : Legible bytes ↔ ∃ chars : List Char, bytes = chars.flatMap String.utf8EncodeChar := by
  constructor
  · intro legible
    unfold Legible decode? String.fromUTF8? at legible
    split at legible
    · next valid =>
      obtain ⟨chars, same⟩ := valid
      exact ⟨chars, List.toByteArray_inj.1 same⟩
    · cases legible
  · rintro ⟨chars, rfl⟩
    have spelled : chars.flatMap String.utf8EncodeChar = encode (String.ofList chars) := by
      rw [encode, String.toList_ofList]
    rw [Legible, spelled, decode?_eq_some]
    rfl

theorem legible_encode (text : String) : Legible (encode text) :=
  legible_iff.2 ⟨text.toList, rfl⟩

theorem Legible.nil : Legible [] := legible_iff.2 ⟨[], rfl⟩

theorem Legible.append (first : Legible front) (second : Legible back) : Legible (front ++ back) := by
  obtain ⟨chars, rfl⟩ := legible_iff.1 first
  obtain ⟨more, rfl⟩ := legible_iff.1 second
  exact legible_iff.2 ⟨chars ++ more, List.flatMap_append.symm⟩

theorem exists_char (small : b < 0x80) : ∃ c, String.utf8EncodeChar c = [b] := by
  have less : b.toNat < 128 := small
  have same : (Char.ofNat b.toNat).toNat = b.toNat := by
    have valid : b.toNat.isValidChar := .inl (by omega)
    rw [Char.ofNat, dif_pos valid]
    rfl
  have within : (Char.ofNat b.toNat).toNat < 0x80 := by omega
  exact ⟨Char.ofNat b.toNat, by rw [encode_small within, same, UInt8.ofNat_toNat]⟩

theorem legible_singleton (small : b < 0x80) : Legible [b] := by
  obtain ⟨c, encoded⟩ := exists_char small
  exact legible_iff.2 ⟨[c], by rw [List.flatMap_singleton, encoded]⟩

theorem legible_of_small (small : ∀ b ∈ bytes, b < 0x80) : Legible bytes := by
  induction bytes with
  | nil => exact .nil
  | cons b rest ih =>
    rw [List.forall_mem_cons] at small
    exact (legible_singleton small.1).append (ih small.2)

theorem legible_char_append {c : Char} : Legible (String.utf8EncodeChar c ++ back) ↔ Legible back := by
  have valid : ∀ bytes : Bytes, Legible bytes ↔ bytes.toByteArray.IsValidUTF8 := by
    intro bytes
    unfold Legible decode? String.fromUTF8?
    split <;> simp_all
  have encoded : (String.utf8EncodeChar c).toByteArray = [c].utf8Encode := by
    simp [List.utf8Encode]
  rw [valid, valid, List.toByteArray_append, encoded]
  exact ByteArray.isValidUTF8_utf8Encode_singleton_append_iff

/-- The first byte of a character occurs nowhere else in a character. -/
theorem encode_lead (c : Char) : ∃ lead rest, String.utf8EncodeChar c = lead :: rest ∧
    ∀ d front back, String.utf8EncodeChar d = front ++ lead :: back → front = [] := by
  cases encoded : String.utf8EncodeChar c with
  | nil =>
    have size := String.length_utf8EncodeChar c
    rw [encoded] at size
    exact absurd size.symm (Nat.ne_of_gt c.utf8Size_pos)
  | cons lead rest =>
    have filled : 0 < (String.utf8EncodeChar c).length := by simp [encoded]
    have within : (String.utf8EncodeChar c)[0] = lead := by simp [encoded]
    have begins : lead.IsUTF8FirstByte :=
      within ▸ UInt8.isUTF8FirstByte_getElem_utf8EncodeChar.2 rfl
    refine ⟨lead, rest, rfl, fun d front back whole => ?_⟩
    have short : front.length < (String.utf8EncodeChar d).length := by simp [whole]
    have there : (String.utf8EncodeChar d)[front.length] = lead := by simp [whole]
    exact List.length_eq_zero_iff.1 (UInt8.isUTF8FirstByte_getElem_utf8EncodeChar.1 (there ▸ begins))

/-- Valid UTF-8 on both sides of a character within valid UTF-8. -/
theorem Legible.cut_char {c : Char} (legible : Legible (front ++ (String.utf8EncodeChar c ++ back))) :
    Legible front ∧ Legible back := by
  obtain ⟨chars, same⟩ := legible_iff.1 legible
  induction chars generalizing front with
  | nil =>
    obtain ⟨lead, rest, encoded, -⟩ := encode_lead c
    simp [encoded] at same
  | cons d chars ih =>
    have first : Legible (String.utf8EncodeChar d) := legible_iff.2 ⟨[d], by simp⟩
    have rest : Legible (chars.flatMap String.utf8EncodeChar) := legible_iff.2 ⟨chars, rfl⟩
    rw [List.flatMap_cons, List.append_eq_append_iff] at same
    rcases same with ⟨part, whole, split⟩ | ⟨part, rfl, split⟩
    · cases part with
      | nil =>
        rw [List.append_nil] at whole
        rw [List.nil_append] at split
        exact ⟨whole ▸ first, legible_char_append.1 (split ▸ rest)⟩
      | cons lead part =>
        obtain ⟨lead', more, encoded, alone⟩ := encode_lead c
        obtain rfl : lead' = lead := by
          rw [encoded] at split
          exact (List.cons.inj split).1
        obtain rfl := alone d front part whole
        exact ⟨.nil, legible_char_append.1 legible⟩
    · obtain ⟨middle, last⟩ := ih (split ▸ rest) split.symm
      exact ⟨first.append middle, last⟩

end AuditTrail.Utf8
