import AuditTrail.Proofs.Lossy
import AuditTrail.Proofs.Uri.Escape

/-! Percent encodings of a text. `Encodes` relates a text to every way of writing it: a character
other than the percent sign may stand for itself, and any character may be written as escapes of
its bytes with digits of either case. Any function that undoes well-formed escapes gives the text
back. -/
namespace AuditTrail.Uri

/-- The documented behaviour of percent-decoding on texts in which every percent sign begins an escape. -/
structure Undoes (undo : Bytes → Bytes) : Prop where
  nil : undo [] = []
  other : ∀ {b : UInt8} (rest : Bytes), b ≠ 0x25 → undo (b :: rest) = b :: undo rest
  escape : ∀ {c d : Char} {x y : Nat} (rest : Bytes), Digit c x → Digit d y →
    undo (0x25 :: UInt8.ofNat c.toNat :: UInt8.ofNat d.toNat :: rest) = UInt8.ofNat (x * 16 + y) :: undo rest

/-- Decodes a path with a given function for the escapes. -/
def decodePathBy? (undo : Bytes → Bytes) (path : String) : Option String :=
  let bytes := Utf8.encode path
  if escapesFit bytes then some (Utf8.decodeLossy (undo bytes)) else none

theorem decodePathBy?_unescape : decodePathBy? unescape = decodePath? := rfl

inductive Escapes : Bytes → List Char → Prop where
  | nil : Escapes [] []
  | cons {b : UInt8} {high low : Char} {bytes : Bytes} {text : List Char} (first : Digit high (b.toNat / 16))
      (second : Digit low (b.toNat % 16)) (rest : Escapes bytes text) :
      Escapes (b :: bytes) ('%' :: high :: low :: text)

/-- The second text is a percent-encoding of the first. -/
inductive Encodes : List Char → List Char → Prop where
  | nil : Encodes [] []
  | kept {c : Char} {chars text : List Char} (other : c ≠ '%') (rest : Encodes chars text) :
      Encodes (c :: chars) (c :: text)
  | replaced {c : Char} {chars piece text : List Char} (escapes : Escapes (String.utf8EncodeChar c) piece)
      (rest : Encodes chars text) : Encodes (c :: chars) (piece ++ text)

variable {chars text piece : List Char} {bytes more : Bytes}

theorem Escapes.escaped (escapes : Escapes bytes piece) (rest : Escaped text more) :
    Escaped (piece ++ text) (bytes ++ more) := by
  induction escapes with
  | nil => exact rest
  | @cons b high low bytes piece first second _ ih =>
    have same : UInt8.ofNat (b.toNat / 16 * 16 + b.toNat % 16) = b := by
      rw [Nat.div_add_mod', UInt8.ofNat_toNat]
    exact same ▸ .escape first second ih

theorem Encodes.escaped (encodes : Encodes chars text) :
    Escaped text (chars.flatMap String.utf8EncodeChar) := by
  induction encodes with
  | nil => exact .nil
  | kept other _ ih => exact .plain other ih
  | replaced escapes _ ih => exact escapes.escaped ih

theorem digit_digitChar {n : Nat} (small : n < 16) : Digit (Nat.digitChar n) n := ⟨small, .inl rfl⟩

theorem exists_escapes (bytes : Bytes) : ∃ piece, Escapes bytes piece := by
  induction bytes with
  | nil => exact ⟨[], .nil⟩
  | cons b bytes ih =>
    obtain ⟨piece, escapes⟩ := ih
    have small : b.toNat / 16 < 16 := Nat.div_lt_of_lt_mul b.toNat_lt
    exact ⟨_, .cons (digit_digitChar small) (digit_digitChar (Nat.mod_lt _ (by decide))) escapes⟩

theorem exists_encodes (chars : List Char) : ∃ text, Encodes chars text := by
  induction chars with
  | nil => exact ⟨[], .nil⟩
  | cons c chars ih =>
    obtain ⟨text, encodes⟩ := ih
    obtain ⟨piece, escapes⟩ := exists_escapes (String.utf8EncodeChar c)
    exact ⟨_, .replaced escapes encodes⟩

/-! ### Functions that undo escapes -/

theorem unescapeOnto_onto (read before bytes : Bytes) :
    unescapeOnto (read ++ before) bytes = before.reverse ++ unescapeOnto read bytes := by
  fun_induction unescapeOnto read bytes with
  | case1 read a b rest x y first second ih =>
    rw [unescapeOnto, first, second]
    exact ih
  | case2 read a b rest alone ih =>
    rw [unescapeOnto]
    split
    · next first second => exact absurd second (alone _ _ first)
    · exact ih
  | case3 read b rest other ih =>
    rw [unescapeOnto]
    · exact ih
    · exact other
  | case4 read => simp [unescapeOnto]

theorem unescapeOnto_eq (read bytes : Bytes) : unescapeOnto read bytes = read.reverse ++ unescape bytes :=
  unescapeOnto_onto [] read bytes

theorem undoes_unescape : Undoes unescape where
  nil := by simp [unescape, unescapeOnto]
  other := by
    intro b rest other
    rw [unescape, unescapeOnto]
    · exact unescapeOnto_eq _ _
    · intro p q more same
      exact absurd same other
  escape := by
    intro c d x y rest first second
    rw [unescape, unescapeOnto, first.byte.value, second.byte.value]
    exact unescapeOnto_eq _ _

theorem exists_digit_byte : ∀ b, isHexDigit b = true → ∃ c x, Digit c x ∧ b = UInt8.ofNat c.toNat := by
  have all : ∀ b, isHexDigit b = true → b < 0x80 := Utf8.forall_byte (by decide +kernel)
  intro b hex
  have small : b.toNat < 0x80 := all b hex
  have same : (Char.ofNat b.toNat).toNat = b.toNat := Utf8.toNat_ofNat (.inl (by omega))
  obtain ⟨x, digit⟩ := exists_digit (c := Char.ofNat b.toNat) (by rwa [same, UInt8.ofNat_toNat]) (by omega)
  exact ⟨_, x, digit, by rw [same, UInt8.ofNat_toNat]⟩

theorem Undoes.eq {undo again : Bytes → Bytes} (undoes : Undoes undo) (too : Undoes again)
    {bytes : Bytes} (fits : escapesFit bytes = true) : undo bytes = again bytes := by
  match bytes with
  | [] => rw [undoes.nil, too.nil]
  | b :: rest =>
    by_cases percent : b = 0x25
    · subst percent
      have begins : escapesFit ([] ++ 0x25 :: rest) = true := fits
      obtain ⟨p, q, rest, rfl, hex, hex'⟩ := exists_of_escapesFit begins
      obtain ⟨c, x, first, rfl⟩ := exists_digit_byte p hex
      obtain ⟨d, y, second, rfl⟩ := exists_digit_byte q hex'
      have onward := escapesFit_tail (escapesFit_tail (escapesFit_tail fits))
      rw [undoes.escape rest first second, too.escape rest first second, undoes.eq too onward]
    · rw [undoes.other rest percent, too.other rest percent, undoes.eq too (escapesFit_tail fits)]
termination_by bytes.length

theorem Undoes.decodePathBy?_eq {undo : Bytes → Bytes} (undoes : Undoes undo) (path : String) :
    decodePathBy? undo path = decodePath? path := by
  rw [← decodePathBy?_unescape]
  unfold decodePathBy?
  simp only
  split_ifs with fits
  · rw [undoes.eq undoes_unescape fits]
  · rfl

/-- Decoding a path inverts every percent-encoding. It fails exactly if a percent sign is not followed by two
digits, and gives the decoded bytes as lossy text otherwise. -/
theorem encodings_decoded {undo : Bytes → Bytes} (undoes : Undoes undo) :
    (∀ p : String, (∃ s : String, Encodes p.toList s.toList) ∧
      ∀ s : String, Encodes p.toList s.toList → decodePathBy? undo s = some p) ∧
    ∀ s : String, (decodePathBy? undo s = none ↔ Broken s.toList) ∧
      ∀ p : String, decodePathBy? undo s = some p ↔
        ∃ bytes, Escaped s.toList bytes ∧ Utf8.Shown bytes p.toList := by
  simp only [undoes.decodePathBy?_eq]
  refine ⟨fun p => ⟨?encoded, ?inverts⟩, fun s => ⟨decodePath?_eq_iff s none, ?shown⟩⟩
  case encoded =>
    obtain ⟨text, encodes⟩ := exists_encodes p.toList
    exact ⟨String.ofList text, String.toList_ofList.symm ▸ encodes⟩
  case inverts =>
    intro s encodes
    rw [decodePath?_escaped encodes.escaped]
    exact congrArg some (Utf8.decodeLossy_encode p)
  case shown =>
    intro p
    rw [decodePath?_eq_iff]
    simp only [Decodes, ← Utf8.decodeLossy_eq_iff, eq_comm]

theorem encodings_decoded_mixed :
    decodePathBy? unescape "é%25%c3%A9" = some "é%é" ∧ decodePathBy? unescape "/a%2" = none ∧
      decodePathBy? unescape "%E2%82x" = some "\ufffdx" := by
  have percent : Escapes (String.utf8EncodeChar '%') ['%', '2', '5'] :=
    .cons ⟨by decide, by decide⟩ ⟨by decide, by decide⟩ .nil
  have letter : Escapes (String.utf8EncodeChar 'é') ['%', 'c', '3', '%', 'A', '9'] :=
    .cons ⟨by decide, by decide⟩ ⟨by decide, by decide⟩
      (.cons ⟨by decide, by decide⟩ ⟨by decide, by decide⟩ .nil)
  have encodes : Encodes "é%é".toList "é%25%c3%A9".toList :=
    .kept (by decide) (.replaced percent (.replaced letter .nil))
  have cut : Broken "/a%2".toList := ⟨['/', 'a'], ['2'], rfl, by simp⟩
  have escaped : Escaped "%E2%82x".toList [0xE2, 0x82, 0x78] :=
    .escape (x := 14) (y := 2) ⟨by decide, by decide⟩ ⟨by decide, by decide⟩
      (.escape (x := 8) (y := 2) ⟨by decide, by decide⟩ ⟨by decide, by decide⟩ (.plain (by decide) .nil))
  have shown : Utf8.Shown [0xE2, 0x82, 0x78] "\ufffdx".toList := Utf8.decodeLossy_eq_iff.1 (by decide)
  obtain ⟨inverts, reads⟩ := encodings_decoded undoes_unescape
  exact ⟨(inverts _).2 _ encodes, (reads _).1.2 cut, ((reads _).2 _).2 ⟨_, escaped, shown⟩⟩

end AuditTrail.Uri
