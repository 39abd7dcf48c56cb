import AuditTrail.Proofs.Text
import AuditTrail.Proofs.Utf8
import Mathlib.Data.List.Induction

/-! Lossy decoding. `Shown` says which text stands for which bytes without reference to the
decoder: a character stands for its encoding, and a replacement character for the longest prefix of
an encoding, or for a byte that begins none. `decodeLossy` gives the only text that is so related
to its input. -/
namespace AuditTrail.Utf8

open Decoder

/-- Some character begins with these bytes. -/
def Begins (piece : Bytes) : Prop := ∃ c more, String.utf8EncodeChar c = piece ++ more

/-- The characters that stand for some bytes: each longest beginning of a character that breaks off becomes
one replacement character. -/
inductive Shown : Bytes → List Char → Prop where
  | nil : Shown [] []
  | char {c : Char} {bytes : Bytes} {chars : List Char} (rest : Shown bytes chars) :
      Shown (String.utf8EncodeChar c ++ bytes) (c :: chars)
  | broken {piece bytes : Bytes} {chars : List Char} (present : piece ≠ []) (begins : Begins piece)
      (unfinished : ∀ c, String.utf8EncodeChar c ≠ piece) (stops : ∀ b ∈ bytes.head?, ¬ Begins (piece ++ [b]))
      (rest : Shown bytes chars) : Shown (piece ++ bytes) (replacement :: chars)
  | stray {b : UInt8} {bytes : Bytes} {chars : List Char} (alone : ¬ Begins [b]) (rest : Shown bytes chars) :
      Shown (b :: bytes) (replacement :: chars)

theorem Begins.front {piece more : Bytes} (begins : Begins (piece ++ more)) : Begins piece := by
  obtain ⟨c, rest, whole⟩ := begins
  exact ⟨c, more ++ rest, by rw [whole, List.append_assoc]⟩

/-! ### Characters of two, three and four bytes -/

theorem toNat_ofNat {n : Nat} (valid : n.isValidChar) : (Char.ofNat n).val.toNat = n := by
  rw [Char.ofNat, dif_pos valid]
  rfl

theorem encode_two {k m : Nat} (least : 2 ≤ k) (first : k < 32) (second : m < 64) :
    String.utf8EncodeChar (Char.ofNat (k * 64 + m)) = [UInt8.ofNat (k + 192), UInt8.ofNat (m + 128)] := by
  have value := toNat_ofNat (n := k * 64 + m) (.inl (by omega))
  have lead : (k * 64 + m) / 64 % 32 = k := by omega
  have last : (k * 64 + m) % 64 = m := by omega
  simp only [String.utf8EncodeChar, value, lead, last]
  rw [if_neg (by omega), if_pos (by omega)]

theorem encode_three {k m n : Nat} (first : k < 16) (second : m < 64) (third : n < 64)
    (long : k = 0 → 32 ≤ m) (scalar : k = 13 → m < 32) :
    String.utf8EncodeChar (Char.ofNat ((k * 64 + m) * 64 + n)) =
      [UInt8.ofNat (k + 224), UInt8.ofNat (m + 128), UInt8.ofNat (n + 128)] := by
  have valid : ((k * 64 + m) * 64 + n).isValidChar := by
    rcases Nat.lt_or_ge k 13 with less | more
    · exact .inl (by omega)
    · rcases Nat.eq_or_lt_of_le more with same | more
      · exact .inl (by have := scalar same.symm; omega)
      · exact .inr ⟨by omega, by omega⟩
  have value := toNat_ofNat valid
  have lead : ((k * 64 + m) * 64 + n) / 4096 % 16 = k := by omega
  have middle : ((k * 64 + m) * 64 + n) / 64 % 64 = m := by omega
  have last : ((k * 64 + m) * 64 + n) % 64 = n := by omega
  simp only [String.utf8EncodeChar, value, lead, middle, last]
  rw [if_neg (by omega), if_neg (by omega), if_pos (by omega)]

theorem encode_four {k m n o : Nat} (first : k < 5) (second : m < 64) (third : n < 64) (fourth : o < 64)
    (long : k = 0 → 16 ≤ m) (scalar : k = 4 → m < 16) :
    String.utf8EncodeChar (Char.ofNat (((k * 64 + m) * 64 + n) * 64 + o)) =
      [UInt8.ofNat (k + 240), UInt8.ofNat (m + 128), UInt8.ofNat (n + 128), UInt8.ofNat (o + 128)] := by
  have value := toNat_ofNat (n := ((k * 64 + m) * 64 + n) * 64 + o) (.inr ⟨by omega, by omega⟩)
  have lead : (((k * 64 + m) * 64 + n) * 64 + o) / 262144 % 8 = k := by omega
  have middle : (((k * 64 + m) * 64 + n) * 64 + o) / 4096 % 64 = m := by omega
  have later : (((k * 64 + m) * 64 + n) * 64 + o) / 64 % 64 = n := by omega
  have last : (((k * 64 + m) * 64 + n) * 64 + o) % 64 = o := by omega
  simp only [String.utf8EncodeChar, value, lead, middle, later, last]
  rw [if_neg (by omega), if_neg (by omega), if_neg (by omega)]

/-! ### Places within a character -/

/-- A number of further bytes complete a character, whichever they are, if the first lies in the range and the
others are continuation bytes. -/
def Open : Nat → Bytes → UInt8 → UInt8 → Prop
  | 0, _, _, _ => False
  | 1, piece, low, high => ∀ b, low ≤ b → b ≤ high → ∃ c, String.utf8EncodeChar c = piece ++ [b]
  | n + 2, piece, low, high => ∀ b, low ≤ b → b ≤ high → Open (n + 1) (piece ++ [b]) 0x80 0xBF

variable {piece bytes more : Bytes} {b low high : UInt8} {lead : Lead} {n : Nat}

theorem Open.begins (opens : Open n piece low high) (least : low ≤ b) (most : b ≤ high) :
    Begins (piece ++ [b]) := by
  induction n using Nat.twoStepInduction generalizing piece low high b with
  | zero => exact opens.elim
  | one =>
    obtain ⟨c, whole⟩ := opens b least most
    exact ⟨c, [], by rw [whole, List.append_nil]⟩
  | more n _ ih => exact (ih (opens b least most) (b := 0x80) (by decide) (by decide)).front

/-- A decidable statement about all 256 bytes. -/
theorem forall_byte {p : UInt8 → Prop} (all : ∀ n < 256, p (UInt8.ofNat n)) (b : UInt8) : p b :=
  UInt8.ofNat_toNat (x := b) ▸ all b.toNat b.toNat_lt

theorem lead_cases : ∀ b, ∀ lead ∈ lead? b,
    (∃ k < 32, 2 ≤ k ∧ b = UInt8.ofNat (k + 192) ∧ lead = ⟨1, 0x80, 0xBF, k⟩) ∨
    (∃ k < 16, b = UInt8.ofNat (k + 224) ∧
      lead = ⟨2, if k = 0 then 0xA0 else 0x80, if k = 13 then 0x9F else 0xBF, k⟩) ∨
    ∃ k < 5, b = UInt8.ofNat (k + 240) ∧
      lead = ⟨3, if k = 0 then 0x90 else 0x80, if k = 4 then 0x8F else 0xBF, k⟩ :=
  forall_byte (by decide +kernel)

theorem low_le_high : ∀ b, ∀ lead ∈ lead? b, lead.low ≤ lead.high := forall_byte (by decide +kernel)

theorem large_of_lead : ∀ b, ∀ lead ∈ lead? b, ¬ b < 0x80 := forall_byte (by decide +kernel)

theorem exists_within {l h : Nat} (least : l + 128 ≤ b.toNat) (most : b.toNat ≤ h + 128) :
    ∃ m, l ≤ m ∧ m ≤ h ∧ b = UInt8.ofNat (m + 128) :=
  ⟨b.toNat - 128, by omega, by omega, by rw [Nat.sub_add_cancel (by omega), UInt8.ofNat_toNat]⟩

theorem exists_small (least : 0x80 ≤ b) (most : b ≤ 0xBF) : ∃ m < 64, b = UInt8.ofNat (m + 128) := by
  obtain ⟨m, -, high, same⟩ := exists_within (l := 0) (h := 63) least most
  exact ⟨m, by omega, same⟩

theorem open_lead (leads : lead? b = some lead) : Open lead.owed [b] lead.low lead.high := by
  rcases lead_cases _ _ leads with ⟨k, small, least, rfl, rfl⟩ | ⟨k, small, rfl, rfl⟩ | ⟨k, small, rfl, rfl⟩
  · intro x low high
    obtain ⟨m, within, rfl⟩ := exists_small low high
    exact ⟨_, encode_two least small within⟩
  · intro x low high y low' high'
    obtain ⟨m, above, below, rfl⟩ := exists_within (b := x) (l := if k = 0 then 32 else 0)
      (h := if k = 13 then 31 else 63) (by split_ifs at low ⊢ <;> exact low) (by split_ifs at high ⊢ <;> exact high)
    obtain ⟨n, within, rfl⟩ := exists_small low' high'
    exact ⟨_, encode_three small (by split_ifs at below <;> omega) within (by rintro rfl; exact above)
      (by rintro rfl; exact Nat.lt_succ_of_le below)⟩
  · intro x low high y low' high' z low'' high''
    obtain ⟨m, above, below, rfl⟩ := exists_within (b := x) (l := if k = 0 then 16 else 0)
      (h := if k = 4 then 15 else 63) (by split_ifs at low ⊢ <;> exact low) (by split_ifs at high ⊢ <;> exact high)
    obtain ⟨n, within, rfl⟩ := exists_small low' high'
    obtain ⟨o, within', rfl⟩ := exists_small low'' high''
    exact ⟨_, encode_four small (by split_ifs at below <;> omega) within within' (by rintro rfl; exact above)
      (by rintro rfl; exact Nat.lt_succ_of_le below)⟩

/-! ### The decoder within a character -/

/-- The characters met by a decoder, including the one it is within. -/
def Decoder.count (d : Decoder) : Nat :=
  match d.state with
  | .between => d.done.length
  | .inside _ => d.done.length + 1

theorem count_first (done : List Char) (b : UInt8) : (first done b).count = done.length + 1 := by
  unfold first
  split
  · rfl
  · split <;> rfl

theorem le_count_feed (d : Decoder) (b : UInt8) : d.count ≤ (feed d b).count := by
  obtain ⟨state, done⟩ := d
  cases state with
  | between =>
    change done.length ≤ (first done b).count
    rw [count_first]
    exact Nat.le_succ _
  | inside lead =>
    simp only [feed]
    split_ifs
    · exact Nat.le_refl _
    · exact Nat.le_refl _
    · rw [count_first]
      exact Nat.le_succ _

theorem le_count_foldl (d : Decoder) (bytes : Bytes) : d.count ≤ (bytes.foldl feed d).count := by
  induction bytes generalizing d with
  | nil => exact Nat.le_refl _
  | cons b bytes ih => exact Nat.le_trans (le_count_feed d b) (ih _)

theorem count_within {c : Char} (whole : String.utf8EncodeChar c = piece ++ b :: more) :
    (feed (piece.foldl feed ⟨.between, []⟩) b).count ≤ 1 := by
  have upon := le_count_foldl (feed (piece.foldl feed ⟨.between, []⟩) b) more
  have read := feed_char c []
  rw [whole, List.foldl_append, List.foldl_cons] at read
  rw [read] at upon
  exact upon

/-- Bytes after which the decoder is within a character. -/
inductive Reads : Bytes → Lead → Prop where
  | first {b : UInt8} {lead : Lead} (leads : lead? b = some lead) : Reads [b] lead
  | next {piece : Bytes} {lead : Lead} {b : UInt8} (reads : Reads piece lead) (owes : 1 < lead.owed)
      (least : lead.low ≤ b) (most : b ≤ lead.high) :
      Reads (piece ++ [b]) ⟨lead.owed - 1, 0x80, 0xBF, lead.bits * 64 + (b.toNat - 0x80)⟩

theorem feed_awaited (done : List Char) (owes : 1 < lead.owed) (least : lead.low ≤ b) (most : b ≤ lead.high) :
    feed ⟨.inside lead, done⟩ b =
      ⟨.inside ⟨lead.owed - 1, 0x80, 0xBF, lead.bits * 64 + (b.toNat - 0x80)⟩, done⟩ := by
  simp only [feed, if_pos (And.intro least most), if_neg (Nat.not_le.2 owes)]

theorem feed_unawaited (done : List Char) (other : ¬ (lead.low ≤ b ∧ b ≤ lead.high)) :
    feed ⟨.inside lead, done⟩ b = feed ⟨.between, replacement :: done⟩ b := by
  simp only [feed, if_neg other]

theorem feed_completing (done : List Char) (last : lead.owed ≤ 1) (least : lead.low ≤ b) (most : b ≤ lead.high) :
    ∃ c, feed ⟨.inside lead, done⟩ b = ⟨.between, c :: done⟩ := by
  simp only [feed, if_pos (And.intro least most), if_pos last]
  exact ⟨_, rfl⟩

theorem feed_unled (unled : lead? b = none) (done : List Char) :
    ∃ c, feed ⟨.between, done⟩ b = ⟨.between, c :: done⟩ := by
  simp only [feed, first, unled]
  split <;> exact ⟨_, rfl⟩

theorem Reads.foldl (reads : Reads piece lead) (done : List Char) :
    piece.foldl feed ⟨.between, done⟩ = ⟨.inside lead, done⟩ := by
  induction reads with
  | first leads => exact feed_lead (large_of_lead _ _ leads) leads
  | next _ owes least most ih =>
    rw [List.foldl_append, ih]
    exact feed_awaited done owes least most

theorem Reads.opens (reads : Reads piece lead) : Open lead.owed piece lead.low lead.high := by
  induction reads with
  | first leads => exact open_lead leads
  | @next piece lead b _ owes least most ih =>
    obtain ⟨n, owed⟩ : ∃ n, lead.owed = n + 2 := ⟨lead.owed - 2, by omega⟩
    rw [owed] at ih ⊢
    exact ih b least most

theorem eq_nil_of_count {done : List Char} (single : (feed ⟨.between, done⟩ b).count ≤ 1) : done = [] := by
  have counted : (feed ⟨.between, done⟩ b).count = done.length + 1 := count_first done b
  exact List.length_eq_zero_iff.1 (by omega)

theorem exists_reads {c : Char} (present : piece ≠ []) (whole : String.utf8EncodeChar c = piece ++ b :: more) :
    ∃ lead, Reads piece lead ∧ lead.low ≤ b ∧ b ≤ lead.high := by
  induction piece using List.reverseRecOn generalizing b more with
  | nil => exact absurd rfl present
  | append_singleton front x ih =>
    have single := count_within whole
    have within : ∃ lead, Reads (front ++ [x]) lead := by
      rw [List.foldl_append] at single
      rcases eq_or_ne front [] with rfl | filled
      · cases leads : lead? x with
        | some lead => exact ⟨lead, .first leads⟩
        | none =>
          obtain ⟨d, upon⟩ := feed_unled leads []
          rw [List.foldl_nil, List.foldl_cons, List.foldl_nil, upon] at single
          cases eq_nil_of_count single
      · rw [List.append_assoc] at whole
        obtain ⟨lead, reads, least, most⟩ := ih filled whole
        rcases Nat.lt_or_ge 1 lead.owed with owes | last
        · exact ⟨_, .next reads owes least most⟩
        · obtain ⟨d, upon⟩ := feed_completing [] last least most
          rw [reads.foldl, List.foldl_cons, List.foldl_nil, upon] at single
          cases eq_nil_of_count single
    obtain ⟨lead, reads⟩ := within
    refine ⟨lead, reads, ?_⟩
    by_contra other
    rw [reads.foldl, feed_unawaited [] other] at single
    cases eq_nil_of_count single

/-! ### Rows of bytes -/

theorem feed_stray (alone : ¬ Begins [b]) (done : List Char) :
    feed ⟨.between, done⟩ b = ⟨.between, replacement :: done⟩ := by
  have large : ¬ b < 0x80 := by
    intro small
    obtain ⟨c, encoded⟩ := exists_char small
    exact alone ⟨c, [], encoded⟩
  have unled : lead? b = none := by
    rw [Option.eq_none_iff_forall_ne_some]
    intro lead leads
    exact alone ((open_lead leads).begins (UInt8.le_refl _) (low_le_high _ _ leads)).front
  simp only [feed, first, if_neg large, unled]

theorem Shown.foldl {chars : List Char} (shown : Shown bytes chars) (done : List Char) :
    (bytes.foldl feed ⟨.between, done⟩).finish = done.reverse ++ chars := by
  induction shown generalizing done with
  | nil => exact (List.append_nil _).symm
  | @char c bytes chars _ ih => rw [List.foldl_append, feed_char, ih, List.reverse_cons, List.append_assoc]; rfl
  | @broken piece bytes chars present begins unfinished stops _ ih =>
    obtain ⟨c, more, whole⟩ := begins
    cases more with
    | nil => exact absurd (whole.trans (List.append_nil _)) (unfinished c)
    | cons b more =>
      obtain ⟨lead, reads, -⟩ := exists_reads present whole
      have upon := ih (replacement :: done)
      rw [List.reverse_cons, List.append_assoc] at upon
      rw [List.foldl_append, reads.foldl]
      cases bytes with
      | nil => exact upon
      | cons x bytes =>
        have other : ¬ (lead.low ≤ x ∧ x ≤ lead.high) :=
          fun within => stops x rfl (reads.opens.begins within.1 within.2)
        rw [List.foldl_cons, feed_unawaited done other]
        exact upon
  | @stray b bytes chars alone _ ih =>
    rw [List.foldl_cons, feed_stray alone, ih, List.reverse_cons, List.append_assoc]
    rfl

/-- A piece that begins a character extends to a longest such prefix of the bytes. -/
theorem exists_longest (begins : Begins piece) (bytes : Bytes) : ∃ front back, bytes = front ++ back ∧
    Begins (piece ++ front) ∧ ∀ b ∈ back.head?, ¬ Begins (piece ++ front ++ [b]) := by
  induction bytes generalizing piece with
  | nil => exact ⟨[], [], rfl, by rwa [List.append_nil], by simp⟩
  | cons b bytes ih =>
    by_cases further : Begins (piece ++ [b])
    · obtain ⟨front, back, rfl, reach, stops⟩ := ih further
      simp only [List.append_assoc, List.singleton_append] at reach stops
      exact ⟨b :: front, back, rfl, reach, by simpa using stops⟩
    · exact ⟨[], b :: bytes, rfl, by rwa [List.append_nil], by simpa using further⟩

theorem exists_shown (bytes : Bytes) : ∃ chars, Shown bytes chars := by
  match bytes with
  | [] => exact ⟨[], .nil⟩
  | b :: bytes =>
    by_cases char : ∃ c more, b :: bytes = String.utf8EncodeChar c ++ more
    · obtain ⟨c, more, whole⟩ := char
      have shorter : more.length < (b :: bytes).length := by
        rw [whole, List.length_append, String.length_utf8EncodeChar]
        exact Nat.lt_add_of_pos_left c.utf8Size_pos
      obtain ⟨chars, shown⟩ := exists_shown more
      exact ⟨c :: chars, whole ▸ .char shown⟩
    · by_cases begins : Begins [b]
      · obtain ⟨front, back, parts, reach, stops⟩ := exists_longest begins bytes
        have shorter : back.length < (b :: bytes).length := by
          rw [parts, ← List.cons_append, List.length_append]
          exact Nat.lt_add_of_pos_left (Nat.succ_pos _)
        have unfinished : ∀ c, String.utf8EncodeChar c ≠ b :: front := by
          intro c finished
          exact char ⟨c, back, by rw [finished, parts]; rfl⟩
        obtain ⟨chars, shown⟩ := exists_shown back
        refine ⟨replacement :: chars, ?_⟩
        rw [parts]
        exact .broken (List.cons_ne_nil b front) reach unfinished stops shown
      · obtain ⟨chars, shown⟩ := exists_shown bytes
        exact ⟨replacement :: chars, .stray begins shown⟩
termination_by bytes.length
decreasing_by
  · exact shorter
  · exact shorter
  · exact Nat.lt_succ_self _

/-- Lossy decoding gives the only characters that can be shown for some bytes. -/
theorem decodeLossy_eq_iff {text : String} : decodeLossy bytes = text ↔ Shown bytes text.toList := by
  have shows : ∀ {chars}, Shown bytes chars → (decodeLossy bytes).toList = chars := by
    intro chars shown
    rw [decodeLossy, String.toList_ofList, Decoder.start, shown.foldl]
    rfl
  constructor
  · rintro rfl
    obtain ⟨chars, shown⟩ := exists_shown bytes
    rwa [shows shown]
  · intro shown
    rw [← String.ofList_toList (s := text), ← shows shown, String.ofList_toList]

end AuditTrail.Utf8
