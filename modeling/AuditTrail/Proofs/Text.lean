import AuditTrail.Unicode.Blank
import AuditTrail.Utf8
import Mathlib.Data.List.Basic
import Mathlib.Data.List.TakeWhile

/-! Texts and their bytes, and trimming of blanks. -/
namespace AuditTrail

theorem not_mem_of_mem_splitOn {c : Char} {chars piece : List Char} (cut : piece ∈ chars.splitOn c) :
    c ∉ piece := by
  induction size : chars.length using Nat.strongRecOn generalizing chars with
  | ind n shorter =>
    by_cases divided : c ∈ chars
    · obtain ⟨front, rest, rfl, whole⟩ := List.eq_append_cons_of_mem divided
      have less : rest.length < n := by
        rw [← size, List.length_append, List.length_cons]
        omega
      rw [List.splitOn_append_cons_self_of_not_mem whole] at cut
      rcases List.mem_cons.1 cut with rfl | later
      · exact whole
      · exact shorter _ less later rfl
    · rw [List.splitOn_eq_singleton divided, List.mem_singleton] at cut
      exact cut ▸ divided

namespace Unicode

variable {chars : List Char} {c : Char}

/-- No blank stands at either end. -/
structure Tight (chars : List Char) : Prop where
  first : ∀ c, chars.head? = some c → isBlank c = false
  last : ∀ c, chars.getLast? = some c → isBlank c = false

theorem Tight.cons_append {d : Char} {middle back : List Char} (first : isBlank d = false)
    (last : Tight back) (present : back ≠ []) : Tight (d :: middle ++ back) where
  first := by
    rintro c ⟨⟩
    exact first
  last c ends := by
    rw [List.getLast?_append_of_ne_nil _ present] at ends
    exact last.last c ends

theorem dropWhile_eq_self {p : Char → Bool} (first : ∀ c, chars.head? = some c → p c = false) :
    chars.dropWhile p = chars := by
  cases chars with
  | nil => rfl
  | cons c rest => rw [List.dropWhile_cons, first c rfl]; rfl

theorem trimChars_eq_self (tight : Tight chars) : trimChars chars = chars := by
  rw [trimChars, dropWhile_eq_self tight.first, dropWhile_eq_self, List.reverse_reverse]
  intro c first
  rw [List.head?_reverse] at first
  exact tight.last c first

theorem exists_trimChars (chars : List Char) : ∃ front back, chars = front ++ trimChars chars ++ back ∧
    (∀ c ∈ front, isBlank c = true) ∧ ∀ c ∈ back, isBlank c = true := by
  let rest := chars.dropWhile isBlank
  have blank : ∀ {chars : List Char}, ∀ c ∈ chars.takeWhile isBlank, isBlank c = true :=
    fun c member => List.mem_takeWhile_imp member
  refine ⟨chars.takeWhile isBlank, (rest.reverse.takeWhile isBlank).reverse, ?_, blank, ?_⟩
  · have cut : trimChars chars ++ (rest.reverse.takeWhile isBlank).reverse = rest := by
      rw [trimChars, ← List.reverse_append, List.takeWhile_append_dropWhile, List.reverse_reverse]
    rw [List.append_assoc, cut, List.takeWhile_append_dropWhile]
  · exact fun c member => blank c (List.mem_reverse.1 member)

theorem mem_of_mem_trimChars (member : c ∈ trimChars chars) : c ∈ chars := by
  obtain ⟨front, back, split, -⟩ := exists_trimChars chars
  rw [split]
  exact List.mem_append_left _ (List.mem_append_right _ member)

theorem tight_trimChars (chars : List Char) : Tight (trimChars chars) := by
  have unblank : ∀ (chars : List Char) (c : Char), (chars.dropWhile isBlank).head? = some c →
      isBlank c = false := by
    intro chars c first
    have := List.head?_dropWhile_not isBlank chars
    rw [first] at this
    simpa using this
  constructor
  · intro c first
    have within : trimChars chars <+: chars.dropWhile isBlank := by
      rw [trimChars, ← List.reverse_suffix, List.reverse_reverse]
      exact List.dropWhile_suffix _
    obtain ⟨more, whole⟩ := within
    refine unblank chars c ?_
    rw [← whole, List.head?_append, first]
    rfl
  · intro c last
    rw [trimChars, List.getLast?_reverse] at last
    exact unblank _ c last

theorem trimChars_eq_self_iff : trimChars chars = chars ↔ Tight chars :=
  ⟨fun same => same ▸ tight_trimChars chars, trimChars_eq_self⟩

end Unicode

namespace Utf8

open Decoder

variable {done : List Char} {lead : Lead} {low high : UInt8} {owed bits n : Nat}

theorem feed_inside (small : n < 64) (least : low.toNat ≤ n + 128) (most : n + 128 ≤ high.toNat) :
    feed ⟨.inside ⟨owed, low, high, bits⟩, done⟩ (UInt8.ofNat (n + 128)) =
      if owed ≤ 1 then ⟨.between, Char.ofNat (bits * 64 + n) :: done⟩
      else ⟨.inside ⟨owed - 1, 0x80, 0xBF, bits * 64 + n⟩, done⟩ := by
  have value : (UInt8.ofNat (n + 128)).toNat = n + 128 :=
    UInt8.toNat_ofNat_of_lt' (by change _ < 256; omega)
  have within : low ≤ UInt8.ofNat (n + 128) ∧ UInt8.ofNat (n + 128) ≤ high := by
    rw [UInt8.le_iff_toNat_le, UInt8.le_iff_toNat_le, value]
    exact ⟨least, most⟩
  have added : (UInt8.ofNat (n + 128)).toNat - 0x80 = n := by omega
  simp only [feed, if_pos within, added]

theorem feed_last (small : n < 64) :
    feed ⟨.inside ⟨1, 0x80, 0xBF, bits⟩, done⟩ (UInt8.ofNat (n + 128)) =
      ⟨.between, Char.ofNat (bits * 64 + n) :: done⟩ :=
  feed_inside small (Nat.le_add_left _ _) (by change _ ≤ 191; omega)

theorem feed_next (small : n < 64) (least : low.toNat ≤ n + 128) (most : n + 128 ≤ high.toNat) :
    feed ⟨.inside ⟨owed + 2, low, high, bits⟩, done⟩ (UInt8.ofNat (n + 128)) =
      ⟨.inside ⟨owed + 1, 0x80, 0xBF, bits * 64 + n⟩, done⟩ := by
  rw [feed_inside small least most, if_neg (by omega)]
  rfl

theorem feed_lead {b : UInt8} (large : ¬ b < 0x80) (leads : lead? b = some lead) :
    feed ⟨.between, done⟩ b = ⟨.inside lead, done⟩ := by
  simp only [feed, first, if_neg large, leads]

theorem feed_two : ∀ n < 32, 2 ≤ n → feed ⟨.between, done⟩ (UInt8.ofNat (n + 192)) =
    ⟨.inside ⟨1, 0x80, 0xBF, n⟩, done⟩ := by
  intro n small least
  refine feed_lead ?_ ?_ <;> revert n <;> decide

theorem feed_three : ∀ n < 16, feed ⟨.between, done⟩ (UInt8.ofNat (n + 224)) =
    ⟨.inside ⟨2, if n = 0 then 0xA0 else 0x80, if n = 13 then 0x9F else 0xBF, n⟩, done⟩ := by
  intro n small
  refine feed_lead ?_ ?_ <;> revert n <;> decide

theorem feed_four : ∀ n < 5, feed ⟨.between, done⟩ (UInt8.ofNat (n + 240)) =
    ⟨.inside ⟨3, if n = 0 then 0x90 else 0x80, if n = 4 then 0x8F else 0xBF, n⟩, done⟩ := by
  intro n small
  refine feed_lead ?_ ?_ <;> revert n <;> decide

/-- Decoding the bytes of a character gives the character. -/
theorem feed_char (c : Char) (done : List Char) :
    (String.utf8EncodeChar c).foldl feed ⟨.between, done⟩ = ⟨.between, c :: done⟩ := by
  obtain ⟨n, value⟩ : ∃ n, c.val.toNat = n := ⟨_, rfl⟩
  have same : Char.ofNat n = c := by rw [← value]; exact Char.ofNat_toNat c
  have valid : n < 0xD800 ∨ 0xDFFF < n ∧ n < 0x110000 := value ▸ c.valid
  simp only [String.utf8EncodeChar, value]
  split_ifs with one two three
  · have small : (UInt8.ofNat n).toNat = n := UInt8.toNat_ofNat_of_lt' (by change _ < 256; omega)
    have ascii : UInt8.ofNat n < 0x80 := by
      rw [UInt8.lt_iff_toNat_lt, small]
      exact Nat.lt_succ_of_le one
    simp only [List.foldl_cons, List.foldl_nil, feed, first, if_pos ascii, small, same]
  · have whole : n / 64 % 32 * 64 + n % 64 = n := by omega
    simp only [List.foldl_cons, List.foldl_nil]
    rw [feed_two _ (by omega) (by omega), feed_last (by omega), whole, same]
  · have whole : (n / 4096 % 16 * 64 + n / 64 % 64) * 64 + n % 64 = n := by omega
    -- A lead of zero excludes overlong spellings, and a lead of thirteen the surrogates.
    have least : (if n / 4096 % 16 = 0 then 0xA0 else 0x80 : UInt8).toNat ≤ n / 64 % 64 + 128 := by
      split_ifs
      · change 160 ≤ _; omega
      · exact Nat.le_add_left _ _
    have most : n / 64 % 64 + 128 ≤ (if n / 4096 % 16 = 13 then 0x9F else 0xBF : UInt8).toNat := by
      split_ifs
      · change _ ≤ 159; omega
      · change _ ≤ 191; omega
    simp only [List.foldl_cons, List.foldl_nil]
    rw [feed_three _ (by omega), feed_next (by omega) least most, feed_last (by omega), whole, same]
  · have whole : ((n / 262144 % 8 * 64 + n / 4096 % 64) * 64 + n / 64 % 64) * 64 + n % 64 = n := by
      omega
    have least : (if n / 262144 % 8 = 0 then 0x90 else 0x80 : UInt8).toNat ≤ n / 4096 % 64 + 128 := by
      split_ifs
      · change 144 ≤ _; omega
      · exact Nat.le_add_left _ _
    have most : n / 4096 % 64 + 128 ≤ (if n / 262144 % 8 = 4 then 0x8F else 0xBF : UInt8).toNat := by
      split_ifs
      · change _ ≤ 143; omega
      · change _ ≤ 191; omega
    simp only [List.foldl_cons, List.foldl_nil]
    rw [feed_four _ (by omega), feed_next (by omega) least most,
      feed_next (by omega) (Nat.le_add_left _ _) (by change _ ≤ 191; omega), feed_last (by omega),
      whole, same]

theorem foldl_feed (chars done : List Char) :
    (chars.flatMap String.utf8EncodeChar).foldl feed ⟨.between, done⟩ =
      ⟨.between, chars.reverse ++ done⟩ := by
  induction chars generalizing done with
  | nil => rfl
  | cons c rest ih =>
    rw [List.flatMap_cons, List.foldl_append, feed_char, ih, List.reverse_cons, List.append_assoc]
    rfl

/-- The bytes of a text are shown as that text. -/
@[simp] theorem decodeLossy_encode (text : String) : decodeLossy (encode text) = text := by
  rw [decodeLossy, encode, Decoder.start, foldl_feed, finish, List.append_nil, List.reverse_reverse,
    String.ofList_toList]

theorem encode_injective {text other : String} (same : encode text = encode other) : text = other := by
  rw [← decodeLossy_encode text, same, decodeLossy_encode]

end Utf8

end AuditTrail
