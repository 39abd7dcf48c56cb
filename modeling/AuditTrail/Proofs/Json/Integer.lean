import AuditTrail.Json.Text
import AuditTrail.Proofs.Json.Spelling
import Mathlib.Data.Nat.Digits.Defs
import Mathlib.Tactic.Ring

/-! The integer that a JSON number stands for. `integerOf?_numeral` says which numbers are read as
integers: those of any length without a fraction and without an exponent, except `-0`. -/
namespace AuditTrail.Json

/-- The value of a run of digits. -/
def worth (figures : Bytes) : Nat := Nat.ofDigits 10 (figures.reverse.map fun b => b.toNat - 0x30)

def integer (sign whole : Bytes) : Int := if sign = [0x2D] then -worth whole else worth whole

theorem worth_cons (b : UInt8) (rest : Bytes) :
    worth (b :: rest) = (b.toNat - 0x30) * 10 ^ rest.length + worth rest := by
  rw [worth, worth, List.reverse_cons, List.map_append, Nat.ofDigits_append, List.length_map,
    List.length_reverse, List.map_singleton, Nat.ofDigits_singleton]
  ring

theorem foldl_none (read : Nat → UInt8 → Option Nat) (bytes : Bytes) :
    bytes.foldl (fun n b => n.bind fun n => read n b) none = none := by
  induction bytes with
  | nil => rfl
  | cons b rest ih => exact ih

theorem foldl_digits {bytes : Bytes} {read n : Nat} :
    bytes.foldl (fun n b => n.bind fun n =>
      if Number.isDigit b then some (n * 10 + (b.toNat - 0x30)) else none) (some read) = some n ↔
    (∀ b ∈ bytes, Number.isDigit b = true) ∧ n = read * 10 ^ bytes.length + worth bytes := by
  induction bytes generalizing read with
  | nil => simp [worth, Eq.comm (a := n)]
  | cons b rest ih =>
    rw [List.foldl_cons, Option.bind_some, List.forall_mem_cons]
    by_cases digit : Number.isDigit b = true
    · have total : (read * 10 + (b.toNat - 0x30)) * 10 ^ rest.length + worth rest =
          read * 10 ^ (b :: rest).length + worth (b :: rest) := by
        rw [worth_cons, List.length_cons]
        ring
      rw [if_pos digit, ih, total]
      simp only [digit, true_and]
    · rw [if_neg digit, foldl_none]
      simp [digit]

theorem digits?_eq_some {bytes : Bytes} {n : Nat} :
    digits? bytes = some n ↔ Figures bytes ∧ n = worth bytes := by
  unfold digits?
  cases bytes with
  | nil => simp [Figures]
  | cons b rest =>
    rw [List.isEmpty_cons, if_neg Bool.false_ne_true, foldl_digits]
    simp [Figures]

theorem worth_pos {figures : Bytes} (run : Figures figures) (head : figures.head? ≠ some 0x30) :
    0 < worth figures := by
  cases figures with
  | nil => exact absurd rfl run.1
  | cons b rest =>
    have digit := run.2 b List.mem_cons_self
    have first : 0x30 < b.toNat := by
      simp [Number.isDigit, UInt8.le_iff_toNat_le] at digit
      have other : b.toNat ≠ 0x30 := fun same => head (congrArg some (UInt8.toNat_inj.1 same))
      omega
    rw [worth_cons]
    have := Nat.mul_pos (Nat.sub_pos_of_lt first) (Nat.pow_pos (n := rest.length) (show 0 < 10 by decide))
    omega

variable {sign whole fraction power : Bytes}

namespace Numeral

variable (numeral : Numeral sign whole fraction power)

include numeral

theorem figures : Figures whole := by
  rcases numeral.whole with rfl | ⟨run, -⟩
  · exact ⟨List.cons_ne_nil 0x30 [], List.forall_mem_singleton.2 (by decide)⟩
  · exact run

theorem worth_eq_zero : worth whole = 0 ↔ whole = [0x30] := by
  rcases numeral.whole with rfl | ⟨run, head⟩
  · simp [worth]
  · constructor
    · intro zero
      exact absurd zero (worth_pos run head).ne'
    · rintro rfl
      rfl

theorem plain : Figures (whole ++ fraction ++ power) ↔ fraction = [] ∧ power = [] := by
  constructor
  · intro run
    constructor
    · rcases numeral.fraction with noFraction | ⟨figures, -, rfl⟩
      · exact noFraction
      · exact absurd (run.2 0x2E (by simp)) (by decide)
    · rcases numeral.power with noPower | ⟨mark, sign, figures, letter, -, -, rfl⟩
      · exact noPower
      · have digit := run.2 mark (by simp)
        rcases letter with rfl | rfl <;> exact absurd digit (by decide)
  · rintro ⟨rfl, rfl⟩
    simpa using numeral.figures

theorem digits?_whole {n : Nat} :
    digits? (whole ++ fraction ++ power) = some n ↔ fraction = [] ∧ power = [] ∧ n = worth whole := by
  rw [digits?_eq_some, numeral.plain, and_assoc]
  refine and_congr_right fun noFraction => and_congr_right fun noPower => ?_
  rw [noFraction, noPower, List.append_nil, List.append_nil]

theorem unsigned :
    integerOf? (whole ++ fraction ++ power) = (digits? (whole ++ fraction ++ power)).map Int.ofNat := by
  obtain ⟨some_, digits⟩ := numeral.figures
  obtain ⟨b, rest, rfl⟩ := List.exists_cons_of_ne_nil some_
  unfold integerOf?
  split
  · next sign =>
    obtain ⟨rfl, -⟩ := List.cons.inj sign
    exact absurd (digits 0x2D List.mem_cons_self) (by decide)
  · rfl

end Numeral

/-- A number is read as an integer if it has no fraction and no exponent and is not `-0`. -/
theorem integerOf?_numeral (numeral : Numeral sign whole fraction power) {z : Int} :
    integerOf? (sign ++ whole ++ fraction ++ power) = some z ↔
      fraction = [] ∧ power = [] ∧ ¬(sign = [0x2D] ∧ whole = [0x30]) ∧ z = integer sign whole := by
  rcases numeral.sign with rfl | rfl
  · rw [List.nil_append, numeral.unsigned, Option.map_eq_some_iff]
    constructor
    · rintro ⟨n, read, rfl⟩
      obtain ⟨noFraction, noPower, rfl⟩ := numeral.digits?_whole.1 read
      exact ⟨noFraction, noPower, by simp, by simp [integer]⟩
    · rintro ⟨noFraction, noPower, -, rfl⟩
      exact ⟨worth whole, numeral.digits?_whole.2 ⟨noFraction, noPower, rfl⟩, by simp [integer]⟩
  · have signed : integerOf? ([0x2D] ++ whole ++ fraction ++ power) =
        (digits? (whole ++ fraction ++ power)).bind fun n => if n = 0 then none else some (-(n : Int)) := by
      simp only [List.cons_append, List.nil_append, integerOf?]
    rw [signed, Option.bind_eq_some_iff]
    constructor
    · rintro ⟨n, read, given⟩
      obtain ⟨noFraction, noPower, rfl⟩ := numeral.digits?_whole.1 read
      split at given
      · cases given
      · next nonzero =>
        refine ⟨noFraction, noPower, fun zero => nonzero (numeral.worth_eq_zero.2 zero.2), ?_⟩
        rw [← Option.some.inj given, integer, if_pos rfl]
    · rintro ⟨noFraction, noPower, nonzero, rfl⟩
      refine ⟨worth whole, numeral.digits?_whole.2 ⟨noFraction, noPower, rfl⟩, ?_⟩
      rw [if_neg fun zero => nonzero ⟨rfl, numeral.worth_eq_zero.1 zero⟩, integer, if_pos rfl]

end AuditTrail.Json
