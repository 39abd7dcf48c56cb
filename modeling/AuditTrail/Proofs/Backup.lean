import AuditTrail.Backup
import AuditTrail.Proofs.Files.Find

/-! The names of backups. A suffix can be read back from its digits, so different suffixes give
different names. -/
namespace AuditTrail.Backup

open AuditTrail.Path (slash)

theorem encode_digit {c : Char} (digit : c.isDigit = true) :
    String.utf8EncodeChar c = [c.val.toUInt8] := by
  have bounds : 48 ≤ c.val.toNat ∧ c.val.toNat ≤ 57 := by
    simpa [Char.isDigit, UInt32.le_iff_toNat_le] using digit
  apply String.utf8EncodeChar_eq_singleton
  rw [Char.utf8Size_eq_one_iff, UInt32.le_iff_toNat_le]
  have limit : (127 : UInt32).toNat = 127 := rfl
  omega

theorem encode_digits {digits : List Char} (all : ∀ c ∈ digits, c.isDigit = true) :
    digits.flatMap String.utf8EncodeChar = digits.map (·.val.toUInt8) := by
  induction digits with
  | nil => rfl
  | cons c rest ih =>
    rw [List.flatMap_cons, encode_digit (all c List.mem_cons_self),
      ih fun d member => all d (List.mem_cons_of_mem _ member)]
    rfl

theorem isDigit_toDigits (n : Nat) : ∀ c ∈ Nat.toDigits 10 n, c.isDigit = true :=
  fun _ member => Nat.isDigit_of_mem_toDigits (by decide) (by decide) member

theorem decimal_eq (n : Nat) : decimal n = (Nat.toDigits 10 n).map (·.val.toUInt8) := by
  rw [decimal, Utf8.encode, ← encode_digits (isDigit_toDigits n), ← Nat.toList_repr]
  rfl

theorem decimal_ne_nil (n : Nat) : decimal n ≠ [] := by
  rw [decimal_eq]
  simp

theorem toNat_digit {c : Char} (digit : c.isDigit = true) :
    48 ≤ c.val.toUInt8.toNat ∧ c.val.toUInt8.toNat ≤ 57 ∧ c.val.toUInt8.toNat = c.toNat := by
  have bounds : 48 ≤ c.val.toNat ∧ c.val.toNat ≤ 57 := by
    simpa [Char.isDigit, UInt32.le_iff_toNat_le] using digit
  have small : c.val.toUInt8.toNat = c.val.toNat := by
    rw [UInt32.toNat_toUInt8]
    omega
  exact ⟨by omega, by omega, small⟩

theorem isDigit_of_mem {digits : List Char} (all : ∀ c ∈ digits, c.isDigit = true) :
    ∀ b ∈ digits.map (·.val.toUInt8), isDigit b = true := by
  intro b member
  obtain ⟨c, listed, rfl⟩ := List.mem_map.1 member
  obtain ⟨low, high, -⟩ := toNat_digit (all c listed)
  simp only [isDigit, Bool.and_eq_true, decide_eq_true_eq, UInt8.le_iff_toNat_le]
  exact ⟨low, high⟩

theorem isDigit_decimal (n : Nat) : ∀ b ∈ decimal n, isDigit b = true :=
  decimal_eq n ▸ isDigit_of_mem (isDigit_toDigits n)

theorem value_digits {digits : List Char} (all : ∀ c ∈ digits, c.isDigit = true) (init : Nat) :
    (digits.map (·.val.toUInt8)).foldl (fun n b => n * 10 + (b.toNat - 0x30)) init =
      Nat.ofDigitChars 10 digits init := by
  induction digits generalizing init with
  | nil => rfl
  | cons c rest ih =>
    obtain ⟨-, -, same⟩ := toNat_digit (all c List.mem_cons_self)
    rw [List.map_cons, List.foldl_cons, Nat.ofDigitChars_cons,
      ih fun d member => all d (List.mem_cons_of_mem _ member), same, Nat.mul_comm]
    rfl

@[simp] theorem value_decimal (n : Nat) : value (decimal n) = n := by
  rw [value, decimal_eq, value_digits (isDigit_toDigits n), Nat.ofDigitChars_ten_toDigits]

theorem decimal_injective {m n : Nat} (same : decimal m = decimal n) : m = n := by
  rw [← value_decimal m, same, value_decimal]

/-- The last component of a path, as it is spelled. -/
def lead (live : Path) : Bytes := (live.bytes.splitOn slash).getLast (List.splitOn_ne_nil _ _)

/-- The file name of the backup with a suffix. -/
def name (live : Path) (suffix : Nat) : Bytes := lead live ++ point :: decimal suffix

theorem name_injective {live : Path} {m n : Nat} (same : name live m = name live n) : m = n := by
  have rest := List.append_cancel_left same
  exact decimal_injective (List.cons.inj rest).2

theorem slash_not_mem (suffix : Nat) : slash ∉ point :: decimal suffix := by
  intro member
  rcases List.mem_cons.1 member with equal | digit
  · exact absurd equal (by decide)
  · exact absurd (isDigit_decimal suffix slash digit) (by decide)

theorem ofPiece_digits (base : Bytes) {digits : Bytes} (present : digits ≠ [])
    (all : ∀ b ∈ digits, isDigit b = true) :
    Files.Step.ofPiece (base ++ point :: digits) = .name (base ++ point :: digits) := by
  have last : ∀ b, (base ++ point :: digits).getLast? = some b → isDigit b = true := by
    intro b last
    rw [List.append_cons, List.getLast?_append_of_ne_nil _ present] at last
    exact all b (List.mem_of_getLast? last)
  unfold Files.Step.ofPiece
  rw [if_neg, if_neg]
  · intro dots
    exact absurd (last Path.dot (by rw [dots]; rfl)) (by decide)
  · rintro (empty | dot)
    · simp at empty
    · exact absurd (last Path.dot (by rw [dot]; rfl)) (by decide)

theorem splitOn_append {bytes more : Bytes} (free : slash ∉ more) :
    (bytes ++ more).splitOn slash = (bytes.splitOn slash).dropLast ++
      [(bytes.splitOn slash).getLast (List.splitOn_ne_nil _ _) ++ more] := by
  induction measured : bytes.length using Nat.strongRecOn generalizing bytes with
  | ind size shorter =>
    by_cases divided : slash ∈ bytes
    · obtain ⟨piece, rest, rfl, whole⟩ := List.eq_append_cons_of_mem divided
      have less : rest.length < size := by
        rw [← measured, List.length_append, List.length_cons]
        omega
      have more_rest := shorter _ less rfl
      simp only [List.append_assoc, List.cons_append,
        List.splitOn_append_cons_self_of_not_mem whole, more_rest]
      rw [List.dropLast_cons_of_ne_nil (List.splitOn_ne_nil _ _),
        List.getLast_cons (List.splitOn_ne_nil _ _)]
      rfl
    · have whole : slash ∉ bytes ++ more := by simp [divided, free]
      simp [List.splitOn_eq_singleton divided, List.splitOn_eq_singleton whole]

/-- The steps to a log without the last. -/
def approach (live : Path) : List Files.Step :=
  (live.bytes.splitOn slash).dropLast.map Files.Step.ofPiece

theorem steps_lead (live : Path) : Files.steps live = approach live ++ [.ofPiece (lead live)] := by
  rw [Files.steps, approach, lead, ← List.map_singleton, ← List.map_append,
    List.dropLast_append_getLast]

theorem steps_path (live : Path) (suffix : Nat) :
    Files.steps (path live suffix) = approach live ++ [.name (name live suffix)] := by
  rw [name, ← ofPiece_digits _ (decimal_ne_nil suffix) (isDigit_decimal suffix), Files.steps, path,
    splitOn_append (slash_not_mem suffix), List.map_append]
  rfl

/-- The path of a backup leads to a place with the backup's name. -/
theorem head?_of_find {f : Files} {live : Path} {suffix : Nat} {found : Files.Found}
    (leads : f.find false (path live suffix) = .ok found) :
    found.place.head? = some (name live suffix) :=
  Files.head?_of_find (steps_path live suffix) leads

theorem head?_ne_name {f : Files} {live : Path} {suffix n : Nat} {place : Place} (sound : f.Sound)
    (leads : f.find false live = .ok ⟨place, some (.file n)⟩) :
    place.head? ≠ some (name live suffix) := by
  intro named
  have spelled := steps_lead live
  cases last : Files.Step.ofPiece (lead live) with
  | name piece =>
    rw [last] at spelled
    rw [Files.head?_of_find spelled leads] at named
    have longer := congrArg List.length (Option.some.inj named)
    rw [← Files.Step.eq_of_ofPiece last] at longer
    simp [name] at longer
  | stay | up =>
    rw [last] at spelled
    obtain ⟨-, -, -, walked⟩ := Files.find_eq_ok.1 leads
    rw [spelled] at walked
    cases walked.dotted (by simp) sound.rooted

end AuditTrail.Backup
