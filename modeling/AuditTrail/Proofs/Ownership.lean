import AuditTrail.Proofs.Expiry
import AuditTrail.Proofs.Text

/-! Which log a backup belongs to. Its name is the name of the log, a dot and digits, and it can be
split in one way only. So several logs can share a directory, and a sweep removes only backups of
its own log. -/
namespace AuditTrail

namespace Backup

variable {base base' name digits digits' : Bytes} {t t' : Nat}

theorem point_not_mem (all : ∀ b ∈ digits, isDigit b = true) : point ∉ digits :=
  fun member => absurd (all point member) (by decide)

theorem cut_last (free : point ∉ digits) (free' : point ∉ digits')
    (same : base ++ point :: digits = base' ++ point :: digits') : base = base' ∧ digits = digits' := by
  rw [List.append_eq_append_iff] at same
  rcases same with ⟨more, rfl, split⟩ | ⟨more, rfl, split⟩
  · cases more with
    | nil => simpa using split
    | cons b more =>
      have within := (List.cons.inj split).2
      simp [within] at free
  · cases more with
    | nil => simpa [eq_comm] using split
    | cons b more =>
      have within := (List.cons.inj split).2
      simp [within] at free'

theorem Dated.unique (dated : Dated base name t) (dated' : Dated base' name t') :
    base = base' ∧ t = t' := by
  obtain ⟨digits, rfl, -, all, rfl⟩ := dated
  obtain ⟨digits', same, -, all', rfl⟩ := dated'
  obtain ⟨rfl, rfl⟩ := cut_last (point_not_mem all) (point_not_mem all') same
  exact ⟨rfl, rfl⟩

theorem not_dated_self : ¬ Dated base base t := by
  rintro ⟨digits, longer, -⟩
  simpa using congrArg List.length longer

theorem exists_digits (all : ∀ b ∈ digits, isDigit b = true) :
    ∃ chars : List Char, (∀ c ∈ chars, c.isDigit = true) ∧ chars.map (·.val.toUInt8) = digits := by
  induction digits with
  | nil => exact ⟨[], by simp, rfl⟩
  | cons b rest ih =>
    rw [List.forall_mem_cons] at all
    obtain ⟨chars, figures, same⟩ := ih all.2
    have bounds : 48 ≤ b.toNat ∧ b.toNat ≤ 57 := by
      simpa [isDigit, UInt8.le_iff_toNat_le] using all.1
    have valid : b.toNat.isValidChar := .inl (by omega)
    have value : (Char.ofNat b.toNat).val.toNat = b.toNat := by
      rw [Char.ofNat, dif_pos valid]
      rfl
    refine ⟨Char.ofNat b.toNat :: chars, ?_, ?_⟩
    · rw [List.forall_mem_cons]
      refine ⟨?_, figures⟩
      simp [Char.isDigit, UInt32.le_iff_toNat_le, value]
      omega
    · rw [List.map_cons, same]
      congr 1
      apply UInt8.toNat_inj.1
      rw [UInt32.toNat_toUInt8, value]
      omega

theorem encode_suffix (base : String) {chars : List Char} (figures : ∀ c ∈ chars, c.isDigit = true) :
    Utf8.encode (base ++ "." ++ .ofList chars) =
      Utf8.encode base ++ point :: chars.map (·.val.toUInt8) := by
  rw [← encode_digits figures]
  simp only [Utf8.encode, String.toList_append, String.toList_ofList, List.flatMap_append,
    List.append_assoc]
  rfl

theorem dated_text {base name : String} : Dated (Utf8.encode base) (Utf8.encode name) t ↔
    ∃ chars : List Char, name = base ++ "." ++ .ofList chars ∧ chars ≠ [] ∧
      (∀ c ∈ chars, c.isDigit = true) ∧ Nat.ofDigitChars 10 chars 0 = t := by
  constructor
  · rintro ⟨digits, spelled, present, all, rfl⟩
    obtain ⟨chars, figures, rfl⟩ := exists_digits all
    refine ⟨chars, Utf8.encode_injective (spelled.trans (encode_suffix base figures).symm),
      by simpa using present, figures, (value_digits figures 0).symm⟩
  · rintro ⟨chars, rfl, present, figures, rfl⟩
    exact ⟨_, encode_suffix base figures, by simpa using present, isDigit_of_mem figures,
      value_digits figures 0⟩

end Backup

/-- A sweep removes only names of backups of its own log. -/
theorem Sweep.step_own {f g : Files} {live : Path} {retention : Duration} {now : Moment} {s later : Sweep}
    {fault : Option Files.Fault} {place : Place} (started : start f live retention now = .ok s)
    (left : later.pending <:+ s.pending)
    (gone : (later.step fault g).2.1.node? place ≠ g.node? place) :
    ∃ base name t, live.fileName? = some base ∧ place.head? = some name ∧
      Backup.timestamp? base name = some t := by
  obtain ⟨b, pending, node, leads⟩ := step_expels gone
  obtain ⟨base, name, above, named, dated, opened, path⟩ := fromEntry_of_start started b (left.subset pending)
  have whole := Backup.slash_not_mem_of_timestamp? (Backup.slash_not_mem_fileName? named) dated
  obtain ⟨before, -, joined⟩ := Backup.steps_join (Files.find_eq_ok.1 opened).2.1 whole
  rw [Backup.ofPiece_of_timestamp? dated] at joined
  rw [path] at leads
  exact ⟨base, name, b.timestamp, named, Files.head?_of_find joined leads, dated⟩

namespace Backup

/-- A backup's name is the name of its log, a point, and the digits of a 64-bit second, and belongs to no
other log. Every sweep removes only backups of its own log, whatever happens in the directory. -/
theorem names_one_log :
    (∀ (base name : String) (t : Nat), timestamp? (Utf8.encode base) (Utf8.encode name) = some t ↔
      ∃ digits : List Char, name = base ++ "." ++ .ofList digits ∧ digits ≠ [] ∧
        (∀ c ∈ digits, c.isDigit = true) ∧ Nat.ofDigitChars 10 digits 0 = t ∧ t < UInt64.size) ∧
    (∀ (base : String) (t : UInt64), timestamp? (Utf8.encode base)
      (Utf8.encode (base ++ "." ++ toString t.toNat)) = some t.toNat) ∧
    (∀ base : Bytes, timestamp? base base = none) ∧
    (∀ (base base' name : Bytes) (t t' : Nat), timestamp? base name = some t →
      timestamp? base' name = some t' → base = base') ∧
    ∀ (f g : Files) (live : Path) (retention : Duration) (now : Moment) (s later : Sweep)
      (fault : Option Files.Fault) (place : Place), Sweep.start f live retention now = .ok s →
      later.pending <:+ s.pending → (later.step fault g).2.1.node? place ≠ g.node? place →
      ∃ base name t, live.fileName? = some base ∧ place.head? = some name ∧
        timestamp? base name = some t ∧
        ∀ other t', timestamp? other name = some t' → other = base := by
  have once : ∀ {base base' name : Bytes} {t t' : Nat}, timestamp? base name = some t →
      timestamp? base' name = some t' → base = base' := fun dated dated' =>
    ((timestamp?_eq_some.1 dated).1.unique (timestamp?_eq_some.1 dated').1).1
  refine ⟨fun base name t => ?_, fun base t => ?_, fun base => ?_,
    fun base base' name t t' => once, ?_⟩
  · rw [timestamp?_eq_some, dated_text]
    constructor
    · rintro ⟨⟨digits, spelled, present, figures, worth⟩, low⟩
      exact ⟨digits, spelled, present, figures, worth, low⟩
    · rintro ⟨digits, spelled, present, figures, worth, low⟩
      exact ⟨⟨digits, spelled, present, figures, worth⟩, low⟩
  · have spelled : toString t.toNat = .ofList (Nat.toDigits 10 t.toNat) := Nat.toString_eq_ofList_toDigits
    rw [timestamp?_eq_some, dated_text, spelled]
    exact ⟨⟨_, rfl, by simp, isDigit_toDigits _, Nat.ofDigitChars_ten_toDigits⟩, t.toNat_lt_size⟩
  · cases dated : timestamp? base base with
    | none => rfl
    | some t => exact absurd (timestamp?_eq_some.1 dated).1 not_dated_self
  · intro f g live retention now s later fault place started left gone
    obtain ⟨base, name, t, named, spelled, dated⟩ := Sweep.step_own started left gone
    exact ⟨base, name, t, named, spelled, dated, fun other t' dated' => once dated' dated⟩

theorem names_one_log_numbered :
    let live : Path := .ofString "a.1"
    let name := Utf8.encode "a.1.05"
    let f := Files.single name [0x78]
    timestamp? live.bytes name = some 5 ∧ timestamp? (Utf8.encode "a") name = none ∧
      ∃ s, Sweep.start f live .zero (.ofSeconds 9 0) = .ok s ∧
        (s.step none f).2.1.node? [name] ≠ f.node? [name] ∧
        ∀ other t, timestamp? other name = some t → other = live.bytes := by
  intro live name f
  obtain ⟨grammar, -, -, once, swept⟩ := names_one_log
  have dated : timestamp? live.bytes name = some 5 :=
    (grammar "a.1" "a.1.05" 5).2 ⟨['0', '5'], rfl, by simp, by simp, by decide, by decide⟩
  have started : Sweep.start f live .zero (.ofSeconds 9 0) =
      .ok { pending := [⟨.ofString "./a.1.05", 5⟩], scanned := 1 } := by decide +kernel
  have gone : (Sweep.step none f { pending := [⟨.ofString "./a.1.05", 5⟩], scanned := 1 }).2.1.node? [name] ≠
      f.node? [name] := by decide +kernel
  obtain ⟨base, name', t, named, spelled, -, alone⟩ :=
    swept f f live .zero (.ofSeconds 9 0) _ _ none [name] started List.suffix_rfl gone
  obtain rfl : name = name' := Option.some.inj spelled
  obtain rfl : live.bytes = base := alone _ _ dated
  refine ⟨dated, ?_, _, started, gone, alone⟩
  cases other : timestamp? (Utf8.encode "a") name with
  | none => rfl
  | some t =>
    have same := once _ _ _ _ _ other dated
    exact absurd same (by decide)

end Backup
end AuditTrail
