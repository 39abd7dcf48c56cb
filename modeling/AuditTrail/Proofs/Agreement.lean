import AuditTrail.Processor.Settings
import AuditTrail.Proofs.Ownership

/-! Where the backups of a log are made, and where they are looked for. The first is the text of
the log path with a suffix; the second is its directory and its file name. They agree exactly if
the text of the path ends in the file name. -/
namespace AuditTrail

namespace Path

open Backup (lead)

variable {live p : Path} {base more : Bytes}

theorem trimBack_ends (back : Bytes) : trimBack back = [] ∨
    (trimBack back).takeWhile (· ≠ slash) ≠ [] ∧ (trimBack back).takeWhile (· ≠ slash) ≠ [dot] := by
  fun_induction trimBack back with
  | case1 => exact .inl rfl
  | case2 back present name idle ih => exact ih
  | case3 back present name counts => exact .inr (not_or.1 counts)

theorem fileName?_ne (named : p.fileName? = some base) : base ≠ [] ∧ base ≠ [dot] ∧ base ≠ [dot, dot] := by
  unfold fileName? at named
  simp only at named
  split at named
  · cases named
  next counts =>
  obtain rfl := Option.some.inj named
  obtain ⟨present, up⟩ := not_or.1 counts
  refine ⟨present, fun here => ?_, up⟩
  have ends : p.back = [] ∨ p.back.takeWhile (· ≠ slash) ≠ [] ∧ p.back.takeWhile (· ≠ slash) ≠ [dot] :=
    trimBack_ends _
  rcases ends with nothing | ⟨-, other⟩
  · simp [nothing] at present
  · exact other (List.reverse_eq_iff.1 here)

theorem head_append (proper : live.Proper) (more : Bytes) :
    head (live.bytes ++ more) = head live.bytes := by
  obtain ⟨present, here, -⟩ := proper.ne
  obtain ⟨bytes⟩ := live
  match bytes with
  | [] => exact absurd rfl present
  | [b] =>
    have whole : b ≠ slash := by
      rintro rfl
      exact present rfl
    have other : b ≠ dot := by
      rintro rfl
      exact here rfl
    unfold head
    split <;> split <;> simp_all [slash, dot]
  | a :: b :: rest =>
    simp only [head, List.cons_append]
    split <;> split <;> simp_all

theorem proper_of_ne (present : lead p ≠ []) (here : lead p ≠ [dot]) (up : lead p ≠ [dot, dot]) :
    p.Proper := by
  unfold Proper Files.Step.ofPiece
  rw [if_neg (by simp [present, here]), if_neg up]

end Path

namespace Backup

open AuditTrail.Path (slash dot head)

variable {f : Files} {live : Path} {found : Files.Found} {suffix : Nat}

theorem lead_path (live : Path) (suffix : Nat) : lead (path live suffix) = name live suffix := by
  unfold lead path
  simp only [splitOn_append (slash_not_mem suffix), List.getLast_append_singleton]
  rfl

theorem proper_path (live : Path) (suffix : Nat) : (path live suffix).Proper := by
  rw [Path.Proper, lead_path, name,
    ofPiece_digits _ (decimal_ne_nil suffix) (isDigit_decimal suffix)]

theorem fileName?_path (live : Path) (suffix : Nat) :
    (path live suffix).fileName? = some (name live suffix) :=
  lead_path live suffix ▸ (proper_path live suffix).parts.1

theorem dated_name (live : Path) (suffix : Nat) : Dated (lead live) (name live suffix) suffix :=
  ⟨_, rfl, decimal_ne_nil suffix, isDigit_decimal suffix, value_decimal suffix⟩

theorem dir_path (proper : live.Proper) (suffix : Nat) : dir (path live suffix) = dir live := by
  obtain ⟨-, q, -, shape, parent⟩ := proper.parts
  obtain ⟨-, q', -, shape', parent'⟩ := (proper_path live suffix).parts
  have begins := congrArg List.length proper.headed.append
  have longer : (path live suffix).body = live.body ++ point :: decimal suffix := by
    rw [Path.body, path, Path.head_append proper, List.drop_append_of_le_length (by simp at begins; omega)]
    rfl
  rw [longer, lead_path, name] at shape'
  have same : q' = q := by
    rcases shape with ⟨alone, rfl⟩ | split <;> rcases shape' with ⟨alone', rfl⟩ | split'
    · rfl
    · have lengths := congrArg List.length split'
      simp [alone] at lengths
      omega
    · have lengths := congrArg List.length alone'
      simp [split] at lengths
      omega
    · rw [split, List.append_assoc, List.cons_append] at split'
      exact (List.append_cancel_right split').symm
  rw [dir, dir, parent, parent', same, path, Path.head_append proper]

/-- If the path of a backup leads anywhere, it leads to an entry of the directory of the log. -/
theorem find_dir_path (proper : live.Proper) (leads : f.find false (path live suffix) = .ok found) :
    ∃ place, f.find true (dir live) = .ok ⟨place, some .directory⟩ ∧
      found = ⟨name live suffix :: place, f.node? (name live suffix :: place)⟩ := by
  obtain ⟨clean, -, fits, walked⟩ := Files.find_eq_ok.1 leads
  rw [steps_path] at walked
  obtain ⟨middle, -, onto, -⟩ := walked.split (List.cons_ne_nil _ _)
  have present : live.bytes ≠ [] := by
    intro empty
    apply proper.ne.1
    simp [lead, empty]
  have start : Files.start (dir live) f.here = Files.start (path live suffix) f.here := by
    rw [← dir_path proper suffix, start_dir (proper_path live suffix)]
  have clean' : live.bytes.contains 0 = false := by
    simp only [path, List.contains_eq_mem, decide_eq_false_iff_not, List.mem_append, not_or] at clean ⊢
    exact clean.1
  obtain ⟨filled, short⟩ := length_dir proper
  have longer : live.bytes.length ≤ (path live suffix).bytes.length := by simp [path]
  have limit : Files.longestPath = 4095 := rfl
  have opened : f.find true (dir live) = .ok ⟨middle, some .directory⟩ := by
    refine Files.find_eq_ok.2 ⟨clean_dir proper clean', filled, by omega, ?_⟩
    rw [start]
    exact onto.detour (moves_dir proper).symm
  exact ⟨middle, opened, find_path proper opened leads⟩

/-- Rotation and listing agree on a backup: its path ends in a name that gives the second, leads to the entry
of that name in the listed directory, and is listed if it is a regular file. -/
structure Agreed (live : Path) (t : Nat) : Prop where
  named : ∃ base name, live.fileName? = some base ∧ (path live t).fileName? = some name ∧
    timestamp? base name = some t
  dir : dir (path live t) = dir live
  entry : ∀ (f : Files) found, f.find false (path live t) = .ok found → ∃ name place,
    (path live t).fileName? = some name ∧ f.find true (Backup.dir live) = .ok ⟨place, some .directory⟩ ∧
      found.place = name :: place
  listed : ∀ (f : Files) place n content, f.Sound →
    f.find false (path live t) = .ok ⟨place, some (.file n)⟩ → f.inode? n = some (.regular content) →
    ∃ backups b, list f live = .ok backups ∧ b ∈ backups ∧ b.timestamp = t ∧
      f.find false b.path = .ok ⟨place, some (.file n)⟩

theorem legible_lead (text : Utf8.Legible live.bytes) : Utf8.Legible (lead live) := by
  rcases (Path.exists_lead live.bytes).2 with alone | ⟨q, split⟩
  · exact alone ▸ text
  · have spelled : String.utf8EncodeChar '/' = [slash] := by decide
    have whole : live.bytes = q ++ (String.utf8EncodeChar '/' ++ lead live) := by
      rw [spelled]
      exact split
    rw [whole] at text
    exact text.cut_char.2

theorem agreed_of_proper (proper : live.Proper) (text : Utf8.Legible live.bytes)
    (low : suffix < UInt64.size) : Agreed live suffix where
  named := ⟨_, _, proper.parts.1, fileName?_path live suffix, timestamp?_name live low⟩
  dir := dir_path proper suffix
  entry f found leads := by
    obtain ⟨place, opened, rfl⟩ := find_dir_path proper leads
    exact ⟨_, place, fileName?_path live suffix, opened, rfl⟩
  listed f place n content sound leads holds := by
    obtain ⟨above, opened, same⟩ := find_dir_path proper leads
    obtain ⟨rfl, file⟩ := Files.Found.mk.inj same
    have text' := legible_lead text
    obtain ⟨backups, listed, -, -, all⟩ := exists_list sound proper.parts.1 text' opened
    refine ⟨backups, ⟨(Backup.dir live).join (name live suffix), suffix⟩, listed, ?_, rfl,
      find_entry proper opened leads⟩
    rw [all, shown_iff text']
    exact ⟨_, ⟨dated_name live suffix, low, n, content, file.symm, holds⟩, rfl⟩

theorem proper_of_agreed (agreed : Agreed live suffix) : live.Proper := by
  obtain ⟨base, name', named, named', dated⟩ := agreed.named
  obtain rfl := Option.some.inj ((fileName?_path live suffix).symm.trans named')
  have same := ((timestamp?_eq_some.1 dated).1.unique (dated_name live suffix)).1
  subst same
  obtain ⟨present, here, up⟩ := Path.fileName?_ne named
  exact Path.proper_of_ne present here up

/-- Rotation and listing agree for every second exactly if the path of the log ends in the name of a file,
without a separator or a dot after it. -/
theorem agreed_iff (text : Utf8.Legible live.bytes) (t : UInt64) :
    Agreed live t.toNat ↔ live.Proper :=
  ⟨proper_of_agreed, fun proper => agreed_of_proper proper text t.toNat_lt_size⟩

theorem agreed_iff_dotted :
    let live : Path := .ofString "./var//log/./audit.log"
    Utf8.Legible live.bytes ∧ Agreed live (7 : UInt64).toNat := by
  intro live
  have text : Utf8.Legible live.bytes := Utf8.legible_encode _
  exact ⟨text, (agreed_iff text 7).2 (by unfold Path.Proper; decide +kernel)⟩

/-- Settings accept a path with a trailing separator. Its backups are created below the log, and their names
give no second. -/
theorem not_agreed_separator :
    let s : Settings := { path := .ofString "/var/log/audit.log/" }
    s.validate = .ok () ∧ s.path.fileName? = some (Utf8.encode "audit.log") ∧
      (path s.path 5).fileName? = some (Utf8.encode ".5") ∧
      timestamp? (Utf8.encode "audit.log") (Utf8.encode ".5") = none ∧ ¬ Agreed s.path 5 := by
  intro s
  have ends : ¬ s.path.Proper := by
    unfold Path.Proper
    decide +kernel
  exact ⟨by decide +kernel, by decide +kernel, by decide +kernel, by decide +kernel,
    fun agreed => ends (proper_of_agreed agreed)⟩

end Backup
end AuditTrail
