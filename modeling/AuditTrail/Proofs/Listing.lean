import AuditTrail.Proofs.Directory

/-! The list of backups. It holds each directory entry that counts as a backup once, oldest
first. -/
namespace AuditTrail

namespace Files

variable {f : Files} {p : Path} {place : Place}

theorem entries_of_find (sound : f.Sound) (opened : f.find true p = .ok ⟨place, some .directory⟩) :
    ∃ entries, f.entries p = .ok entries ∧ entries.Pairwise (·.1 ≠ ·.1) ∧
      ∀ name node, (name, node) ∈ entries ↔ f.node? (name :: place) = some node := by
  refine ⟨_, by simp only [entries, opened]; rfl, ?_, ?_⟩
  · apply List.pairwise_filterMap.2
    refine (List.pairwise_map.1 sound.single).imp ?_
    rintro ⟨one, node⟩ ⟨other, node'⟩ apart entry picked entry' picked' same
    cases one with
    | nil => cases picked
    | cons name above =>
      cases other with
      | nil => cases picked'
      | cons name' above' =>
        simp only [Option.ite_none_right_eq_some, beq_iff_eq] at picked picked'
        obtain ⟨rfl, picked⟩ := picked
        obtain ⟨rfl, picked'⟩ := picked'
        obtain rfl := Option.some.inj picked
        obtain rfl := Option.some.inj picked'
        simp only at same
        subst same
        exact apart rfl
  · intro name node
    rw [List.mem_filterMap]
    constructor
    · rintro ⟨⟨there, node'⟩, stored, picked⟩
      cases there with
      | nil => cases picked
      | cons name' above =>
        simp only [Option.ite_none_right_eq_some, beq_iff_eq] at picked
        obtain ⟨rfl, picked⟩ := picked
        obtain ⟨rfl, rfl⟩ := Prod.mk.inj (Option.some.inj picked)
        exact sound.node?_of_mem (List.cons_ne_nil _ _) stored
    · intro there
      rw [node?_eq (List.cons_ne_nil _ _), Option.map_eq_some_iff] at there
      obtain ⟨entry, found, rfl⟩ := there
      have same : entry.1 = name :: place := by simpa using List.find?_some found
      refine ⟨entry, List.mem_of_find?_eq_some found, ?_⟩
      obtain ⟨_, node⟩ := entry
      subst same
      simp

end Files

namespace Backup

open AuditTrail.Path (slash)

variable {f : Files} {live p : Path} {base name name' : Bytes} {place : Place} {node : Node}
  {b : Listed} {t : Nat}

theorem join_injective (whole : slash ∉ name) (whole' : slash ∉ name')
    (same : p.join name = p.join name') : name = name' := by
  have relative : ∀ {n : Bytes}, slash ∉ n → n.head? ≠ some slash :=
    fun whole first => whole (List.mem_of_head? first)
  unfold Path.join at same
  rw [if_neg (relative whole), if_neg (relative whole')] at same
  split at same
  · exact List.append_cancel_left (Path.mk.inj same)
  · exact (List.cons.inj (List.append_cancel_left (Path.mk.inj same))).2

/-- The directory at a place has an entry that counts as the backup `b`. -/
def Shown (f : Files) (base : Bytes) (p : Path) (place : Place) (b : Listed) : Prop :=
  ∃ name node, f.node? (name :: place) = some node ∧ ofEntry f base p (name, node) = some b

/-- The list of backups contains exactly the entries that count, once each, in ascending order. -/
theorem exists_list (sound : f.Sound) (named : live.fileName? = some base)
    (text : (Utf8.decode? base).isSome)
    (opened : f.find true (dir live) = .ok ⟨place, some .directory⟩) :
    ∃ backups, list f live = .ok backups ∧ backups.Nodup ∧
      backups.Pairwise (·.timestamp ≤ ·.timestamp) ∧
      ∀ b, b ∈ backups ↔ Shown f base (dir live) place b := by
  obtain ⟨entries, read, apart, all⟩ := Files.entries_of_find sound opened
  have whole := slash_not_mem_fileName? named
  have readable : (Utf8.decode? base).isNone = false := by
    rw [← Bool.not_eq_true, Option.isNone_iff_eq_none]
    exact Option.isSome_iff_ne_none.1 text
  refine ⟨_, by simp only [list, among, named, readable, Bool.false_eq_true, if_false, read]; rfl, ?_, ?_, ?_⟩
  · rw [(List.mergeSort_perm _ _).nodup_iff]
    apply List.pairwise_filterMap.2
    refine apart.imp ?_
    rintro ⟨name, node⟩ ⟨name', node'⟩ other b one b' two rfl
    obtain ⟨-, -, dated, path⟩ := ofEntry_eq_some.1 one
    obtain ⟨-, -, dated', path'⟩ := ofEntry_eq_some.1 two
    exact other (join_injective (slash_not_mem_of_timestamp? whole dated)
      (slash_not_mem_of_timestamp? whole dated') (path.symm.trans path'))
  · have sorted : ((entries.filterMap (ofEntry f base (dir live))).mergeSort
        fun a b => decide (a.timestamp ≤ b.timestamp)).Pairwise
        fun a b => decide (a.timestamp ≤ b.timestamp) := by
      apply List.pairwise_mergeSort
      · intro a b c
        simp only [decide_eq_true_eq]
        omega
      · intro a b
        simp only [Bool.or_eq_true, decide_eq_true_eq]
        omega
    simpa only [decide_eq_true_eq] using sorted
  · intro b
    rw [List.mem_mergeSort, List.mem_filterMap]
    constructor
    · rintro ⟨⟨name, node⟩, listed, counted⟩
      exact ⟨name, node, (all name node).1 listed, counted⟩
    · rintro ⟨name, node, there, counted⟩
      exact ⟨(name, node), (all name node).2 there, counted⟩

theorem list_eq (sound : f.Sound) (named : live.fileName? = some base)
    (text : (Utf8.decode? base).isSome) (opened : f.find true (dir live) = .ok ⟨place, some .directory⟩)
    {backups : List Listed} (rising : backups.Pairwise (·.timestamp < ·.timestamp))
    (members : ∀ b, b ∈ backups ↔ Shown f base (dir live) place b) : list f live = .ok backups := by
  obtain ⟨found, listed, once, sorted, all⟩ := exists_list sound named text opened
  have same : found.Perm backups := by
    refine (List.perm_ext_iff_of_nodup once ?_).2 fun b => ?_
    · exact rising.imp fun less same => absurd (same ▸ less) (Nat.lt_irrefl _)
    · rw [members, all]
  rw [listed]
  congr 1
  refine List.Perm.eq_of_pairwise ?_ sorted (rising.imp Nat.le_of_lt) same
  intro a b first second less more
  rw [same.mem_iff] at first
  have apart : (backups.map (·.timestamp)).Nodup :=
    List.pairwise_map.2 (rising.imp Nat.ne_of_lt)
  exact List.inj_on_of_nodup_map apart first second (Nat.le_antisymm less more)

/-- The backup's path is that of an entry with the name of a backup. -/
def FromEntry (f : Files) (live : Path) (b : Listed) : Prop :=
  ∃ base name above, live.fileName? = some base ∧ timestamp? base name = some b.timestamp ∧
    f.find true (dir live) = .ok ⟨above, some .directory⟩ ∧ b.path = (dir live).join name

theorem fromEntry_of_list {backups : List Listed} (listed : list f live = .ok backups) :
    ∀ b ∈ backups, FromEntry f live b := by
  intro b member
  obtain ⟨base, entries, name, node, named, read, -, counted⟩ := entry_of_list listed member
  obtain ⟨above, opened, -⟩ := entries_eq_ok read
  obtain ⟨-, -, dated, path⟩ := ofEntry_eq_some.1 counted
  exact ⟨base, name, above, named, dated, opened, path⟩

theorem FromEntry.same {g : Files} (same : f.SameWays g) (fromEntry : FromEntry f live b) : FromEntry g live b := by
  obtain ⟨base, name, above, named, dated, opened, path⟩ := fromEntry
  exact ⟨base, name, above, named, dated, same.opens opened, path⟩

theorem FromEntry.slot (fromEntry : FromEntry f live b) {found : Files.Found}
    (leads : f.find false b.path = .ok found) : Slot f live b.timestamp found.place := by
  obtain ⟨base, name, above, named, dated, opened, path⟩ := fromEntry
  have whole := slash_not_mem_of_timestamp? (slash_not_mem_fileName? named) dated
  rw [path] at leads
  rw [find_join opened whole (ofPiece_of_timestamp? dated) leads]
  exact ⟨base, name, above, named, dated, opened, rfl⟩

end Backup

namespace Sweep

variable {f g : Files} {live : Path} {s : Sweep} {fault : Option Files.Fault}

def FromEntry (f : Files) (live : Path) (s : Sweep) : Prop := ∀ b ∈ s.pending, Backup.FromEntry f live b

theorem FromEntry.same (same : f.SameWays g) (fromEntry : s.FromEntry f live) : s.FromEntry g live :=
  fun b member => (fromEntry b member).same same

theorem fromEntry_of_start {retention : Duration} {now : Moment}
    (started : start f live retention now = .ok s) : s.FromEntry f live := by
  obtain ⟨backups, listed, among⟩ := of_start started
  exact fun b member => Backup.fromEntry_of_list listed b (among b member).1

/-- A step of a sweep takes away at most the entry of the next backup. -/
theorem step_expels {place : Place} (gone : (s.step fault f).2.1.node? place ≠ f.node? place) :
    ∃ b ∈ s.pending, ∃ node, f.find false b.path = .ok ⟨place, some node⟩ := by
  unfold step at gone
  cases pending : s.pending with
  | nil => simp [pending] at gone
  | cons b rest =>
    simp only [pending] at gone
    refine ⟨b, List.mem_cons_self, ?_⟩
    rcases f.remove_cases b.path fault with same | ⟨other, node, leads, leaf, erased⟩
    · exact absurd (by rw [same]) gone
    · rw [erased, Files.node?_erase (Files.ne_root_of_leaf (Files.node?_of_find leads).symm leaf)]
        at gone
      split at gone
      · next same =>
        subst same
        exact ⟨node, leads⟩
      · exact absurd rfl gone

end Sweep

end AuditTrail
