import AuditTrail.Files.Request
import Mathlib.Data.List.Nodup

/-! Changes of the files keep directories and links, and so the place to which a path leads. -/
namespace AuditTrail.Files

variable {f g : Files} {place other : Place} {node : Node} {number : Nat} {p : Path}

@[simp] theorem node?_root : f.node? [] = some .directory := rfl

theorem node?_eq (present : place ≠ []) :
    f.node? place = (f.nodes.find? (·.1 == place)).map (·.2) := by
  cases place with
  | nil => exact absurd rfl present
  | cons name dir => rfl

theorem ne_root_of_free (free : f.node? place = none) : place ≠ [] := by
  rintro rfl
  simp at free

theorem ne_root_of_leaf (there : f.node? place = some node) (leaf : node ≠ .directory) :
    place ≠ [] := by
  rintro rfl
  exact leaf (Option.some.inj there).symm

theorem ne_root_of_file (file : f.node? place = some (.file number)) : place ≠ [] :=
  ne_root_of_leaf file nofun

theorem node?_addFile (free : f.node? place = none) (content : Bytes) (other : Place) :
    (f.addFile place content).node? other =
      if other = place then some (.file f.inodes.length) else f.node? other := by
  have present := ne_root_of_free free
  by_cases root : other = []
  · rw [root, if_neg present.symm]
    rfl
  · rw [node?_eq present, Option.map_eq_none_iff] at free
    rw [node?_eq root, addFile, add]
    simp only [List.find?_append]
    by_cases same : other = place
    · subst same
      simp [free]
    · have apart : (place == other) = false := by simpa using Ne.symm same
      simp [node?_eq root, same, apart]

theorem node?_erase (present : place ≠ []) (other : Place) :
    (f.erase place).node? other = if other = place then none else f.node? other := by
  by_cases root : other = []
  · rw [root, if_neg present.symm]
    rfl
  · rw [node?_eq root, node?_eq root, erase]
    simp only [List.find?_filter]
    by_cases same : other = place
    · subst same
      simp
    · rw [if_neg same]
      congr 2
      funext entry
      by_cases hit : entry.1 = other <;> simp [hit, same]

@[simp] theorem node?_revise (change : Bytes → Bytes) :
    (f.revise number change).node? place = f.node? place := by
  cases place <;> rfl

theorem inode?_addFile (content : Bytes) (n : Nat) :
    (f.addFile place content).inode? n =
      if n = f.inodes.length then some (.regular content) else f.inode? n := by
  simp only [inode?, addFile, List.getElem?_append]
  by_cases fresh : n = f.inodes.length
  · simp [fresh]
  · rw [if_neg fresh]
    split
    · rfl
    · have beyond : f.inodes.length < n := by omega
      rw [List.getElem?_eq_none (by simp; omega), List.getElem?_eq_none (by omega)]

@[simp] theorem inode?_erase (n : Nat) : (f.erase place).inode? n = f.inode? n := rfl

theorem inode?_revise_other {change : Bytes → Bytes} {n : Nat} (apart : n ≠ number) :
    (f.revise number change).inode? n = f.inode? n := by
  simp [inode?, revise, Ne.symm apart]

theorem inode?_revise_same {change : Bytes → Bytes} {content : Bytes}
    (regular : f.inode? number = some (.regular content)) :
    (f.revise number change).inode? number = some (.regular (change content)) := by
  simp only [inode?, revise] at regular ⊢
  rw [List.getElem?_modify_eq, regular]
  rfl

@[simp] theorem length_addFile (content : Bytes) :
    (f.addFile place content).inodes.length = f.inodes.length + 1 := by
  simp [addFile]

@[simp] theorem length_revise (change : Bytes → Bytes) :
    (f.revise number change).inodes.length = f.inodes.length := by
  simp [revise]

/-- File numbers are in use, no place has two entries, and the place above a directory is a directory. -/
structure Sound (f : Files) : Prop where
  numbered : ∀ place number, f.node? place = some (.file number) → number < f.inodes.length
  single : (f.nodes.map (·.1)).Nodup
  rooted : ∀ place : Place, f.node? place = some .directory → f.node? place.tail = some .directory

theorem Sound.addFile (sound : Sound f) (free : f.node? place = none) (content : Bytes) :
    Sound (f.addFile place content) where
  numbered other number file := by
    rw [node?_addFile free] at file
    rw [length_addFile]
    split at file
    · obtain rfl : f.inodes.length = number := by simpa using file
      omega
    · have := sound.numbered other number file
      omega
  single := by
    have absent := free
    rw [node?_eq (ne_root_of_free free), Option.map_eq_none_iff, List.find?_eq_none] at absent
    simp only [Files.addFile, add, List.map_append, List.map_cons, List.map_nil]
    refine List.nodup_append.2 ⟨sound.single, List.nodup_singleton _, ?_⟩
    rintro _ held _ new rfl
    obtain ⟨entry, member, rfl⟩ := List.mem_map.1 held
    obtain rfl := List.mem_singleton.1 new
    exact absent entry member (by simp)
  rooted other dir := by
    rw [node?_addFile free] at dir ⊢
    split at dir
    · cases dir
    · have above := sound.rooted other dir
      split
      · next same => simp [same, free] at above
      · exact above

theorem Sound.erase (sound : Sound f) (file : f.node? place = some (.file number)) :
    Sound (f.erase place) where
  numbered other n there := by
    rw [node?_erase (ne_root_of_file file)] at there
    split at there
    · simp at there
    · exact sound.numbered other n there
  single := sound.single.sublist (List.filter_sublist.map _)
  rooted other dir := by
    rw [node?_erase (ne_root_of_file file)] at dir ⊢
    split at dir
    · cases dir
    · have above := sound.rooted other dir
      split
      · next same => simp [same, file] at above
      · exact above

theorem Sound.revise (sound : Sound f) (change : Bytes → Bytes) :
    Sound (f.revise number change) where
  numbered other n file := by
    rw [node?_revise] at file
    rw [length_revise]
    exact sound.numbered other n file
  single := sound.single
  rooted other dir := by
    rw [node?_revise] at dir ⊢
    exact sound.rooted other dir

def single (name content : Bytes) : Files := ⟨[([name], .file 0)], [.regular content], []⟩

theorem node?_single (name content : Bytes) (present : place ≠ []) :
    (single name content).node? place = if place = [name] then some (.file 0) else none := by
  rw [node?_eq present, Files.single]
  by_cases same : place = [name]
  · subst same
    simp
  · have apart : ([name] == place) = false := by simpa using Ne.symm same
    simp [same, apart]

theorem sound_single (name content : Bytes) : Sound (single name content) where
  numbered place number file := by
    rw [node?_single _ _ (ne_root_of_file file)] at file
    split at file
    · obtain rfl : 0 = number := by simpa using file
      exact Nat.one_pos
    · cases file
  single := List.nodup_singleton _
  rooted place dir := by
    cases place with
    | nil => rfl
    | cons head rest =>
      rw [node?_single _ _ (List.cons_ne_nil _ _)] at dir
      split at dir <;> simp at dir

def linked (name : Bytes) (target : Path) : Files := ⟨[([name], .link target)], [], []⟩

theorem node?_linked (name : Bytes) (target : Path) (present : place ≠ []) :
    (linked name target).node? place = if place = [name] then some (.link target) else none := by
  rw [node?_eq present, Files.linked]
  by_cases same : place = [name]
  · subst same
    simp
  · have apart : ([name] == place) = false := by simpa using Ne.symm same
    simp [same, apart]

theorem sound_linked (name : Bytes) (target : Path) : Sound (linked name target) where
  numbered place number file := by
    rw [node?_linked _ _ (ne_root_of_file file)] at file
    split at file <;> cases file
  single := List.nodup_singleton _
  rooted place dir := by
    cases place with
    | nil => rfl
    | cons head rest =>
      rw [node?_linked _ _ (List.cons_ne_nil _ _)] at dir
      split at dir <;> simp at dir

theorem Sound.fresh (sound : Sound f) : f.node? place ≠ some (.file f.inodes.length) :=
  fun file => Nat.lt_irrefl _ (sound.numbered place _ file)

theorem Sound.node?_of_mem (sound : Sound f) (present : place ≠ [])
    (member : (place, node) ∈ f.nodes) : f.node? place = some node := by
  rw [node?_eq present]
  cases found : f.nodes.find? (·.1 == place) with
  | none => exact absurd (List.find?_eq_none.1 found _ member) (by simp)
  | some entry =>
    have same : entry.1 = place := by simpa using List.find?_some found
    have unique := List.inj_on_of_nodup_map sound.single (List.mem_of_find?_eq_some found) member same
    simp [unique]

end AuditTrail.Files
