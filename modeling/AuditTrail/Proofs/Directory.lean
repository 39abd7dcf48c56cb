import AuditTrail.Proofs.Path
import AuditTrail.Proofs.Sweep
import AuditTrail.Proofs.Utf8

/-! The directory of a log, and how its entries relate to the paths of the backups. -/
namespace AuditTrail

namespace Backup

open Files (moves steps start Step Leads)
open AuditTrail.Path (slash dot head trimBack)

variable {f : Files} {live : Path} {place : Place} {found : Files.Found} {suffix t : Nat}
  {h front q : Bytes}

/-- The directory part of a path: a prefix without trailing separators and dots, or a dot if nothing is
left. -/
structure Fronted (live : Path) (h front q : Bytes) : Prop where
  headed : live.Headed h
  trimmed : moves (steps ⟨front⟩) = moves (steps ⟨q⟩)
  shorter : front <+: q
  part : q <+: live.body
  shape : live.body = lead live ∧ q = [] ∨ live.body = q ++ slash :: lead live
  dir : (dir live).bytes = if h ++ front = [] then [dot] else h ++ front

theorem exists_fronted (proper : live.Proper) : ∃ h front q, Fronted live h front q := by
  obtain ⟨-, q, part, shape, parent⟩ := proper.parts
  have trimmed := Path.moves_trimBack q.reverse
  have shorter := List.reverse_prefix.2 (Path.trimBack_suffix q.reverse)
  rw [List.reverse_reverse] at trimmed shorter
  refine ⟨_, _, q, proper.headed, trimmed, shorter, part, shape, ?_⟩
  rw [dir, parent]
  simp only [List.isEmpty_iff]
  split
  · rfl
  · rfl

/-- The directory is reached by the steps of the path without its last name, up to stays. -/
theorem moves_dir (proper : live.Proper) :
    moves (steps (dir live)) = moves (approach live) := by
  obtain ⟨h, front, q, fronted⟩ := exists_fronted proper
  have headed := fronted.headed
  have way : moves (steps ⟨q⟩) = moves (approach live) := by
    have whole := headed.moves List.prefix_rfl
    rw [← headed.append] at whole
    change moves (steps live) = _ at whole
    rw [steps_lead, proper, Files.moves_append] at whole
    refine List.append_cancel_right (?_ : _ ++ moves [.name (lead live)] = _)
    rw [whole]
    rcases fronted.shape with ⟨alone, rfl⟩ | split
    · rw [alone, Path.moves_piece (Path.exists_lead live.bytes).1, proper]
      rfl
    · rw [split, Path.moves_join, Path.moves_piece (Path.exists_lead live.bytes).1, proper]
  rw [← way, ← fronted.trimmed, ← headed.moves (fronted.shorter.trans fronted.part)]
  have spelled := fronted.dir
  split at spelled
  · next empty =>
    rw [empty, steps, spelled]
    rfl
  · rw [steps, spelled]
    rfl

theorem start_dir (proper : live.Proper) (here : Place) : start (dir live) here = start live here := by
  obtain ⟨h, front, q, fronted⟩ := exists_fronted proper
  have same : (dir live).isAbsolute = live.isAbsolute := by
    rw [Path.isAbsolute, Path.isAbsolute, fronted.dir]
    cases fronted.headed with
    | root split | here split =>
      rw [split]
      rfl
    | bare same relative =>
      rw [beq_eq_false_iff_ne.2 relative, List.nil_append]
      split
      · rfl
      · next present =>
        obtain ⟨more, whole⟩ := fronted.shorter.trans fronted.part
        rw [beq_eq_false_iff_ne, ← List.head?_append_of_ne_nil front present, whole, same]
        exact relative
  rw [start, start, same]

theorem length_dir (proper : live.Proper) : (dir live).bytes ≠ [] ∧
    ((dir live).bytes.length + 1 + (lead live).length ≤ live.bytes.length ∨
      (dir live).bytes.length = 1) := by
  obtain ⟨h, front, q, fronted⟩ := exists_fronted proper
  have spelled := fronted.dir
  split at spelled
  · rw [spelled]
    exact ⟨List.cons_ne_nil _ _, .inr rfl⟩
  next present =>
  rw [spelled]
  refine ⟨present, ?_⟩
  have whole := congrArg List.length fronted.headed.append
  have less := fronted.shorter.length_le
  rcases fronted.shape with ⟨alone, rfl⟩ | split
  · obtain rfl : front = [] := List.prefix_nil.1 fronted.shorter
    cases fronted.headed with
    | bare => exact absurd rfl present
    | root => exact .inr rfl
    | here => exact .inr rfl
  · rw [split] at whole
    simp only [List.length_append, List.length_cons] at whole ⊢
    omega

theorem clean_dir (proper : live.Proper) (clean : live.bytes.contains 0 = false) :
    (dir live).bytes.contains 0 = false := by
  obtain ⟨h, front, q, fronted⟩ := exists_fronted proper
  have spelled := fronted.dir
  split at spelled
  · rw [spelled]
    rfl
  · have begins : h ++ front <+: live.bytes := by
      rw [fronted.headed.append]
      exact (List.prefix_append_right_inj h).2 (fronted.shorter.trans fronted.part)
    rw [spelled]
    simp only [List.contains_eq_mem, decide_eq_false_iff_not] at clean ⊢
    exact fun member => clean (begins.subset member)

/-- A log that is found and is no directory stands in the directory of its path, under its last name. -/
theorem find_dir (sound : f.Sound) {through : Bool} (leads : f.find through live = .ok found)
    (leaf : found.node? ≠ some .directory) :
    live.Proper ∧ ∃ place, f.find true (dir live) = .ok ⟨place, some .directory⟩ := by
  obtain ⟨clean, present, fits, walked⟩ := Files.find_eq_ok.1 leads
  rw [steps_lead] at walked
  have proper : live.Proper := by
    cases last : Step.ofPiece (lead live) with
    | name piece => rw [Path.Proper, last, Step.eq_of_ofPiece last]
    | stay | up =>
      rw [last] at walked
      exact absurd (walked.dotted (by simp) sound.rooted) leaf
  obtain ⟨middle, fewer, onto, -⟩ := walked.split (List.cons_ne_nil _ _)
  obtain ⟨some_, short⟩ := length_dir proper
  refine ⟨proper, middle, Files.find_eq_ok.2 ⟨clean_dir proper clean, some_, ?_, ?_⟩⟩
  · have limit : Files.longestPath = 4095 := rfl
    omega
  · rw [start_dir proper]
    exact onto.detour (moves_dir proper).symm

theorem find_path (proper : live.Proper)
    (opened : f.find true (dir live) = .ok ⟨place, some .directory⟩)
    (leads : f.find false (path live suffix) = .ok found) :
    found = ⟨name live suffix :: place, f.node? (name live suffix :: place)⟩ := by
  obtain ⟨-, -, -, there⟩ := Files.find_eq_ok.1 opened
  obtain ⟨-, -, -, walked⟩ := Files.find_eq_ok.1 leads
  have present : live.bytes ≠ [] := by
    intro empty
    apply proper.ne.1
    rw [lead]
    simp [empty]
  have same : (path live suffix).isAbsolute = live.isAbsolute := by
    rw [Path.isAbsolute, Path.isAbsolute, path, List.head?_append_of_ne_nil _ present]
  have onto := there.detour (moves_dir proper)
  rw [start_dir proper] at onto
  rw [start, same, ← start, steps_path] at walked
  have entered := (onto.enter_last walked.last.2).walk
  exact Except.ok.inj (walked.walk.symm.trans entered)

theorem length_join (p : Path) (entry : Bytes) :
    (p.join entry).bytes.length ≤ p.bytes.length + 1 + entry.length := by
  unfold Path.join
  split
  · simp only
    omega
  · split
    · simp only [List.length_append]
      omega
    · simp only [List.length_append, List.length_cons]
      omega

theorem mem_join {p : Path} {entry : Bytes} {b : UInt8} (member : b ∈ (p.join entry).bytes) :
    b ∈ p.bytes ∨ b = slash ∨ b ∈ entry := by
  unfold Path.join at member
  split at member
  · exact .inr (.inr member)
  · split at member
    · rcases List.mem_append.1 member with first | last
      · exact .inl first
      · exact .inr (.inr last)
    · rcases List.mem_append.1 member with first | last
      · exact .inl first
      · exact .inr (List.mem_cons.1 last)

theorem slash_not_mem_name (live : Path) (suffix : Nat) : slash ∉ name live suffix := by
  rw [name, List.mem_append, not_or]
  exact ⟨(Path.exists_lead live.bytes).1, slash_not_mem suffix⟩

theorem find_entry (proper : live.Proper)
    (opened : f.find true (dir live) = .ok ⟨place, some .directory⟩)
    (leads : f.find false (path live suffix) = .ok found) :
    f.find false ((dir live).join (name live suffix)) = .ok found := by
  obtain ⟨clean, -, -, there⟩ := Files.find_eq_ok.1 opened
  obtain ⟨pure, -, fits, walked⟩ := Files.find_eq_ok.1 leads
  obtain ⟨present, short⟩ := length_dir proper
  have whole := slash_not_mem_name live suffix
  rw [steps_path] at walked
  have named := walked.last.2
  obtain rfl := find_path proper opened leads
  have spelled : (path live suffix).bytes.length + (lead live).length =
      live.bytes.length + (name live suffix).length := by
    simp only [path, name, List.length_append]
    omega
  obtain ⟨before, front, joined⟩ := steps_join present whole
  have onto : f.Leads true Files.mostLinks (start (dir live) f.here) before
      ⟨place, some .directory⟩ := by
    rcases front with same | dotted
    · rwa [same] at there
    · rw [dotted] at there
      exact there.of_stay
  refine Files.find_eq_ok.2 ⟨?_, ?_, ?_, ?_⟩
  · simp only [List.contains_eq_mem, decide_eq_false_iff_not] at clean pure ⊢
    intro member
    rcases mem_join member with old | divides | new
    · exact clean old
    · exact absurd divides (by decide)
    · apply pure
      rw [path, List.mem_append]
      rcases List.mem_append.1 new with early | late
      · left
        rcases (Path.exists_lead live.bytes).2 with alone | ⟨q, split⟩
        · rwa [alone]
        · rw [split]
          exact List.mem_append_right _ (List.mem_cons_of_mem _ early)
      · exact .inr late
  · intro empty
    have none_ := congrArg Files.steps (congrArg Path.mk empty)
    change steps ((dir live).join (name live suffix)) = _ at none_
    rw [joined, name, ofPiece_digits _ (decimal_ne_nil suffix) (isDigit_decimal suffix)] at none_
    have last := congrArg List.getLast? none_
    rw [List.getLast?_concat] at last
    cases last
  · have long := length_join (dir live) (name live suffix)
    have limits : Files.longestName = 255 ∧ Files.longestPath = 4095 := ⟨rfl, rfl⟩
    omega
  · rw [start_join present whole, joined, name,
      ofPiece_digits _ (decimal_ne_nil suffix) (isDigit_decimal suffix)]
    exact onto.enter_last named

theorem timestamp?_name (live : Path) (low : suffix < UInt64.size) :
    timestamp? (lead live) (name live suffix) = some suffix := by
  have split : name live suffix = lead live ++ [point] ++ decimal suffix := by
    rw [name, List.append_assoc]
    rfl
  rw [timestamp?, after?, split, if_pos (List.isPrefixOf_iff_prefix.2 (List.prefix_append _ _)),
    List.drop_left, Option.bind_some, value_decimal, if_pos]
  simp only [Bool.and_eq_true, Bool.not_eq_true', List.isEmpty_eq_false_iff, List.all_eq_true,
    decide_eq_true_eq]
  exact ⟨⟨decimal_ne_nil suffix, isDigit_decimal suffix⟩, low⟩

/-- A suffix is read back from a backup's name, whatever the name of the log. -/
theorem eq_of_timestamp?_name {base : Bytes} (dated : timestamp? base (name live suffix) = some t) :
    t = suffix := by
  obtain ⟨digits, split, -, all, rfl⟩ := digits_of_timestamp? dated
  have free : ∀ {digits : Bytes}, (∀ b ∈ digits, isDigit b = true) → point ∉ digits :=
    fun all member => absurd (all point member) (by decide)
  rw [name] at split
  have cut : decimal suffix = digits := by
    have same := congrArg (List.takeWhile (· ≠ point) ∘ List.reverse) split
    have taken : ∀ {before digits : Bytes}, (∀ b ∈ digits, isDigit b = true) →
        (before ++ point :: digits).reverse.takeWhile (· ≠ point) = digits.reverse := by
      intro before digits all
      rw [List.reverse_append, List.reverse_cons, List.append_assoc,
        List.takeWhile_append_of_pos]
      · simp
      · intro b member
        rw [decide_eq_true_eq]
        rintro rfl
        exact free all (List.mem_reverse.1 member)
    simp only [Function.comp, taken (isDigit_decimal suffix), taken all] at same
    exact List.reverse_injective same
  rw [← cut, value_decimal]

end Backup

theorem Backup.decode?_name {live : Path} (text : (Utf8.decode? (lead live)).isSome) (suffix : Nat) :
    (Utf8.decode? (name live suffix)).isSome := by
  refine Utf8.Legible.append text ?_
  have spelled : point :: decimal suffix = Utf8.encode ("." ++ toString suffix) := by
    rw [decimal, Utf8.encode, Utf8.encode, String.toList_append, List.flatMap_append]
    rfl
  rw [spelled]
  exact Utf8.legible_encode _

namespace Backup

variable {f g : Files} {live : Path} {place : Place} {suffix t : Nat}

/-- A place in the directory of a log with the name of a backup. -/
def Slot (f : Files) (live : Path) (t : Nat) (place : Place) : Prop :=
  ∃ base name above, live.fileName? = some base ∧ timestamp? base name = some t ∧
    f.find true (dir live) = .ok ⟨above, some .directory⟩ ∧ place = name :: above

/-- The path of the log leads to no backup and to no free place for one. -/
def Apart (f : Files) (live : Path) : Prop :=
  ∀ t place node?, Slot f live t place → f.find true live = .ok ⟨place, node?⟩ →
    node? = some .directory

theorem Slot.same (same : f.SameWays g) (slot : Slot f live t place) : Slot g live t place := by
  obtain ⟨base, name, above, named, dated, opened, rfl⟩ := slot
  exact ⟨base, name, above, named, dated, same.opens opened, rfl⟩

theorem Apart.same (same : f.SameWays g) (apart : Apart f live) : Apart g live := by
  intro t place node? slot leads
  have back := same.symm.find leads
  have dir := apart t place _ (slot.same same.symm) back
  rw [← same.directory dir]
  exact Files.node?_of_find leads

theorem slot_of_find (sound : f.Sound) {n : Nat} (led : f.number live = .ok n)
    {found : Files.Found} (leads : f.find false (path live suffix) = .ok found)
    (low : suffix < UInt64.size) : Slot f live suffix found.place := by
  obtain ⟨home, file⟩ := Files.number_eq_ok.1 led
  obtain ⟨proper, above, opened⟩ := find_dir sound file (by simp)
  rw [find_path proper opened leads]
  exact ⟨_, _, above, proper.parts.1, timestamp?_name live low, opened, rfl⟩

theorem Slot.eq (slot : Slot f live t place) (named : place.head? = some (name live suffix)) :
    t = suffix := by
  obtain ⟨base, entry, above, -, dated, -, rfl⟩ := slot
  obtain rfl : entry = name live suffix := Option.some.inj named
  exact eq_of_timestamp?_name dated

theorem Slot.head?_ne (slot : Slot f live t place) (proper : live.Proper) :
    place.head? ≠ some (lead live) := by
  obtain ⟨base, entry, above, named, dated, -, rfl⟩ := slot
  obtain rfl := Option.some.inj (proper.parts.1.symm.trans named)
  obtain ⟨digits, split, -⟩ := digits_of_timestamp? dated
  intro same
  have longer := congrArg List.length ((Option.some.inj same).symm.trans split)
  simp at longer

theorem apart_of_unlinked (sound : f.Sound) (unlinked : Unlinked f live) : Apart f live := by
  intro t place node? slot leads
  by_contra leaf
  rcases Files.find_stopping leads with stops | ⟨other, target, link⟩
  · obtain ⟨proper, -⟩ := find_dir sound stops leaf
    have spelled := steps_lead live
    rw [proper] at spelled
    exact slot.head?_ne proper (Files.head?_of_find spelled stops)
  · exact unlinked _ link target rfl

theorem apart_of_names (sound : f.Sound) {n : Nat} (names : f.Names live n) : Apart f live := by
  obtain ⟨place, leads⟩ := names
  apply apart_of_unlinked sound
  intro found other target link
  obtain rfl := Except.ok.inj (leads.symm.trans other)
  cases link

end Backup

end AuditTrail
