import AuditTrail.Proofs.Backup
import AuditTrail.Proofs.Files.Content
import AuditTrail.Sweep
import Mathlib.Data.List.TakeWhile

/-! A sweep lists regular files only, so it never removes a link. -/
namespace AuditTrail

theorem Files.remove_answers (f : Files) (p : Path) (fault : Option Files.Fault) :
    ((f.serve fault (.remove p)).1.isOk = false ∧ (f.serve fault (.remove p)).2 = f) ∨
      ∃ place node, f.find false p = .ok ⟨place, some node⟩ ∧ node ≠ .directory ∧
        f.serve fault (.remove p) = (.ok 0, f.erase place) := by
  cases fault with
  | some spoilt => exact .inl ⟨rfl, rfl⟩
  | none =>
    simp only [serve, answer, remove]
    split
    · exact .inl ⟨rfl, rfl⟩
    · exact .inl ⟨rfl, rfl⟩
    · exact .inl ⟨rfl, rfl⟩
    · next place node leaf leads => exact .inr ⟨place, node, leads, leaf, rfl⟩

/-- A removal takes away the entry that its path leads to, or nothing. -/
theorem Files.remove_cases (f : Files) (p : Path) (fault : Option Files.Fault) :
    (f.serve fault (.remove p)).2 = f ∨ ∃ place node, f.find false p = .ok ⟨place, some node⟩ ∧
      node ≠ .directory ∧ (f.serve fault (.remove p)).2 = f.erase place := by
  rcases f.remove_answers p fault with ⟨-, same⟩ | ⟨place, node, leads, leaf, served⟩
  · exact .inl same
  · exact .inr ⟨place, node, leads, leaf, by rw [served]⟩

namespace Backup

open AuditTrail.Path (slash)

variable {base name digits : Bytes} {t : Nat} {live p : Path} {f : Files} {node : Node} {b : Listed}

theorem eq_of_after? (found : after? base name = some digits) : name = base ++ digits := by
  unfold after? at found
  split at found
  · next leads =>
    obtain ⟨rest, rfl⟩ := List.isPrefixOf_iff_prefix.1 leads
    simpa using found
  · cases found

theorem digits_of_timestamp? (found : timestamp? base name = some t) :
    ∃ digits, name = base ++ point :: digits ∧ digits ≠ [] ∧ (∀ b ∈ digits, isDigit b = true) ∧
      value digits = t := by
  obtain ⟨digits, after, judged⟩ := Option.bind_eq_some_iff.1 found
  split at judged
  · next valid =>
    simp only [Bool.and_eq_true, Bool.not_eq_true', List.isEmpty_eq_false_iff, List.all_eq_true]
      at valid
    refine ⟨digits, ?_, valid.1.1, valid.1.2, Option.some.inj judged⟩
    rw [eq_of_after? after, List.append_assoc]
    rfl
  · cases judged

theorem slash_not_mem_fileName? (named : live.fileName? = some base) : slash ∉ base := by
  unfold Path.fileName? at named
  simp only at named
  split at named
  · cases named
  · obtain rfl := Option.some.inj named
    intro member
    rw [List.mem_reverse] at member
    simpa using List.mem_takeWhile_imp member

theorem slash_not_mem_of_timestamp? (whole : slash ∉ base) (dated : timestamp? base name = some t) :
    slash ∉ name := by
  obtain ⟨digits, rfl, -, all, -⟩ := digits_of_timestamp? dated
  simp only [List.mem_append, List.mem_cons, not_or]
  refine ⟨whole, by decide, fun digit => ?_⟩
  exact absurd (all slash digit) (by decide)

theorem ofPiece_of_timestamp? (dated : timestamp? base name = some t) :
    Files.Step.ofPiece name = .name name := by
  obtain ⟨digits, rfl, present, all, -⟩ := digits_of_timestamp? dated
  exact ofPiece_digits base present all

theorem ofEntry_eq_some : ofEntry f base p (name, node) = some b ↔
    f.isRegular node = true ∧ (Utf8.decode? name).isSome ∧
      timestamp? base name = some b.timestamp ∧ b.path = p.join name := by
  obtain ⟨path, stamp⟩ := b
  simp only [ofEntry, Option.ite_none_right_eq_some, Bool.and_eq_true, Option.map_eq_some_iff,
    Listed.mk.injEq]
  constructor
  · rintro ⟨⟨regular, text⟩, t, dated, rfl, rfl⟩
    exact ⟨regular, text, dated, rfl⟩
  · rintro ⟨regular, text, dated, rfl⟩
    exact ⟨⟨regular, text⟩, _, dated, rfl, rfl⟩

theorem entry_of_list {backups : List Listed} (listed : list f live = .ok backups)
    (member : b ∈ backups) : ∃ base entries name node, live.fileName? = some base ∧
      f.entries (dir live) = .ok entries ∧ (name, node) ∈ entries ∧
      ofEntry f base (dir live) (name, node) = some b := by
  unfold list among at listed
  split at listed
  · cases listed
  next base named =>
  split at listed
  · cases listed
  split at listed
  · cases listed
  next entries read =>
  obtain rfl := Except.ok.inj listed
  rw [List.mem_mergeSort] at member
  obtain ⟨⟨name, node⟩, entry, counted⟩ := List.mem_filterMap.1 member
  exact ⟨base, entries, name, node, named, read, entry, counted⟩

theorem entries_eq_ok {entries : List (Bytes × Node)}
    (listed : f.entries p = .ok entries) : ∃ dir, f.find true p = .ok ⟨dir, some .directory⟩ ∧
      ∀ e ∈ entries, (e.1 :: dir, e.2) ∈ f.nodes := by
  unfold Files.entries at listed
  split at listed
  · cases listed
  · cases listed
  · next dir found =>
    refine ⟨dir, found, ?_⟩
    obtain rfl := Except.ok.inj listed
    rintro ⟨name, node⟩ member
    obtain ⟨⟨place, node'⟩, stored, picked⟩ := List.mem_filterMap.1 member
    cases place with
    | nil => cases picked
    | cons head rest =>
      simp only at picked
      split at picked
      · next same =>
        obtain ⟨rfl, rfl⟩ := Prod.mk.inj (Option.some.inj picked)
        rw [← eq_of_beq same]
        exact stored
      · cases picked
  · cases listed

/-- The steps to an entry of a directory are those to the directory and the name. -/
theorem steps_join {dir : Path} (present : dir.bytes ≠ []) (whole : slash ∉ name) :
    ∃ before, (Files.steps dir = before ∨ Files.steps dir = before ++ [.stay]) ∧
      Files.steps (dir.join name) = before ++ [.ofPiece name] := by
  have relative : name.head? ≠ some slash := fun first => whole (List.mem_of_head? first)
  unfold Path.join
  rw [if_neg relative]
  by_cases ended : dir.bytes.getLast? = some slash
  · obtain ⟨d, spelled⟩ : ∃ d, dir.bytes = d ++ [slash] := List.getLast?_eq_some_iff.1 ended
    refine ⟨(d.splitOn slash).map .ofPiece, .inr ?_, ?_⟩
    · rw [Files.steps, spelled, List.splitOn_append_cons_self, List.splitOn_nil, List.map_append]
      rfl
    · rw [if_pos (.inr ended), Files.steps, spelled, List.append_assoc, List.singleton_append,
        List.splitOn_append_cons_self, List.splitOn_eq_singleton whole, List.map_append]
      rfl
  · refine ⟨Files.steps dir, .inl rfl, ?_⟩
    rw [if_neg (by simp [present, ended]), Files.steps, List.splitOn_append_cons_self,
      List.splitOn_eq_singleton whole, List.map_append]
    rfl

theorem start_join {dir : Path} (present : dir.bytes ≠ []) (whole : slash ∉ name) (here : Place) :
    Files.start (dir.join name) here = Files.start dir here := by
  have relative : name.head? ≠ some slash := fun first => whole (List.mem_of_head? first)
  have same : (dir.join name).isAbsolute = dir.isAbsolute := by
    unfold Path.join Path.isAbsolute
    rw [if_neg relative]
    split
    · rw [List.head?_append_of_ne_nil _ present]
    · rw [List.head?_append_of_ne_nil _ present]
  rw [Files.start, Files.start, same]

/-- An entry of a directory is found where it was listed. -/
theorem find_join {dir : Path} {place : Place} {found : Files.Found}
    (opened : f.find true dir = .ok ⟨place, some .directory⟩) (whole : slash ∉ name)
    (proper : Files.Step.ofPiece name = .name name)
    (leads : f.find false (dir.join name) = .ok found) :
    found = ⟨name :: place, f.node? (name :: place)⟩ := by
  obtain ⟨-, present, -, there⟩ := Files.find_eq_ok.1 opened
  obtain ⟨-, -, -, walked⟩ := Files.find_eq_ok.1 leads
  obtain ⟨before, steps, joined⟩ := steps_join present whole
  rw [joined, proper, start_join present whole] at walked
  have onto : f.Leads true Files.mostLinks (Files.start dir f.here) before
      ⟨place, some .directory⟩ := by
    rcases steps with same | dotted
    · rwa [same] at there
    · rw [dotted] at there
      exact there.of_stay
  have entered := (onto.enter_last walked.last.2).walk
  exact Except.ok.inj (walked.walk.symm.trans entered)

def Unlinked (f : Files) (p : Path) : Prop :=
  ∀ found, f.find false p = .ok found → ∀ target, found.node? ≠ some (.link target)

theorem Unlinked.same {g : Files} (same : f.SameWays g) {p : Path} (unlinked : Unlinked f p) :
    Unlinked g p := by
  intro found leads target link
  have back := same.symm.find leads
  refine unlinked _ back target (same.symm.link ?_)
  exact (Files.node?_of_find leads).symm.trans link

/-- A listed backup is a regular file, and its path leads to it if it leads anywhere. -/
theorem unlinked_of_list (sound : f.Sound) {backups : List Listed}
    (listed : list f live = .ok backups) : ∀ b ∈ backups, Unlinked f b.path := by
  intro b member found leads target link
  obtain ⟨base, entries, name, node, named, read, entry, counted⟩ := entry_of_list listed member
  obtain ⟨regular, -, dated, path⟩ := ofEntry_eq_some.1 counted
  obtain ⟨place, opened, stored⟩ := entries_eq_ok read
  have whole := slash_not_mem_of_timestamp? (slash_not_mem_fileName? named) dated
  rw [path] at leads
  obtain rfl := find_join opened whole (ofPiece_of_timestamp? dated) leads
  rw [sound.node?_of_mem (List.cons_ne_nil _ _) (stored _ entry)] at link
  obtain rfl := Option.some.inj link
  exact absurd regular (by simp [Files.isRegular])

end Backup

namespace Sweep

/-- The removals of the sweep do not touch links. -/
def LinkFree (f : Files) (s : Sweep) : Prop := ∀ b ∈ s.pending, Backup.Unlinked f b.path

theorem LinkFree.same {f g : Files} (same : f.SameWays g) {s : Sweep} (linkFree : s.LinkFree f) : s.LinkFree g :=
  fun b member => (linkFree b member).same same

theorem of_start {f : Files} {live : Path} {retention : Duration} {now : Moment} {s : Sweep}
    (started : start f live retention now = .ok s) : ∃ backups, Backup.list f live = .ok backups ∧
      ∀ b ∈ s.pending, b ∈ backups ∧ Backup.isExpired retention now b = true := by
  unfold start at started
  cases listed : Backup.list f live with
  | error failure => simp [listed, Except.map] at started
  | ok backups =>
    rw [listed] at started
    obtain rfl := Except.ok.inj started
    exact ⟨backups, rfl, fun b member => List.mem_filter.1 member⟩

theorem linkFree_of_start {f : Files} {live : Path} {retention : Duration} {now : Moment} {s : Sweep}
    (sound : f.Sound) (started : start f live retention now = .ok s) : s.LinkFree f := by
  obtain ⟨backups, listed, among⟩ := of_start started
  exact fun b member => Backup.unlinked_of_list sound listed b (among b member).1

theorem pending_next (s : Sweep) (answer : Files.Answer) :
    (s.next answer).pending = s.pending.tail := by
  unfold next
  split
  · rfl
  · split <;> rfl

theorem remove_cases {f : Files} {p : Path} (unlinked : Backup.Unlinked f p)
    (fault : Option Files.Fault) : (f.serve fault (.remove p)).2 = f ∨
      ∃ place n, f.node? place = some (.file n) ∧ (f.serve fault (.remove p)).2 = f.erase place := by
  rcases f.remove_cases p fault with same | ⟨place, node, leads, leaf, erased⟩
  · exact .inl same
  · cases node with
    | directory => exact absurd rfl leaf
    | link target => exact absurd rfl (unlinked _ leads target)
    | file n => exact .inr ⟨place, n, (Files.node?_of_find leads).symm, erased⟩

theorem pending_step (f : Files) (s : Sweep) (fault : Option Files.Fault) :
    (s.step fault f).1.pending = s.pending.tail := by
  unfold step
  split
  · next empty => simp [empty]
  · exact pending_next s _

/-- A step of a sweep removes one file or nothing. -/
theorem step_cases {f : Files} {s : Sweep} (linkFree : s.LinkFree f) (fault : Option Files.Fault) :
    (s.step fault f).1.pending ⊆ s.pending ∧ ((s.step fault f).2.1 = f ∨
      ∃ place n, f.node? place = some (.file n) ∧ (s.step fault f).2.1 = f.erase place) := by
  refine ⟨?_, ?_⟩
  · rw [pending_step]
    exact fun _ member => List.mem_of_mem_tail member
  · unfold step
    split
    · exact .inl rfl
    · next b rest pending =>
      exact remove_cases (linkFree b (pending ▸ List.mem_cons_self)) fault

end Sweep

end AuditTrail
