import AuditTrail.Proofs.Backup
import Mathlib.Data.List.TakeWhile

/-! Normalisation of paths. Separators and dots that are dropped do not change where a path leads;
the name and the parent of a path are read off its last component. -/
namespace AuditTrail

namespace Files

variable {f : Files} {links : Nat} {through : Bool} {place other : Place} {steps steps' : List Step}
  {found : Found}

/-- The steps that change the directory. -/
def moves (steps : List Step) : List Step := steps.filter (· ≠ .stay)

@[simp] theorem moves_append (before after : List Step) :
    moves (before ++ after) = moves before ++ moves after := List.filter_append ..

@[simp] theorem moves_stay (rest : List Step) : moves (.stay :: rest) = moves rest := rfl

@[simp] theorem moves_up (rest : List Step) : moves (.up :: rest) = .up :: moves rest := rfl

@[simp] theorem moves_name (name : Bytes) (rest : List Step) :
    moves (.name name :: rest) = .name name :: moves rest := rfl

theorem Leads.idle {stays : List Step} (stay : ∀ step ∈ stays, step = .stay)
    (dir : f.node? place = some .directory) (leads : Leads f through links place steps found) :
    Leads f through links place (stays ++ steps) found := by
  induction stays with
  | nil => exact leads
  | cons step rest ih =>
    obtain rfl := stay step List.mem_cons_self
    exact .stay dir (ih fun later member => stay later (List.mem_cons_of_mem _ member))

theorem exists_of_moves_eq {step : Step} {rest : List Step} (moving : moves steps = step :: rest) :
    ∃ stays after, steps = stays ++ step :: after ∧ (∀ s ∈ stays, s = .stay) ∧ moves after = rest := by
  obtain ⟨stays, after, split, stay, -, onward⟩ := List.filter_eq_cons_iff.1 moving
  refine ⟨stays, after, split, fun s member => ?_, onward⟩
  simpa using stay s member

/-- Steps that differ only in stays lead to the same directory. -/
theorem Leads.detour (leads : Leads f true links place steps ⟨other, some .directory⟩)
    (same : moves steps = moves steps') :
    Leads f true links place steps' ⟨other, some .directory⟩ := by
  generalize goal : (⟨other, some .directory⟩ : Found) = found at leads
  induction leads generalizing steps' with
  | here =>
    obtain ⟨-, dir⟩ := Found.mk.inj goal
    have stay : ∀ step ∈ steps', step = .stay := by
      intro step member
      simpa using List.filter_eq_nil_iff.1 same.symm step member
    rw [← List.append_nil steps']
    exact .idle stay dir.symm .here
  | stay dir onward ih =>
    rw [moves_stay] at same
    exact ih same goal
  | up dir onward ih =>
    rw [moves_up] at same
    obtain ⟨stays, after, rfl, stay, rest⟩ := exists_of_moves_eq same.symm
    exact .idle stay dir (.up dir (ih rest.symm goal))
  | leaf dir short leaf =>
    rw [← (Found.mk.inj goal).2] at leaf
    cases leaf
  | enter dir short below onward ih =>
    rw [moves_name] at same
    obtain ⟨stays, after, rfl, stay, rest⟩ := exists_of_moves_eq same.symm
    exact .idle stay dir (.enter dir short below (ih rest.symm goal))
  | stop _ _ _ wanted => cases wanted
  | follow dir short link wanted onward ih =>
    rw [moves_name] at same
    obtain ⟨stays, after, rfl, stay, rest⟩ := exists_of_moves_eq same.symm
    refine .idle stay dir (.follow dir short link (.inr rfl) (ih ?_ goal))
    rw [moves_append, moves_append, rest]

end Files

namespace Path

open Files (moves steps Step)
open Backup (lead)

variable {bytes before after piece q : Bytes} {live : Path}

theorem moves_join (before after : Bytes) :
    moves (steps ⟨before ++ slash :: after⟩) = moves (steps ⟨before⟩) ++ moves (steps ⟨after⟩) := by
  simp only [steps, List.splitOn_append_cons_self, List.map_append, Files.moves_append]

theorem moves_piece (whole : slash ∉ piece) : moves (steps ⟨piece⟩) = moves [.ofPiece piece] := by
  rw [steps, List.splitOn_eq_singleton whole]
  rfl

theorem take_drop_slash (back : Bytes) : slash ∉ back.takeWhile (· ≠ slash) ∧
    (back = back.takeWhile (· ≠ slash) ∧ back.dropWhile (· ≠ slash) = [] ∨
      ∃ rest, back.dropWhile (· ≠ slash) = slash :: rest ∧
        back = back.takeWhile (· ≠ slash) ++ slash :: rest) := by
  have split := List.takeWhile_append_dropWhile (p := (· ≠ slash)) (l := back)
  refine ⟨fun member => by simpa using List.mem_takeWhile_imp member, ?_⟩
  cases dropped : back.dropWhile (· ≠ slash) with
  | nil =>
    rw [dropped, List.append_nil] at split
    exact .inl ⟨split.symm, rfl⟩
  | cons b rest =>
    have stops := List.head?_dropWhile_not (· ≠ slash) back
    rw [dropped] at stops split
    obtain rfl : b = slash := by simpa using stops
    exact .inr ⟨rest, rfl, split.symm⟩

/-- What is trimmed from the end of a path is no step. -/
theorem moves_trimBack (back : Bytes) :
    moves (steps ⟨(trimBack back).reverse⟩) = moves (steps ⟨back.reverse⟩) := by
  fun_induction trimBack back with
  | case1 back empty =>
    rw [List.isEmpty_iff.1 empty]
  | case2 back present name idle ih =>
    obtain ⟨whole, cut⟩ := take_drop_slash back
    have stays : moves (steps ⟨name.reverse⟩) = [] := by
      rcases idle with empty | dot
      · rw [empty]
        rfl
      · rw [dot]
        rfl
    rw [ih]
    rcases cut with ⟨last, none_⟩ | ⟨rest, dropped, split⟩
    · rw [none_, last]
      exact stays.symm
    · rw [dropped]
      conv_rhs => rw [split, List.reverse_append, List.reverse_cons, List.append_assoc]
      rw [List.singleton_append, moves_join]
      change _ = _ ++ moves (steps ⟨name.reverse⟩)
      rw [stays, List.append_nil]
      rfl
  | case3 => rfl

theorem trimBack_suffix (back : Bytes) : trimBack back <:+ back := by
  fun_induction trimBack back with
  | case1 back empty => exact List.nil_suffix
  | case2 back present name idle ih =>
    exact ih.trans ((List.drop_suffix _ _).trans (List.dropWhile_suffix _))
  | case3 => exact List.suffix_rfl

/-- The last component of the path is a name. -/
def Proper (p : Path) : Prop := Step.ofPiece (lead p) = .name (lead p)

theorem lead_join (before after : Bytes) : lead ⟨before ++ slash :: after⟩ = lead ⟨after⟩ := by
  simp only [lead, List.splitOn_append_cons_self]
  exact List.getLast_append_of_ne_nil _ (List.splitOn_ne_nil _ _)

theorem lead_whole (whole : slash ∉ piece) : lead ⟨piece⟩ = piece := by
  simp only [lead, List.splitOn_eq_singleton whole, List.getLast_singleton]

theorem exists_lead (bytes : Bytes) : slash ∉ lead ⟨bytes⟩ ∧
    (bytes = lead ⟨bytes⟩ ∨ ∃ q, bytes = q ++ slash :: lead ⟨bytes⟩) := by
  obtain ⟨whole, cut⟩ := take_drop_slash bytes.reverse
  have whole' : slash ∉ (bytes.reverse.takeWhile (· ≠ slash)).reverse := by simpa using whole
  rcases cut with ⟨last, -⟩ | ⟨rest, -, split⟩
  · have same : bytes = (bytes.reverse.takeWhile (· ≠ slash)).reverse := by
      rw [← last, List.reverse_reverse]
    rw [same, lead_whole whole']
    exact ⟨whole', .inl rfl⟩
  · have same : bytes = rest.reverse ++ slash :: (bytes.reverse.takeWhile (· ≠ slash)).reverse := by
      rw [← List.reverse_reverse bytes]
      conv_lhs => rw [split]
      simp
    have last : lead ⟨bytes⟩ = (bytes.reverse.takeWhile (· ≠ slash)).reverse := by
      rw [same, lead_join, lead_whole]
      rw [← same]
      exact whole'
    rw [last]
    exact ⟨whole', .inr ⟨rest.reverse, same⟩⟩

theorem Proper.ne (proper : live.Proper) :
    lead live ≠ [] ∧ lead live ≠ [dot] ∧ lead live ≠ [dot, dot] := by
  unfold Proper Step.ofPiece at proper
  split at proper
  · cases proper
  next stays =>
  split at proper
  · cases proper
  next up =>
  exact ⟨fun empty => stays (.inl empty), fun one => stays (.inr one), up⟩

def body (p : Path) : Bytes := p.bytes.drop (head p.bytes).length

/-- The head of the path, or nothing if it has no effect. -/
inductive Headed (p : Path) : Bytes → Prop where
  | bare (same : p.body = p.bytes) (relative : p.bytes.head? ≠ some slash) : Headed p []
  | root (split : p.bytes = slash :: p.body) : Headed p [slash]
  | here (split : p.bytes = dot :: p.body) (joined : p.body.head? = some slash) : Headed p [dot]

theorem Proper.headed (proper : live.Proper) : live.Headed (head live.bytes) := by
  generalize shape : head live.bytes = h
  have rest : live.body = live.bytes.drop h.length := by rw [body, shape]
  unfold head at shape
  split at shape
  · next bytes tail same =>
    subst shape
    exact .root (by rw [rest, same]; rfl)
  · next bytes same =>
    have one : lead live = [dot] := by
      cases live
      cases same
      rfl
    exact absurd one proper.ne.2.1
  · next bytes tail same =>
    subst shape
    exact .here (by rw [rest, same]; rfl) (by rw [rest, same]; rfl)
  · next bytes relative _ _ =>
    subst shape
    refine .bare rest fun first => ?_
    obtain ⟨tail, same⟩ := List.head?_eq_some_iff.1 first
    exact relative tail same

theorem Headed.append {h : Bytes} (headed : live.Headed h) : live.bytes = h ++ live.body := by
  cases headed with
  | bare same => exact same.symm
  | root split | here split => exact split

theorem Headed.lead_body {h : Bytes} (headed : live.Headed h) : lead ⟨live.body⟩ = lead live := by
  cases headed with
  | bare same => rw [same]
  | root split =>
    have joined := lead_join [] live.body
    rw [List.nil_append, ← split] at joined
    exact joined.symm
  | here split joined =>
    obtain ⟨tail, same⟩ := List.head?_eq_some_iff.1 joined
    have long := lead_join [dot] tail
    have short := lead_join [] tail
    rw [List.nil_append, ← same] at short
    rw [List.singleton_append, ← same, ← split] at long
    exact short.trans long.symm

theorem Headed.moves {h part : Bytes} (headed : live.Headed h) (begins : part <+: live.body) :
    moves (steps ⟨h ++ part⟩) = moves (steps ⟨part⟩) := by
  cases headed with
  | bare => rfl
  | root =>
    have joined := moves_join [] part
    exact joined
  | here split joined =>
    cases part with
    | nil => rfl
    | cons b tail =>
      obtain ⟨more, same⟩ := begins
      rw [← same] at joined
      obtain rfl : b = slash := by simpa using joined
      exact (moves_join [dot] tail).trans (moves_join [] tail).symm

/-- The directory and the file name of a proper path. -/
theorem Proper.parts (proper : live.Proper) :
    live.fileName? = some (lead live) ∧ ∃ q, q <+: live.body ∧
      (live.body = lead live ∧ q = [] ∨ live.body = q ++ slash :: lead live) ∧
      live.parent? = some ⟨head live.bytes ++ (trimBack q.reverse).reverse⟩ := by
  obtain ⟨present, some_, up⟩ := proper.ne
  have last := proper.headed.lead_body
  obtain ⟨whole, cut⟩ := exists_lead live.body
  rw [last] at whole cut
  have stops : ∀ b ∈ (lead live).reverse, (decide (b ≠ slash)) = true := by
    intro b member
    rw [decide_eq_true_eq]
    rintro rfl
    exact whole (List.mem_reverse.1 member)
  obtain ⟨rest, backwards, ends⟩ : ∃ rest, live.body.reverse = (lead live).reverse ++ rest ∧
      rest.takeWhile (· ≠ slash) = [] ∧ rest.dropWhile (· ≠ slash) = rest ∧
      ∃ q, q <+: live.body ∧ rest.drop 1 = q.reverse ∧
        (live.body = lead live ∧ q = [] ∨ live.body = q ++ slash :: lead live) := by
    rcases cut with alone | ⟨q, split⟩
    · refine ⟨[], ?_, rfl, rfl, [], List.nil_prefix, rfl, .inl ⟨alone, rfl⟩⟩
      rw [List.append_nil, ← alone]
    · refine ⟨slash :: q.reverse, ?_, by simp, by simp, q, ?_, rfl, .inr split⟩
      · conv_lhs => rw [split]
        simp
      · rw [split]
        exact List.prefix_append _ _
  obtain ⟨taken, dropped, q, part, before, shape⟩ := ends
  have name : (live.body.reverse).takeWhile (· ≠ slash) = (lead live).reverse := by
    rw [backwards, List.takeWhile_append_of_pos stops, taken, List.append_nil]
  have onward : (live.body.reverse).dropWhile (· ≠ slash) = rest := by
    rw [backwards, List.dropWhile_append_of_pos stops, dropped]
  have nonempty : live.body.reverse ≠ [] := by
    rw [backwards]
    simp [present]
  have back : live.back = live.body.reverse := by
    unfold Path.back
    change trimBack live.body.reverse = _
    unfold trimBack
    rw [if_neg (by simpa using nonempty)]
    simp only [name]
    rw [if_neg]
    rintro (empty | dot)
    · exact present (List.reverse_eq_nil_iff.1 empty)
    · exact some_ (List.reverse_eq_iff.1 dot)
  constructor
  · simp only [fileName?, back, name, List.reverse_reverse]
    rw [if_neg (by simp [present, up])]
  · refine ⟨q, part, shape, ?_⟩
    simp only [parent?, back, onward, before]
    rw [if_neg (by simpa using nonempty)]

end Path

end AuditTrail
