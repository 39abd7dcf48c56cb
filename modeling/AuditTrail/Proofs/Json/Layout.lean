import AuditTrail.Json.Layout
import AuditTrail.Proofs.Json.Text
import Mathlib.Data.List.Basic
import Mathlib.Data.List.Nodup

/-! Reading a structure does not depend on the order of its members. `Layout.gather` asks for each
field of a layout what the members give it; `toOption_ofMembers` says that reading the members in
order gives the same if no field is given twice, and fails otherwise. -/
namespace AuditTrail.Json

variable {ε α : Type}

/-- The two fields may be put in either order. -/
def Field.Apart (f g : Field ε α) : Prop := ∀ v w a,
  ((f.put v a).toOption.bind fun a => (g.put w a).toOption) =
    (g.put w a).toOption.bind fun a => (f.put v a).toOption

def Field.give (f : Field ε α) : Option Json → α → Option α
  | none, a => some a
  | some v, a => (f.put v a).toOption

/-- The value of the first member with a name. -/
def given? (members : List (Bytes × Json)) (name : String) : Option Json :=
  (members.find? fun m => unescape? m.1 = some name).map (·.2)

namespace Layout

def names (layout : Layout ε α) : List String := layout.map (·.name)

/-- The fields have distinct names, may be put in any order, and ignore `null`. -/
structure Lenient (layout : Layout ε α) : Prop where
  distinct : layout.names.Nodup
  apart : layout.Pairwise Field.Apart
  null : ∀ f ∈ layout, ∀ a, f.put .null a = .ok a

def known (layout : Layout ε α) (members : List (Bytes × Json)) : List String :=
  (members.filterMap fun m => unescape? m.1).filter (· ∈ layout.names)

/-- All member names are valid text, and no field is given twice. -/
structure Readable (layout : Layout ε α) (members : List (Bytes × Json)) : Prop where
  named : ∀ m ∈ members, (unescape? m.1).isSome
  once : (layout.known members).Nodup

/-- Reads the fields in their own order instead of the order of the text. -/
def gather (layout : Layout ε α) (given : String → Option Json) (a : α) : Option α :=
  layout.foldlM (fun a f => f.give (given f.name) a) a

theorem Lenient.eq_of_name {layout : Layout ε α} {f g : Field ε α} (lenient : layout.Lenient)
    (left : f ∈ layout) (right : g ∈ layout) (same : f.name = g.name) : f = g :=
  List.inj_on_of_nodup_map lenient.distinct left right same

variable {layout : Layout ε α} {members members' : List (Bytes × Json)}
  {given given' : String → Option Json} {f : Field ε α} {raw raw' : Bytes} {name : String} {v w : Json}
  {a b : α} {seen : List String}

theorem gather_congr (same : ∀ f ∈ layout, ∀ a, f.give (given f.name) a = f.give (given' f.name) a) :
    layout.gather given a = layout.gather given' a := by
  unfold gather
  induction layout generalizing a with
  | nil => rfl
  | cons f rest ih =>
    obtain ⟨here, later⟩ := List.forall_mem_cons.1 same
    rw [List.foldlM_cons, List.foldlM_cons, here]
    exact Option.bind_congr fun b _ => ih later

theorem gather_none : layout.gather (fun _ => none) a = some a := by
  unfold gather
  induction layout generalizing a with
  | nil => rfl
  | cons f rest ih => exact ih

theorem gather_apart (apart : ∀ g ∈ layout, g.Apart f) :
    ((layout.gather given a).bind fun a => (f.put v a).toOption) =
      (f.put v a).toOption.bind fun a => layout.gather given a := by
  unfold gather
  induction layout generalizing a with
  | nil => simp
  | cons g rest ih =>
    obtain ⟨here, later⟩ := List.forall_mem_cons.1 apart
    simp only [List.foldlM_cons, Option.bind_eq_bind, Option.bind_assoc, ih later]
    cases given g.name with
    | none => simp [Field.give]
    | some w => simp only [Field.give, ← Option.bind_assoc, here w v a]

theorem gather_first (lenient : layout.Lenient) (field : f ∈ layout) (here : given f.name = some v)
    (later : given' f.name = none) (others : ∀ name, name ≠ f.name → given name = given' name) :
    layout.gather given a = (f.put v a).toOption.bind fun a => layout.gather given' a := by
  obtain ⟨before, after, rfl⟩ := List.append_of_mem field
  obtain ⟨distinct, apart, -⟩ := lenient
  obtain ⟨-, -, apart⟩ := List.pairwise_append.1 apart
  have alone : ∀ g ∈ before ++ after, g.name ≠ f.name := by
    rw [names, List.map_append, List.map_cons, List.nodup_middle, List.nodup_cons,
      ← List.map_append] at distinct
    intro g member same
    exact distinct.1 (List.mem_map.2 ⟨g, member, same⟩)
  have same : ∀ part : Layout ε α, (∀ g ∈ part, g ∈ before ++ after) → ∀ a,
      part.gather given a = part.gather given' a := by
    intro part within a
    refine gather_congr fun g member a => ?_
    rw [others _ (alone g (within g member))]
  have split : ∀ given : String → Option Json, ∀ a, gather (before ++ f :: after) given a =
      (gather before given a).bind fun a => (f.give (given f.name) a).bind fun a =>
        gather after given a := by
    intro given a
    simp only [gather, List.foldlM_append, List.foldlM_cons, Option.bind_eq_bind]
  have front := same before fun g member => List.mem_append_left _ member
  have back := same after fun g member => List.mem_append_right _ member
  rw [split, here, front]
  simp only [split given', later, Field.give, Option.bind_some, back]
  rw [← Option.bind_assoc, gather_apart fun g member => apart g member f List.mem_cons_self,
    Option.bind_assoc]

theorem given?_cons (m : Bytes × Json) (members : List (Bytes × Json)) (name : String) :
    given? (m :: members) name =
      if unescape? m.1 = some name then some m.2 else given? members name := by
  unfold given?
  rw [List.find?_cons]
  split <;> simp_all

theorem known_cons (named : unescape? raw = some name) :
    layout.known ((raw, v) :: members) =
      if name ∈ layout.names then name :: layout.known members else layout.known members := by
  simp only [known, List.filterMap_cons, named, List.filter_cons, decide_eq_true_eq]

theorem given?_eq_none (absent : name ∉ layout.known members) (field : name ∈ layout.names) :
    given? members name = none := by
  rw [given?, Option.map_eq_none_iff, List.find?_eq_none]
  intro m member named
  apply absent
  rw [known, List.mem_filter, List.mem_filterMap]
  exact ⟨⟨m, member, of_decide_eq_true named⟩, decide_eq_true field⟩

theorem readable_cons (named : unescape? raw = some name) : layout.Readable ((raw, v) :: members) ↔
    (∀ m ∈ members, (unescape? m.1).isSome) ∧ (layout.known ((raw, v) :: members)).Nodup := by
  constructor
  · exact fun ⟨all, once⟩ => ⟨(List.forall_mem_cons.1 all).2, once⟩
  · exact fun ⟨later, once⟩ => ⟨List.forall_mem_cons.2 ⟨by rw [named]; rfl, later⟩, once⟩

theorem known_sublist (part : members.Sublist members') :
    (layout.known members).Sublist (layout.known members') := (part.filterMap _).filter _

theorem given?_eq_some (once : (layout.known members).Nodup) (field : name ∈ layout.names) :
    given? members name = some v ↔ ∃ raw, (raw, v) ∈ members ∧ unescape? raw = some name := by
  constructor
  · intro given
    obtain ⟨⟨raw, w⟩, found, rfl⟩ := Option.map_eq_some_iff.1 given
    exact ⟨raw, List.mem_of_find?_eq_some found, by simpa using List.find?_some found⟩
  · rintro ⟨raw, member, named⟩
    obtain ⟨before, after, rfl⟩ := List.append_of_mem member
    have first : ∀ m ∈ before, unescape? m.1 ≠ some name := by
      rintro ⟨raw', w⟩ earlier again
      have twice : [(raw', w), (raw, v)].Sublist (before ++ (raw, v) :: after) :=
        (List.singleton_sublist.2 earlier).append (List.singleton_sublist.2 List.mem_cons_self)
      have names := once.sublist (known_sublist twice)
      rw [known_cons again, known_cons named, if_pos field, if_pos field] at names
      exact (List.nodup_cons.1 names).1 List.mem_cons_self
    rw [given?, List.find?_append, List.find?_eq_none.2 (by simpa using first), Option.none_or,
      List.find?_cons_of_pos (by simpa using named), Option.map_some]

theorem given?_perm (once : (layout.known members).Nodup) (field : name ∈ layout.names)
    (order : members.Perm members') : given? members name = given? members' name := by
  have known : (layout.known members).Perm (layout.known members') := (order.filterMap _).filter _
  refine Option.ext fun v => ?_
  rw [given?_eq_some once field, given?_eq_some (known.nodup_iff.1 once) field]
  exact exists_congr fun raw => and_congr_left' order.mem_iff

theorem not_mem_names (found : layout.find? (·.name == name) = none) : name ∉ layout.names := by
  rw [names, List.mem_map]
  rintro ⟨g, member, rfl⟩
  simpa using List.find?_eq_none.1 found g member

theorem not_mem_before {before after : Layout ε α} (distinct : (names (before ++ f :: after)).Nodup) :
    f.name ∉ before.names := by
  rw [names, List.map_append, List.map_cons, List.nodup_append] at distinct
  exact fun member => distinct.2.2 _ member _ List.mem_cons_self rfl

theorem find?_name (distinct : layout.names.Nodup) (field : f ∈ layout) :
    layout.find? (·.name == f.name) = some f := by
  obtain ⟨before, after, rfl⟩ := List.append_of_mem field
  rw [List.find?_append, List.find?_cons_of_pos (by simp), List.find?_eq_none.2, Option.none_or]
  intro g member same
  exact not_mem_before distinct (List.mem_map.2 ⟨g, member, by simpa using same⟩)

variable [Complaint ε]

/-- Reading in the order of the text and gathering by field give the same result. -/
theorem ofMembers_gather (lenient : layout.Lenient) (readable : layout.Readable members)
    (unseen : ∀ name ∈ layout.known members, name ∉ seen) :
    (layout.ofMembers seen members a).toOption = layout.gather (given? members) a := by
  -- By induction on the members: the first one names no field, or its value may be put before all others.
  induction members generalizing seen a with
  | nil => exact gather_none.symm
  | cons m rest ih =>
    obtain ⟨raw, v⟩ := m
    obtain ⟨named, once⟩ := readable
    obtain ⟨here, later⟩ := List.forall_mem_cons.1 named
    obtain ⟨name, spelled⟩ := Option.isSome_iff_exists.1 here
    have given : ∀ other, other ≠ name → given? ((raw, v) :: rest) other = given? rest other := by
      intro other differs
      rw [given?_cons, spelled, if_neg (by simpa using differs.symm)]
    rw [known_cons spelled] at once unseen
    simp only [ofMembers, spelled]
    cases found : layout.find? (·.name == name) with
    | none =>
      have unknown := not_mem_names found
      rw [if_neg unknown] at once unseen
      rw [ih ⟨later, once⟩ unseen]
      refine gather_congr fun g member a => ?_
      rw [given g.name]
      rintro rfl
      exact unknown (List.mem_map_of_mem member)
    | some f =>
      have field := List.mem_of_find?_eq_some found
      obtain rfl : f.name = name := by simpa using List.find?_some found
      have listed : f.name ∈ layout.names := List.mem_map_of_mem field
      rw [if_pos listed] at once unseen
      obtain ⟨absent, once⟩ := List.nodup_cons.1 once
      obtain ⟨fresh, unseen⟩ := List.forall_mem_cons.1 unseen
      have first := gather_first (a := a) lenient field (v := v) (by rw [given?_cons, if_pos spelled])
        (given?_eq_none absent listed) given
      rw [first]
      simp only [List.contains_iff_mem, if_neg fresh]
      cases put : f.put v a with
      | error e => rfl
      | ok b =>
        refine ih ⟨later, once⟩ fun other member => ?_
        rw [List.mem_cons, not_or]
        exact ⟨fun same => absent (same ▸ member), unseen other member⟩

theorem readable_of_ofMembers (read : layout.ofMembers seen members a = .ok b) :
    layout.Readable members ∧ (∀ name ∈ layout.known members, name ∉ seen) := by
  induction members generalizing seen a with
  | nil => exact ⟨⟨nofun, .nil⟩, nofun⟩
  | cons m rest ih =>
    obtain ⟨raw, v⟩ := m
    simp only [ofMembers] at read
    cases spelled : unescape? raw with
    | none => simp [spelled] at read
    | some name =>
      simp only [spelled] at read
      have named : ∀ {rest}, (∀ m ∈ rest, (unescape? m.1).isSome) →
          ∀ m ∈ (raw, v) :: rest, (unescape? m.1).isSome :=
        fun later => List.forall_mem_cons.2 ⟨by rw [spelled]; rfl, later⟩
      cases found : layout.find? (·.name == name) with
      | none =>
        have unknown := not_mem_names found
        simp only [found] at read
        obtain ⟨⟨later, once⟩, unseen⟩ := ih read
        have same : layout.known ((raw, v) :: rest) = _ := known_cons spelled
        rw [if_neg unknown] at same
        exact ⟨⟨named later, same ▸ once⟩, same ▸ unseen⟩
      | some f =>
        obtain rfl : f.name = name := by simpa using List.find?_some found
        have field : f.name ∈ layout.names := List.mem_map_of_mem (List.mem_of_find?_eq_some found)
        simp only [found] at read
        split at read
        · cases read
        next fresh =>
        split at read
        · obtain ⟨⟨later, once⟩, unseen⟩ := ih read
          have same : layout.known ((raw, v) :: rest) = _ := known_cons spelled
          rw [if_pos field] at same
          refine ⟨⟨named later, same ▸ List.nodup_cons.2 ⟨?_, once⟩⟩, same ▸ ?_⟩
          · intro member
            exact unseen _ member List.mem_cons_self
          · refine List.forall_mem_cons.2 ⟨by simpa using fresh, fun other member => ?_⟩
            exact fun old => unseen other member (List.mem_cons_of_mem _ old)
        · cases read

theorem ofMembers_congr (lenient : layout.Lenient)
    (readable : layout.Readable members ↔ layout.Readable members')
    (same : layout.Readable members → ∀ f ∈ layout, ∀ a,
      f.give (given? members f.name) a = f.give (given? members' f.name) a) :
    (layout.ofMembers [] members a).toOption = (layout.ofMembers [] members' a).toOption := by
  have refused : ∀ {members}, ¬ layout.Readable members →
      (layout.ofMembers [] members a).toOption = none := by
    intro members unreadable
    cases read : layout.ofMembers [] members a with
    | error e => rfl
    | ok b => exact absurd (readable_of_ofMembers read).1 unreadable
  by_cases first : layout.Readable members
  · rw [ofMembers_gather lenient first fun _ _ => List.not_mem_nil,
      ofMembers_gather lenient (readable.1 first) fun _ _ => List.not_mem_nil]
    exact gather_congr (same first)
  · rw [refused first, refused (mt readable.2 first)]

/-- The order of the members does not matter. -/
theorem ofMembers_perm (lenient : layout.Lenient) (order : members.Perm members') :
    (layout.ofMembers [] members a).toOption = (layout.ofMembers [] members' a).toOption := by
  have known : (layout.known members).Perm (layout.known members') := (order.filterMap _).filter _
  refine ofMembers_congr lenient ?_ fun readable f field a => ?_
  · constructor
    · rintro ⟨named, once⟩
      exact ⟨fun m member => named m (order.mem_iff.2 member), known.nodup_iff.1 once⟩
    · rintro ⟨named, once⟩
      exact ⟨fun m member => named m (order.mem_iff.1 member), known.nodup_iff.2 once⟩
  · rw [given?_perm readable.once (List.mem_map_of_mem field) order]

theorem ofMembers_null (lenient : layout.Lenient) (named : unescape? raw = some name)
    (field : name ∈ layout.names) (absent : name ∉ layout.known members) :
    (layout.ofMembers [] ((raw, .null) :: members) a).toOption =
      (layout.ofMembers [] members a).toOption := by
  refine ofMembers_congr lenient ?_ fun _ f member a => ?_
  · rw [readable_cons named, known_cons named, if_pos field, List.nodup_cons]
    exact ⟨fun both => ⟨both.1, both.2.2⟩, fun both => ⟨both.1, absent, both.2⟩⟩
  · rw [given?_cons, named]
    split
    next same =>
      obtain rfl := Option.some.inj same
      rw [given?_eq_none absent field]
      exact congrArg Except.toOption (lenient.null f member a)
    next => rfl

theorem ofMembers_unknown (lenient : layout.Lenient) (named : unescape? raw = some name)
    (unknown : name ∉ layout.names) :
    (layout.ofMembers [] ((raw, v) :: members) a).toOption =
      (layout.ofMembers [] members a).toOption := by
  refine ofMembers_congr lenient ?_ fun _ f member a => ?_
  · rw [readable_cons named, known_cons named, if_neg unknown]
    exact ⟨fun both => ⟨both.1, both.2⟩, fun both => ⟨both.1, both.2⟩⟩
  · rw [given?_cons, named, if_neg]
    rintro ⟨⟩
    exact unknown (List.mem_map_of_mem member)

theorem ofMembers_value (lenient : layout.Lenient) (named : unescape? raw = some f.name)
    (field : f ∈ layout) (alike : ∀ a, (f.put v a).toOption = (f.put w a).toOption) :
    (layout.ofMembers [] ((raw, v) :: members) a).toOption =
      (layout.ofMembers [] ((raw, w) :: members) a).toOption := by
  refine ofMembers_congr lenient ?_ fun _ g member a => ?_
  · rw [readable_cons named, readable_cons named, known_cons named, known_cons named]
  · rw [given?_cons, given?_cons, named]
    split
    next same =>
      obtain rfl := lenient.eq_of_name field member (Option.some.inj same)
      exact alike a
    next => rfl

theorem ofMembers_twice (first : unescape? raw = some name) (second : unescape? raw' = some name)
    (field : name ∈ layout.names) (twice : [(raw, v), (raw', w)].Sublist members) :
    (layout.ofMembers seen members a).toOption = none := by
  cases read : layout.ofMembers seen members a with
  | error e => rfl
  | ok b =>
    have once := (readable_of_ofMembers read).1.once.sublist (known_sublist twice)
    rw [known_cons first, known_cons second, if_pos field, if_pos field] at once
    exact absurd List.mem_cons_self (List.nodup_cons.1 once).1

theorem ofMembers_refused (lenient : layout.Lenient) (field : f ∈ layout)
    (named : unescape? raw = some f.name) (member : (raw, v) ∈ members)
    (refused : ∀ a, (f.put v a).toOption = none) :
    (layout.ofMembers seen members a).toOption = none := by
  cases read : layout.ofMembers seen members a with
  | error e => rfl
  | ok b =>
    obtain ⟨readable, unseen⟩ := readable_of_ofMembers read
    have listed : f.name ∈ layout.names := List.mem_map_of_mem field
    have given := (given?_eq_some readable.once listed).2 ⟨raw, member, named⟩
    let others := fun name => if name = f.name then none else given? members name
    have first : layout.gather (given? members) a = (f.put v a).toOption.bind (layout.gather others) :=
      gather_first lenient field given (if_pos rfl) fun name other => (if_neg other).symm
    rw [← read, ofMembers_gather lenient readable unseen, first, refused]
    rfl

theorem ofArray_refused {elements : List Json} {i : Nat} (field : layout[i]? = some f)
    (element : elements[i]? = some v) (refused : ∀ a, (f.put v a).toOption = none) :
    (layout.ofArray elements a).toOption = none := by
  induction layout generalizing elements i a with
  | nil => cases field
  | cons g rest ih =>
    cases elements with
    | nil => cases element
    | cons w elements =>
      unfold ofArray
      cases i with
      | zero =>
        obtain rfl : g = f := Option.some.inj field
        obtain rfl : w = v := Option.some.inj element
        have stopped := refused a
        cases put : g.put w a with
        | error e => rfl
        | ok b => rw [put] at stopped; cases stopped
      | succ i =>
        cases g.put w a with
        | error e => rfl
        | ok b => exact ih field element

/-! ### Writing -/

/-- Members that give values to the fields in the order of the fields, with the resulting structure. -/
inductive Gives : Layout ε α → List (Bytes × Json) → α → α → Prop where
  | done {a : α} : Gives [] [] a a
  | skip {layout : Layout ε α} {f : Field ε α} {members : List (Bytes × Json)} {a c : α}
      (rest : Gives layout members a c) : Gives (f :: layout) members a c
  | give {layout : Layout ε α} {f : Field ε α} {v : Json} {members : List (Bytes × Json)} {a b c : α}
      (put : f.put v a = .ok b) (rest : Gives layout members b c) :
      Gives (f :: layout) ((escape f.name, v) :: members) a c

theorem ofMembers_gives (before : Layout ε α) (gives : layout.Gives members a b)
    (distinct : (names (before ++ layout)).Nodup) (passed : ∀ name ∈ seen, name ∈ before.names) :
    ofMembers (before ++ layout) seen members a = .ok b := by
  induction gives generalizing before seen with
  | done => rfl
  | @skip layout f members a c _ ih =>
    have further := @ih seen (before ++ [f])
    simp only [List.append_assoc, List.cons_append, List.nil_append] at further
    refine further distinct fun name member => ?_
    rw [names, List.map_append]
    exact List.mem_append_left _ (passed name member)
  | @give layout f v members a b c put _ ih =>
    have found := find?_name distinct (List.mem_append_right before (List.mem_cons_self (a := f)))
    have fresh : f.name ∉ seen := fun again => not_mem_before distinct (passed _ again)
    have further := @ih (f.name :: seen) (before ++ [f])
    simp only [List.append_assoc, List.cons_append, List.nil_append] at further
    simp only [ofMembers, unescape?_escape, found, List.contains_iff_mem, if_neg fresh, put]
    refine further distinct (List.forall_mem_cons.2 ⟨?_, fun name member => ?_⟩)
    · simp [names]
    · rw [names, List.map_append]
      exact List.mem_append_left _ (passed name member)

theorem decode_gives (distinct : layout.names.Nodup) (gives : layout.Gives members a b) :
    layout.decode a (.object members) = .ok b :=
  ofMembers_gives [] gives distinct nofun

end Layout

end AuditTrail.Json
