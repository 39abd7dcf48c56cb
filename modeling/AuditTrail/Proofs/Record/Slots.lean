import AuditTrail.Proofs.Record.Tolerance

/-! Positions of values in a record. A structure has a slot for each of its fields, in an object
behind the name and in an array by position, and a structure within another stands in one of its
slots. `Slot.reads` says that a value in a slot is read after what precedes it, by its own field,
and that what follows does not change that field. -/
namespace AuditTrail

namespace Json

variable {ε α : Type}

/-- Whether a field takes a value does not depend on the values read before. -/
def Field.Steady (f : Field ε α) : Prop := ∀ v, (∀ a, ∃ b, f.put v a = .ok b) ∨ ∀ a, ∃ e, f.put v a = .error e

namespace Layout

variable {layout : Layout ε α} {f : Field ε α} {name : String} {seen : List String} {a : α}

/-- No other field changes what `get` sees. -/
def Owns {β : Type} (layout : Layout ε α) (name : String) (get : α → β) : Prop :=
  ∀ f ∈ layout, f.name ≠ name → ∀ v a b, f.put v a = .ok b → get b = get a

/-- A reading of other fields: it succeeds or fails whatever was read before, and leaves the named field
unchanged. -/
structure Aside (layout : Layout ε α) (name : String) (read : α → Except ε α) : Prop where
  steady : (∀ a, ∃ b, read a = .ok b) ∨ ∀ a, ∃ e, read a = .error e
  keeps : ∀ {β : Type} {get : α → β}, layout.Owns name get → ∀ a b, read a = .ok b → get b = get a

theorem aside_ok : layout.Aside name fun a => .ok a where
  steady := .inl fun a => ⟨a, rfl⟩
  keeps _ a b read := by rw [Except.ok.inj read]

theorem aside_error (e : ε) : layout.Aside name fun _ => .error e where
  steady := .inr fun _ => ⟨e, rfl⟩
  keeps _ _ _ read := by cases read

theorem Aside.after {read : α → Except ε α} {v : Json} (aside : layout.Aside name read) (field : f ∈ layout)
    (other : f.name ≠ name) (steady : f.Steady) : layout.Aside name fun a => f.put v a >>= read where
  steady := by
    rcases steady v with takes | refuses
    · rcases aside.steady with reads | fails
      · refine .inl fun a => ?_
        obtain ⟨b, put⟩ := takes a
        rw [put]
        exact reads b
      · refine .inr fun a => ?_
        obtain ⟨b, put⟩ := takes a
        rw [put]
        exact fails b
    · refine .inr fun a => ?_
      obtain ⟨e, put⟩ := refuses a
      rw [put]
      exact ⟨e, rfl⟩
  keeps owns a c done := by
    cases put : f.put v a with
    | error e => rw [put] at done; cases done
    | ok b =>
      rw [put] at done
      exact (aside.keeps owns b c done).trans (owns f field other v a b put)

theorem Aside.passes {read : α → Except ε α} {b c : α} (aside : layout.Aside name read) (done : read b = .ok c)
    (a : α) : ∃ b, read a = .ok b := by
  rcases aside.steady with reads | fails
  · exact reads a
  · obtain ⟨e, refused⟩ := fails b
    cases refused.symm.trans done

/-- A reading with a value at some place fails before it, or puts it into the field and then reads other
fields. -/
def Reads (layout : Layout ε α) (f : Field ε α) (read : Json → Except ε α) : Prop :=
  (∃ e, ∀ v, read v = .error e) ∨
    ∃ a back, layout.Aside f.name back ∧ ∀ v, read v = f.put v a >>= back

theorem Reads.after {g : Field ε α} {w : Json} {read : Json → α → Except ε α}
    (reads : ∀ a, layout.Reads f fun v => read v a) (a : α) :
    layout.Reads f fun v => g.put w a >>= read v := by
  cases put : g.put w a with
  | error e => exact .inl ⟨e, fun v => rfl⟩
  | ok b => exact reads b

variable [Complaint ε]

theorem ofMembers_cons (layout : Layout ε α) (seen : List String) (raw : Bytes) (v : Json) :
    (∃ e, ∀ rest, layout.ofMembers seen ((raw, v) :: rest) = fun _ => .error e) ∨
    (∀ rest, layout.ofMembers seen ((raw, v) :: rest) = layout.ofMembers seen rest) ∨
    ∃ f ∈ layout, f.name ∉ seen ∧ ∀ rest, layout.ofMembers seen ((raw, v) :: rest) =
      fun a => f.put v a >>= layout.ofMembers (f.name :: seen) rest := by
  cases spelled : unescape? raw with
  | none => exact .inl ⟨malformed, fun rest => by funext a; simp only [ofMembers, spelled]⟩
  | some name =>
    cases found : layout.find? (·.name == name) with
    | none => exact .inr (.inl fun rest => by funext a; simp only [ofMembers, spelled, found])
    | some f =>
      obtain rfl : f.name = name := by simpa using List.find?_some found
      by_cases given : f.name ∈ seen
      · refine .inl ⟨malformed, fun rest => ?_⟩
        funext a
        simp only [ofMembers, spelled, found, List.contains_iff_mem, if_pos given]
      · refine .inr (.inr ⟨f, List.mem_of_find?_eq_some found, given, fun rest => ?_⟩)
        funext a
        simp only [ofMembers, spelled, found, List.contains_iff_mem, if_neg given]
        cases f.put v a <;> rfl

theorem aside_ofMembers (steady : ∀ f ∈ layout, f.Steady) (given : name ∈ seen)
    (members : List (Bytes × Json)) : layout.Aside name (layout.ofMembers seen members) := by
  induction members generalizing seen with
  | nil => exact aside_ok
  | cons m rest ih =>
    obtain ⟨raw, v⟩ := m
    rcases ofMembers_cons layout seen raw v with refused | passed | ⟨f, field, fresh, taken⟩
    · obtain ⟨e, same⟩ := refused
      exact same rest ▸ aside_error e
    · exact passed rest ▸ ih given
    · rw [taken rest]
      refine (ih (List.mem_cons_of_mem f.name given)).after field ?_ (steady f field)
      rintro rfl
      exact fresh given

theorem ofArray_cons (f : Field ε α) (fields : Layout ε α) (v : Json) (rest : List Json) :
    ofArray (f :: fields) (v :: rest) = fun a => f.put v a >>= ofArray fields rest := by
  funext a
  unfold ofArray
  cases f.put v a <;> rfl

theorem aside_ofArray {fields : Layout ε α} (steady : ∀ f ∈ fields, f ∈ layout ∧ f.name ≠ name ∧ f.Steady)
    (elements : List Json) : layout.Aside name (ofArray fields elements) := by
  induction fields generalizing elements with
  | nil => cases elements with
    | nil => exact aside_ok
    | cons v rest => exact aside_error malformed
  | cons f fields ih =>
    obtain ⟨⟨field, other, here⟩, later⟩ := List.forall_mem_cons.1 steady
    cases elements with
    | nil => exact aside_ok
    | cons v rest =>
      rw [ofArray_cons]
      exact (ih later rest).after field other here

variable {raw : Bytes}

theorem reads_ofMembers (steady : ∀ f ∈ layout, f.Steady) (distinct : layout.names.Nodup) (field : f ∈ layout)
    (named : unescape? raw = some f.name) (before after : List (Bytes × Json)) (seen : List String) (a : α) :
    layout.Reads f fun v => layout.ofMembers seen (before ++ (raw, v) :: after) a := by
  induction before generalizing seen a with
  | nil =>
    have found := find?_name distinct field
    by_cases given : f.name ∈ seen
    · refine .inl ⟨malformed, fun v => ?_⟩
      simp only [List.nil_append, ofMembers, named, found, List.contains_iff_mem, if_pos given]
    · refine .inr ⟨a, layout.ofMembers (f.name :: seen) after,
        aside_ofMembers steady List.mem_cons_self after, fun v => ?_⟩
      simp only [List.nil_append, ofMembers, named, found, List.contains_iff_mem, if_neg given]
      cases f.put v a <;> rfl
  | cons m before ih =>
    obtain ⟨raw', w⟩ := m
    simp only [List.cons_append]
    rcases ofMembers_cons layout seen raw' w with ⟨e, refused⟩ | passed | ⟨g, -, -, taken⟩
    · exact .inl ⟨e, fun v => congrFun (refused _) a⟩
    · simp only [passed]
      exact ih seen a
    · simp only [taken]
      exact .after (fun a => ih (g.name :: seen) a) a

theorem reads_ofArray {fields : Layout ε α} (steady : ∀ f ∈ fields, f ∈ layout ∧ f.Steady)
    (distinct : fields.names.Nodup) (before after : List Json) (turn : fields[before.length]? = some f)
    (a : α) :
    layout.Reads f fun v => ofArray fields (before ++ v :: after) a := by
  induction fields generalizing before a with
  | nil => cases turn
  | cons g fields ih =>
    obtain ⟨here, later⟩ := List.forall_mem_cons.1 steady
    obtain ⟨apart, distinct⟩ := List.nodup_cons.1 distinct
    cases before with
    | nil =>
      obtain rfl := Option.some.inj turn
      refine .inr ⟨a, ofArray fields after, aside_ofArray (fun f member => ?_) after, fun v => ?_⟩
      · obtain ⟨field, steady⟩ := later f member
        refine ⟨field, fun same => ?_, steady⟩
        exact apart (List.mem_map.2 ⟨f, member, same⟩)
      · exact congrFun (ofArray_cons g fields v after) a
    | cons w before =>
      simp only [List.cons_append, ofArray_cons]
      exact .after (fun a => ih later distinct before turn a) a

end Layout
end Json

namespace Record
open Json (Layout Field)

namespace Wire

theorem steady_of_sets {α β : Type} {f : Field Fault α} {set : β → α → α} (sets : Sets f set) : f.Steady := by
  intro v
  rcases sets v with keeps | ⟨e, refuses⟩ | ⟨b, sets⟩
  · exact .inl fun a => ⟨a, keeps a⟩
  · exact .inr fun a => ⟨e, refuses a⟩
  · exact .inl fun a => ⟨set b a, sets a⟩

theorem keeps_of_sets {α β γ : Type} {f : Field Fault α} {set : β → α → α} {get : α → γ} (sets : Sets f set)
    (aside : ∀ b a, get (set b a) = get a) (v : Json) (a c : α) (put : f.put v a = .ok c) : get c = get a := by
  rcases sets v with keeps | ⟨e, refuses⟩ | ⟨b, sets⟩
  · rw [keeps] at put
    rw [Except.ok.inj put]
  · rw [refuses] at put
    cases put
  · rw [sets] at put
    rw [← Except.ok.inj put, aside]

end Wire

namespace Level
open Wire

theorem steady (l : Level) : ∀ f ∈ l.layout, f.Steady := by
  cases l <;> simp only [layout, recordLayout, transactionLayout, requestLayout, responseLayout,
    messageLayout, detailLayout, List.forall_mem_cons] <;> and_intros <;>
    first
      | exact steady_of_sets sets_orNull
      | exact steady_of_sets sets_messages
      | exact List.forall_mem_nil _

/-- The place of a field's value in the text of a structure, in either form. -/
inductive Slot (l : Level) (name : String) : (Json → Json) → Prop
  | member {raw : Bytes} (before after : List (Bytes × Json)) (named : Json.unescape? raw = some name) :
      Slot l name fun v => .object (before ++ (raw, v) :: after)
  | place (before after : List Json) (turn : l.layout.names[before.length]? = some name) :
      Slot l name fun v => .array (before ++ v :: after)

theorem Slot.not_null {l : Level} {name : String} {slot : Json → Json} (here : l.Slot name slot) (v : Json) :
    (slot v).isNull = false := by
  cases here <;> rfl

theorem Slot.reads {l : Level} {f : Field Fault l.Subject} {slot : Json → Json} (here : l.Slot f.name slot)
    (field : f ∈ l.layout) : (∃ e, ∀ v, l.decode (slot v) = .error e) ∨
      ∃ a back, l.layout.Aside f.name back ∧ ∀ v, l.decode (slot v) = f.put v a >>= back := by
  cases here with
  | member before after named =>
    exact Layout.reads_ofMembers l.steady l.distinct field named before after [] l.blank
  | place before after turn =>
    obtain ⟨g, there, same⟩ := (List.getElem?_map ..).symm.trans turn |> Option.map_eq_some_iff.1
    obtain rfl := l.lenient.eq_of_name (List.mem_of_getElem? there) field same
    exact Layout.reads_ofArray (fun f member => ⟨member, l.steady f member⟩) l.distinct before after there _

theorem Part.owns {l inner : Level} {name : String} {seat : Json → Json}
    {view : l.Subject → Option inner.Subject} (part : l.Part name inner seat view) :
    l.layout.Owns name view := by
  cases part <;> simp only [Layout.Owns, layout, recordLayout, transactionLayout, messageLayout,
    List.forall_mem_cons] <;> and_intros <;>
    first
      | exact fun other => absurd rfl other
      | exact fun _ => keeps_of_sets sets_orNull fun _ _ => rfl
      | exact fun _ => keeps_of_sets sets_messages fun _ _ => rfl
      | exact List.forall_mem_nil _

end Level
end Record
end AuditTrail
