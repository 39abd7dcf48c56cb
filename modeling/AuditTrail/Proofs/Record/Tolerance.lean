import AuditTrail.Proofs.Record.RoundTrip
import Mathlib.Tactic.Common

/-! Differences between lines that do not matter to the reader of a record, at every level: the
order of members, members that are `null`, and unknown members. A known member that occurs twice is
refused. -/
namespace AuditTrail.Record
open Json (Layout Field)

theorem exists_of_bind {β γ : Type} {first : Wire.Read β} {rest : β → Wire.Read γ} {c : γ}
    (read : first >>= rest = .ok c) : ∃ b, first = .ok b ∧ rest b = .ok c := by
  cases first with
  | error e => cases read
  | ok b => exact ⟨b, rfl, read⟩

namespace Wire

/-! ### Fields -/

/-- A field keeps the structure, refuses the value, or sets what it reads of it, independently of the
structure. -/
def Sets {α β : Type} (f : Field Fault α) (set : β → α → α) : Prop :=
  ∀ v, (∀ a, f.put v a = .ok a) ∨ (∃ e, ∀ a, f.put v a = .error e) ∨ ∃ b, ∀ a, f.put v a = .ok (set b a)

theorem sets_orNull {α β : Type} {name : String} {reader : Json → Read β} {set : β → α → α} :
    Sets (Field.orNull ⟨name, fun value a => (reader value).map (set · a)⟩) set := by
  intro v
  unfold Field.orNull
  by_cases null : v.isNull = true
  · exact .inl fun a => if_pos null
  right
  simp only [if_neg null]
  cases reader v with
  | error e => exact .inl ⟨e, fun a => rfl⟩
  | ok b => exact .inr ⟨b, fun a => rfl⟩

theorem apart_of_sets {α β γ : Type} {f g : Field Fault α} {set : β → α → α} {set' : γ → α → α}
    (left : Sets f set) (right : Sets g set') (commute : ∀ b c a, set b (set' c a) = set' c (set b a)) :
    f.Apart g := by
  intro v w a
  rcases left v with keeps | ⟨e, refuses⟩ | ⟨b, sets⟩ <;>
    rcases right w with keeps' | ⟨e', refuses'⟩ | ⟨c, sets'⟩ <;>
    simp [*, Except.toOption]

def messages : Json → Read (List Message)
  | .array elements => messageList elements
  | _ => .error .malformed

theorem sets_messages : Sets (Field.orNull ⟨"messages", fun value (r : Record) =>
    match value with
    | .array elements => (messageList elements).map fun ms => { r with messages := ms }
    | _ => .error .malformed⟩) fun ms r => { r with messages := ms } := by
  have same : (fun value (r : Record) =>
      match value with
      | .array elements => (messageList elements).map fun ms => { r with messages := ms }
      | _ => .error .malformed) = fun value (r : Record) =>
        (messages value).map fun ms => { r with messages := ms } := by
    funext value r
    cases value <;> rfl
  rw [same]
  exact sets_orNull

end Wire

/-! ### Levels -/

/-- The structures of a record. -/
inductive Level where
  | record
  | transaction
  | request
  | response
  | message
  | detail

namespace Level
open Wire

abbrev Subject : Level → Type
  | record => Record
  | transaction => Transaction
  | request => Request
  | response => Response
  | message => Message
  | detail => Detail

def layout : (l : Level) → Layout Fault l.Subject
  | record => recordLayout
  | transaction => transactionLayout
  | request => requestLayout
  | response => responseLayout
  | message => messageLayout
  | detail => detailLayout

def blank : (l : Level) → l.Subject
  | record => {}
  | transaction => {}
  | request => {}
  | response => {}
  | message => {}
  | detail => {}

def decode (l : Level) (v : Json) : Read l.Subject := l.layout.decode l.blank v

inductive Holds : Level → String → Level → (Json → Json) → Prop
  | transaction : Holds .record "transaction" .transaction id
  | message (before after : List Json) :
      Holds .record "messages" .message fun v => .array (before ++ v :: after)
  | request : Holds .transaction "request" .request id
  | response : Holds .transaction "response" .response id
  | detail : Holds .message "data" .detail id

theorem distinct (l : Level) : l.layout.names.Nodup := by
  cases l <;> decide

theorem null (l : Level) : ∀ f ∈ l.layout, ∀ a, f.put .null a = .ok a := by
  cases l <;> simp only [layout, recordLayout, transactionLayout, requestLayout, responseLayout,
    messageLayout, detailLayout, List.forall_mem_cons] <;> and_intros <;> first | exact fun _ => rfl | nofun

theorem apart (l : Level) : l.layout.Pairwise Field.Apart := by
  cases l <;> simp only [layout, recordLayout, transactionLayout, requestLayout, responseLayout,
    messageLayout, detailLayout, List.pairwise_cons, List.forall_mem_cons] <;> and_intros <;>
    first
      | exact apart_of_sets sets_orNull sets_orNull fun _ _ _ => rfl
      | exact apart_of_sets sets_orNull sets_messages fun _ _ _ => rfl
      | exact .nil
      | nofun

theorem lenient (l : Level) : l.layout.Lenient := ⟨l.distinct, l.apart, l.null⟩

/-- A structure within another: the field that holds it, its place in the value of that field, and where it is
found in the result. -/
inductive Part : (l : Level) → String → (inner : Level) → (Json → Json) →
    (l.Subject → Option inner.Subject) → Prop
  | transaction : Part .record "transaction" .transaction id fun r => some r.transaction
  | message (before after : List Json) : Part .record "messages" .message
      (fun v => .array (before ++ v :: after)) fun r => r.messages[before.length]?
  | request : Part .transaction "request" .request id fun t => t.request
  | response : Part .transaction "response" .response id fun t => t.response
  | detail : Part .message "data" .detail id fun m => some m.data

theorem Holds.part {l inner : Level} {name : String} {spot : Json → Json} (holds : l.Holds name inner spot) :
    ∃ view, l.Part name inner spot view := by
  cases holds with
  | transaction => exact ⟨_, .transaction⟩
  | message before after => exact ⟨_, .message before after⟩
  | request => exact ⟨_, .request⟩
  | response => exact ⟨_, .response⟩
  | detail => exact ⟨_, .detail⟩

theorem messageList_at (before after : List Json) :
    (∃ e, ∀ v, messageList (before ++ v :: after) = .error e) ∨
    ∃ ms, ms.length = before.length ∧ ∀ v, messageList (before ++ v :: after) =
      message.decode v >>= fun m => (messageList after).map fun ms' => ms ++ m :: ms' := by
  have step : ∀ (u : Json) (rest : List Json), messageList (u :: rest) =
      message.decode u >>= fun m => (messageList rest).map (m :: ·) := fun u rest => by
    rw [messageList]
    rfl
  induction before with
  | nil => exact .inr ⟨[], rfl, fun v => step v after⟩
  | cons u before ih =>
    cases head : message.decode u with
    | error e => exact .inl ⟨e, fun v => by rw [List.cons_append, step, head]; rfl⟩
    | ok m =>
      rcases ih with ⟨e, refused⟩ | ⟨ms, length, same⟩
      · exact .inl ⟨e, fun v => by rw [List.cons_append, step, head, refused]; rfl⟩
      · refine .inr ⟨m :: ms, congrArg (· + 1) length, fun v => ?_⟩
        rw [List.cons_append, step, head, same]
        cases message.decode v with
        | error e => rfl
        | ok m' => cases messageList after <;> rfl

theorem Part.put {l inner : Level} {name : String} {seat : Json → Json}
    {view : l.Subject → Option inner.Subject} (part : l.Part name inner seat view) :
    ∃ f ∈ l.layout, f.name = name ∧ ∀ a,
      (∃ e, ∀ v, v.isNull = false → f.put (seat v) a = .error e) ∨
      ∃ back : inner.Subject → Read l.Subject,
        (∀ v, v.isNull = false → f.put (seat v) a = inner.decode v >>= back) ∧
        ((∃ e, ∀ s, back s = .error e) ∨ ∀ s, ∃ b, back s = .ok b ∧ view b = some s) := by
  have whole : ∀ (inner : Level) {α : Type} {name : String} {set : inner.Subject → α → α} (a : α) (v : Json),
      v.isNull = false → (Field.orNull ⟨name, fun value a => (inner.decode value).map (set · a)⟩).put v a =
        inner.decode v >>= fun s => .ok (set s a) := by
    intro inner α name set a v given
    simp only [Field.orNull, given]
    cases inner.decode v <;> rfl
  cases part with
  | transaction =>
    exact ⟨_, List.mem_of_getElem? (i := 0) rfl, rfl, fun a =>
      .inr ⟨_, whole .transaction a, .inr fun s => ⟨_, rfl, rfl⟩⟩⟩
  | request =>
    exact ⟨_, List.mem_of_getElem? (i := 8) rfl, rfl, fun a =>
      .inr ⟨_, whole .request a, .inr fun s => ⟨_, rfl, rfl⟩⟩⟩
  | response =>
    exact ⟨_, List.mem_of_getElem? (i := 9) rfl, rfl, fun a =>
      .inr ⟨_, whole .response a, .inr fun s => ⟨_, rfl, rfl⟩⟩⟩
  | detail =>
    exact ⟨_, List.mem_of_getElem? (i := 1) rfl, rfl, fun a =>
      .inr ⟨_, whole .detail a, .inr fun s => ⟨_, rfl, rfl⟩⟩⟩
  | message before after =>
    refine ⟨_, List.mem_of_getElem? (i := 1) rfl, rfl, fun r => ?_⟩
    rcases messageList_at before after with ⟨e, refused⟩ | ⟨ms, length, same⟩
    · refine .inl ⟨e, fun v _ => ?_⟩
      change (messageList (before ++ v :: after)).map (fun ms => { r with messages := ms }) = _
      rw [refused]
      rfl
    · refine .inr ⟨fun m => ((messageList after).map fun ms' => ms ++ m :: ms').map
        fun ms => { r with messages := ms }, fun v _ => ?_, ?_⟩
      · change (messageList (before ++ v :: after)).map (fun ms => { r with messages := ms }) = _
        rw [same]
        cases Level.message.decode v <;> rfl
      · cases messageList after with
        | error e => exact .inl ⟨e, fun m => rfl⟩
        | ok ms' =>
          refine .inr fun m => ⟨_, rfl, ?_⟩
          change (ms ++ m :: ms')[before.length]? = some m
          rw [← length, List.getElem?_append_right (Nat.le_refl _), Nat.sub_self]
          rfl

/-- An inner structure is read independently of the outer one. -/
theorem Holds.put {l inner : Level} {name : String} {spot : Json → Json} (holds : l.Holds name inner spot) :
    ∃ f ∈ l.layout, f.name = name ∧ ∀ a, ∃ rest : inner.Subject → Option l.Subject,
      ∀ v, v.isNull = false → (f.put (spot v) a).toOption = (inner.decode v).toOption.bind rest := by
  obtain ⟨view, part⟩ := holds.part
  obtain ⟨f, field, named, put⟩ := part.put
  refine ⟨f, field, named, fun a => ?_⟩
  rcases put a with ⟨e, refused⟩ | ⟨back, same, -⟩
  · refine ⟨fun _ => none, fun v given => ?_⟩
    rw [refused v given]
    cases inner.decode v <;> rfl
  · refine ⟨fun s => (back s).toOption, fun v given => ?_⟩
    rw [same v given]
    cases inner.decode v <;> rfl

/-- Members that differ only in their order, in `null` values and in unknown names, at any level. -/
inductive Alike : Level → List (Bytes × Json) → List (Bytes × Json) → Prop
  | refl {l : Level} (members : List (Bytes × Json)) : Alike l members members
  | symm {l : Level} {members members' : List (Bytes × Json)} (alike : Alike l members members') :
      Alike l members' members
  | trans {l : Level} {members members' members'' : List (Bytes × Json)}
      (first : Alike l members members') (second : Alike l members' members'') : Alike l members members''
  | order {l : Level} {members members' : List (Bytes × Json)} (order : members.Perm members') :
      Alike l members members'
  | null {l : Level} {raw : Bytes} {name : String} {members : List (Bytes × Json)}
      (named : Json.unescape? raw = some name) (field : name ∈ l.layout.names)
      (absent : name ∉ l.layout.known members) : Alike l ((raw, .null) :: members) members
  | unknown {l : Level} {raw : Bytes} {name : String} {members : List (Bytes × Json)}
      (named : Json.unescape? raw = some name) (unknown : name ∉ l.layout.names) (v : Json) :
      Alike l ((raw, v) :: members) members
  | within {l inner : Level} {raw : Bytes} {name : String} {spot : Json → Json}
      {members members' rest : List (Bytes × Json)} (holds : l.Holds name inner spot)
      (named : Json.unescape? raw = some name) (alike : Alike inner members members') :
      Alike l ((raw, spot (.object members)) :: rest) ((raw, spot (.object members')) :: rest)

/-- Some structure repeats the name of a field. -/
inductive Repeats : Level → Json → Prop
  | here {l : Level} {raw raw' : Bytes} {name : String} {v w : Json} {members : List (Bytes × Json)}
      (field : name ∈ l.layout.names) (first : Json.unescape? raw = some name)
      (second : Json.unescape? raw' = some name) (twice : [(raw, v), (raw', w)].Sublist members) :
      Repeats l (.object members)
  | within {l inner : Level} {raw : Bytes} {name : String} {spot : Json → Json} {v : Json}
      {members : List (Bytes × Json)} (holds : l.Holds name inner spot)
      (named : Json.unescape? raw = some name) (member : (raw, spot v) ∈ members)
      (repeats : Repeats inner v) : Repeats l (.object members)
  | place {l inner : Level} {i : Nat} {name : String} {spot : Json → Json} {v : Json}
      {elements : List Json} (holds : l.Holds name inner spot) (position : l.layout.names[i]? = some name)
      (element : elements[i]? = some (spot v)) (repeats : Repeats inner v) : Repeats l (.array elements)

theorem Alike.decode {l : Level} {members members' : List (Bytes × Json)}
    (alike : l.Alike members members') :
    (l.decode (.object members)).toOption = (l.decode (.object members')).toOption := by
  induction alike with
  | refl => rfl
  | symm _ ih => exact ih.symm
  | trans _ _ ih ih' => exact ih.trans ih'
  | @order l _ _ order => exact Layout.ofMembers_perm l.lenient order
  | @null l _ _ _ named field absent => exact Layout.ofMembers_null l.lenient named field absent
  | @unknown l _ _ _ named unknown v => exact Layout.ofMembers_unknown l.lenient named unknown
  | @within l _ _ _ _ _ _ _ holds named _ ih =>
    obtain ⟨f, field, rfl, put⟩ := holds.put
    refine Layout.ofMembers_value l.lenient named field fun a => ?_
    obtain ⟨rest, seen⟩ := put a
    rw [seen _ rfl, seen _ rfl, ih]

theorem Repeats.not_null {l : Level} {v : Json} (repeats : l.Repeats v) : v.isNull = false := by
  cases repeats <;> rfl

theorem Repeats.decode {l : Level} {v : Json} (repeats : l.Repeats v) : (l.decode v).toOption = none := by
  induction repeats with
  | here field first second twice => exact Layout.ofMembers_twice first second field twice
  | @within l _ _ _ _ _ _ holds named member repeats ih =>
    obtain ⟨f, field, rfl, put⟩ := holds.put
    refine Layout.ofMembers_refused l.lenient field named member fun a => ?_
    obtain ⟨rest, seen⟩ := put a
    rw [seen _ repeats.not_null, ih]
    rfl
  | @place l _ i _ _ _ _ holds position element repeats ih =>
    obtain ⟨f, field, rfl, put⟩ := holds.put
    obtain ⟨g, there, same⟩ := (List.getElem?_map ..).symm.trans position |> Option.map_eq_some_iff.1
    obtain rfl := l.lenient.eq_of_name (List.mem_of_getElem? there) field same
    refine Layout.ofArray_refused there element fun a => ?_
    obtain ⟨rest, seen⟩ := put a
    rw [seen _ repeats.not_null, ih]
    rfl

end Level

theorem parse_of_spells {v : Json} {line : Bytes} (spells : Json.Spells (.text v) line) :
    parse line = Level.record.decode v := by
  rw [parse, Json.decodeText, Json.read_of_spells spells]
  rfl

/-- Lines with alike records are read alike, whatever their white space, and a line that repeats a known name
in a structure is refused. -/
theorem parse_alike :
    (∀ (members members' : List (Bytes × Json)) (line line' : Bytes),
      Json.Spells (.text (.object members)) line → Json.Spells (.text (.object members')) line' →
      Level.record.Alike members members' → (parse line).toOption = (parse line').toOption) ∧
    (∀ (r : Record) (written members : List (Bytes × Json)) (line : Bytes),
      r.toJson = .object written → Level.record.Alike written members →
      Json.Spells (.text (.object members)) line → parse line = .ok r) ∧
    ∀ (v : Json) (line : Bytes), Json.Spells (.text v) line → Level.record.Repeats v →
      ∃ cause, parse line = .error cause := by
  have same : ∀ {members members' : List (Bytes × Json)} {line line' : Bytes},
      Json.Spells (.text (.object members)) line → Json.Spells (.text (.object members')) line' →
      Level.record.Alike members members' → (parse line).toOption = (parse line').toOption := by
    intro members members' line line' spells spells' alike
    rw [parse_of_spells spells, parse_of_spells spells']
    exact alike.decode
  refine ⟨fun _ _ _ _ => same, ?_, ?_⟩
  · intro r written members line writes alike spells
    have own : Json.Spells (.text (.object written)) r.line := by
      rw [← writes]
      exact (Wire.proper_record r).spells.bare
    have read := same own spells alike
    rw [parse_line] at read
    cases parsed : parse line with
    | error cause => rw [parsed] at read; cases read
    | ok r' =>
      rw [parsed] at read
      rw [Option.some.inj read]
  · intro v line spells repeats
    have refused := repeats.decode
    rw [parse_of_spells spells]
    cases read : Level.record.decode v with
    | error cause => exact ⟨cause, rfl⟩
    | ok r => rw [read] at refused; cases refused

theorem parse_alike_number :
    let number := Wire.numberJson "id" 7
    let record := fun (data : List (Bytes × Json)) =>
      Wire.member "messages" (.array [.object [Wire.member "data" (.object data)]])
    let members := [record [number]]
    let members' := [Wire.member "extra" (.array [.object [number]]),
      record [Wire.member "rev" .null, number], Wire.member "transaction" .null]
    (parse (Json.object members').render).toOption = (parse (Json.object members).render).toOption ∧
      parse (Json.object (Wire.member "extra" .null ::
        [Wire.member "transaction" (Wire.transactionJson {})])).render = .ok {} ∧
      ∃ cause, parse (Json.object [record [number, number]]).render = .error cause := by
  intro number record members members'
  have proper_record : ∀ {data}, (∀ m ∈ data, Json.Quotable m.1 ∧ m.2.Proper) →
      Json.Quotable (record data).1 ∧ (record data).2.Proper := fun each =>
    Wire.proper_member "messages" (.array (List.forall_mem_singleton.2 (Wire.proper_object
      (List.forall_mem_singleton.2 (Wire.proper_member "data" (Wire.proper_object each))))))
  have proper_number : Json.Quotable number.1 ∧ number.2.Proper := Wire.proper_number "id" 7
  have proper : (Json.object members).Proper := Wire.proper_object
    (List.forall_mem_singleton.2 (proper_record (List.forall_mem_singleton.2 proper_number)))
  have proper' : (Json.object members').Proper := by
    refine Wire.proper_object ?_
    simp only [members', List.forall_mem_cons]
    refine ⟨Wire.proper_member "extra" (.array (List.forall_mem_singleton.2 (Wire.proper_object
      (List.forall_mem_singleton.2 proper_number)))), proper_record ?_,
      Wire.proper_member "transaction" .null, nofun⟩
    exact List.forall_mem_cons.2
      ⟨Wire.proper_member "rev" .null, List.forall_mem_singleton.2 proper_number⟩
  have proper_twice : (Json.object [record [number, number]]).Proper := Wire.proper_object
    (List.forall_mem_singleton.2 (proper_record
      (List.forall_mem_cons.2 ⟨proper_number, List.forall_mem_singleton.2 proper_number⟩)))
  have alike : Level.record.Alike members' members := by
    refine .trans (.unknown (Json.unescape?_escape "extra") (by decide) _) (.trans (.order (.swap ..))
      (.trans (.null (Json.unescape?_escape "transaction") (by decide) (by decide)) ?_))
    refine .within (.message [] []) (Json.unescape?_escape "messages") (.within .detail
      (Json.unescape?_escape "data") ?_)
    exact .null (Json.unescape?_escape "rev") (by decide) (by decide)
  have repeats : Level.record.Repeats (.object [record [number, number]]) := by
    refine .within (.message [] []) (Json.unescape?_escape "messages") (List.mem_singleton.2 rfl) ?_
    refine .within .detail (Json.unescape?_escape "data") (List.mem_singleton.2 rfl) ?_
    have field : "id" ∈ Level.detail.layout.names := by decide
    exact .here field (Json.unescape?_escape "id") (Json.unescape?_escape "id") (List.Sublist.refl _)
  have behind : Level.record.Alike [Wire.member "transaction" (Wire.transactionJson {})]
      (Wire.member "extra" .null :: [Wire.member "transaction" (Wire.transactionJson {})]) :=
    .symm (.unknown (Json.unescape?_escape "extra") (by decide) _)
  have proper_behind := Wire.proper_object (List.forall_mem_cons.2 ⟨Wire.proper_member "extra" .null,
    List.forall_mem_singleton.2 (Wire.proper_member "transaction" (Wire.proper_transaction {}))⟩)
  exact ⟨parse_alike.1 _ _ _ _ proper'.spells.bare proper.spells.bare alike,
    parse_alike.2.1 {} _ _ _ rfl behind proper_behind.spells.bare,
    parse_alike.2.2 _ _ proper_twice.spells.bare repeats⟩

end AuditTrail.Record
