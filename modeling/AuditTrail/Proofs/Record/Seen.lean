import AuditTrail.Proofs.Json.Quoted
import AuditTrail.Proofs.Record.Tolerance

/-! The part of a value that the reader of a record looks at. `Look.seen` replaces every skipped
value by `null`. The reader returns the same for what is left, and if it succeeds, every string
there can be unescaped. -/
namespace AuditTrail

namespace Json

/-- The values directly within a value. -/
def parts : Json → List Json
  | .array elements => elements
  | .object members => members.map (·.2)
  | _ => []

theorem sizeOf_part {v w : Json} (part : w ∈ v.parts) : sizeOf w < sizeOf v := by
  cases v with
  | array elements =>
    have less : sizeOf w < sizeOf elements := List.sizeOf_lt_of_mem part
    simp only [Json.array.sizeOf_spec]
    omega
  | object members =>
    obtain ⟨m, among, rfl⟩ := List.mem_map.1 part
    have less := List.sizeOf_lt_of_mem among
    have within : sizeOf m = 1 + sizeOf m.1 + sizeOf m.2 := rfl
    simp only [Json.object.sizeOf_spec]
    omega
  | _ => cases part

theorem induction_parts {P : Json → Prop} (step : ∀ v, (∀ w ∈ v.parts, P w) → P v) (v : Json) : P v := by
  induction measured : sizeOf v using Nat.strongRecOn generalizing v with
  | ind size smaller => exact step v fun w part => smaller _ (measured ▸ sizeOf_part part) w rfl

/-- All strings in the text of the value can be unescaped. -/
def Worded (v : Json) : Prop := ∀ raw ∈ v.quoted, (unescape? raw).isSome

theorem worded_string {raw : Bytes} (read : (unescape? raw).isSome) : (Json.string raw).Worded :=
  List.forall_mem_singleton.2 read

theorem worded_array {elements : List Json} (each : ∀ v ∈ elements, v.Worded) :
    (Json.array elements).Worded := by
  intro raw member
  rw [quoted, quotedElements_eq, List.mem_flatMap] at member
  obtain ⟨v, among, inside⟩ := member
  exact each v among raw inside

theorem worded_object {members : List (Bytes × Json)}
    (each : ∀ m ∈ members, (unescape? m.1).isSome ∧ m.2.Worded) : (Json.object members).Worded := by
  intro raw member
  rw [quoted, quotedMembers_eq, List.mem_flatMap] at member
  obtain ⟨m, among, inside⟩ := member
  rcases List.mem_cons.1 inside with rfl | inside
  · exact (each m among).1
  · exact (each m among).2 raw inside

end Json

namespace Record
open Json (Layout Field)
open Wire (Read)

/-- How much of a value is read: nothing, all of it, a structure, or a list of messages. -/
inductive Look where
  | skipped
  | whole
  | part (l : Level)
  | messages

def Level.looks : Level → List Look
  | .record => [.part .transaction, .messages]
  | .transaction => List.replicate 8 .whole ++ [.part .request, .part .response]
  | .request => List.replicate 6 .whole
  | .response => List.replicate 4 .whole
  | .message => [.whole, .part .detail]
  | .detail => List.replicate 12 .whole

def Level.look (l : Level) (name : String) : Look :=
  ((l.layout.names.zip l.looks).lookup name).getD .skipped

def Level.lookAt (l : Level) (raw : Bytes) : Look :=
  match Json.unescape? raw with
  | some name => l.look name
  | none => .whole

mutual

/-- The value with `null` in place of everything that is skipped. -/
def Look.seen : Look → Json → Json
  | .skipped, _ => .null
  | .part l, .object members => .object (seenMembers l members)
  | .part l, .array elements => .array (seenElements l.looks elements)
  | .messages, .array elements => .array (seenMessages elements)
  | _, v => v

def Look.seenMembers (l : Level) : List (Bytes × Json) → List (Bytes × Json)
  | [] => []
  | (raw, v) :: rest => (raw, seen (l.lookAt raw) v) :: seenMembers l rest

def Look.seenElements : List Look → List Json → List Json
  | look :: looks, v :: rest => seen look v :: seenElements looks rest
  | [], elements => elements
  | _, [] => []

def Look.seenMessages : List Json → List Json
  | [] => []
  | v :: rest => seen (.part .message) v :: seenMessages rest

end

theorem Look.seen_skipped (v : Json) : Look.skipped.seen v = .null := by
  cases v <;> rfl

theorem Look.seen_whole (v : Json) : Look.whole.seen v = v := by
  cases v <;> rfl

/-! ### Fields -/

/-- The reader depends only on what it looks at, and can unescape every string that it looks at in a value it
takes. -/
structure Look.Sees {β : Type} (look : Look) (reader : Json → Read β) (v : Json) : Prop where
  same : reader (look.seen v) = reader v
  worded : ∀ b, reader v = .ok b → (look.seen v).Worded

/-- The readers of structures and lists. -/
inductive Look.Reader : Look → {β : Type} → (Json → Read β) → Prop
  | part (l : Level) : Look.Reader (.part l) l.decode
  | messages : Look.Reader .messages Wire.messages

inductive Look.Puts {α : Type} (f : Field Fault α) : Look → Prop
  | whole (worded : ∀ v a b, f.put v a = .ok b → v.Worded) : Look.Puts f .whole
  | inner {look : Look} {β : Type} {reader : Json → Read β} {set : β → α → α} (inner : look.Reader reader)
      (as : ∀ v a, f.put v a = if v.isNull then .ok a else (reader v).map (set · a)) : Look.Puts f look

theorem eq_some_of_expect {β : Type} {o : Option β} {b : β} (found : (Json.expect o : Read β) = .ok b) :
    o = some b := by
  cases o with
  | none => cases found
  | some c => rw [Except.ok.inj found]

theorem worded_of_isNull {v : Json} (null : v.isNull = true) : v.Worded := by
  cases v with
  | null => exact nofun
  | _ => cases null

theorem worded_of_string? {v : Json} {s : String} (read : v.string? = some s) : v.Worded := by
  cases v with
  | string raw =>
    change Json.unescape? raw = some s at read
    exact Json.worded_string (by rw [read]; rfl)
  | _ => cases read

theorem worded_of_int64? {v : Json} {n : Int64} (read : Wire.int64? v = some n) : v.Worded := by
  cases v with
  | number spelling => exact nofun
  | _ => simp [Wire.int64?, Json.integer?] at read

theorem worded_of_textList {v : Json} {values : List String} (read : Wire.textList v = .ok values) :
    v.Worded := by
  cases v with
  | array elements =>
    apply Json.worded_array
    change Wire.texts elements = .ok values at read
    induction elements generalizing values with
    | nil => exact nofun
    | cons v rest ih =>
      obtain ⟨s, head, read⟩ := exists_of_bind read
      obtain ⟨others, tail, -⟩ := exists_of_bind read
      exact List.forall_mem_cons.2 ⟨worded_of_string? (eq_some_of_expect head), ih tail⟩
  | _ => cases read

theorem worded_of_headers {v : Json} {h : Headers} (read : Wire.headers v = .ok h) : v.Worded := by
  cases v with
  | object members =>
    apply Json.worded_object
    change Wire.headersFrom members .empty = .ok h at read
    generalize Headers.empty = before at read
    induction members generalizing before with
    | nil => exact nofun
    | cons m rest ih =>
      obtain ⟨raw, v⟩ := m
      obtain ⟨name, named, read⟩ := exists_of_bind read
      obtain ⟨values, listed, read⟩ := exists_of_bind read
      refine List.forall_mem_cons.2 ⟨⟨?_, worded_of_textList listed⟩, ih _ read⟩
      rw [eq_some_of_expect named]
      rfl
  | _ => cases read

theorem worded_of_severity {v : Json} {s : Severity} (read : Wire.severity v = .ok s) : v.Worded := by
  cases v with
  | number spelling => exact nofun
  | string raw =>
    unfold Wire.severity at read
    cases named : Json.unescape? raw with
    | none => simp [named] at read
    | some name => exact Json.worded_string (by rw [named]; rfl)
  | _ => cases read

theorem puts_whole {α β : Type} {name : String} {reader : Json → Read β} {set : β → α → α}
    (worded : ∀ {v b}, reader v = .ok b → v.Worded) :
    Look.Puts (Field.orNull ⟨name, fun value a => (reader value).map (set · a)⟩) .whole := by
  refine .whole fun v a b put => ?_
  by_cases null : v.isNull = true
  · exact worded_of_isNull null
  · cases read : reader v with
    | error e => simp [Field.orNull, null, read, Except.map] at put
    | ok c => exact worded read

theorem puts_text {α : Type} (name : String) (set : String → α → α) :
    Look.Puts (Wire.text name set) .whole :=
  puts_whole fun read => worded_of_string? (eq_some_of_expect read)

theorem puts_number {α : Type} (name : String) (set : Int64 → α → α) :
    Look.Puts (Wire.number name set) .whole :=
  puts_whole fun read => worded_of_int64? (eq_some_of_expect read)

theorem puts_headers {α : Type} (set : Headers → α → α) : Look.Puts (Wire.headerField set) .whole :=
  puts_whole worded_of_headers

theorem puts_part {α : Type} (l : Level) {name : String} {set : l.Subject → α → α} :
    Look.Puts (Field.orNull ⟨name, fun value a => (l.decode value).map (set · a)⟩) (.part l) :=
  .inner (.part l) fun _ _ => rfl

/-- The fields of each level are read as `looks` says. -/
theorem Level.puts (l : Level) : List.Forall₂ Look.Puts l.layout l.looks := by
  cases l with
  | record =>
    exact .cons (puts_part .transaction) <| .cons (.inner .messages fun v a => by cases v <;> rfl) .nil
  | transaction =>
    exact .cons (puts_text ..) <| .cons (puts_number ..) <| .cons (puts_text ..) <|
      .cons (puts_text ..) <| .cons (puts_number ..) <| .cons (puts_text ..) <|
      .cons (puts_number ..) <| .cons (puts_text ..) <| .cons (puts_part .request) <|
      .cons (puts_part .response) .nil
  | request =>
    exact .cons (puts_text ..) <| .cons (puts_text ..) <| .cons (puts_text ..) <|
      .cons (puts_text ..) <| .cons (puts_headers ..) <| .cons (puts_text ..) .nil
  | response =>
    exact .cons (puts_text ..) <| .cons (puts_number ..) <| .cons (puts_headers ..) <|
      .cons (puts_text ..) .nil
  | message => exact .cons (puts_text ..) <| .cons (puts_part .detail) .nil
  | detail =>
    exact .cons (puts_text ..) <| .cons (puts_number ..) <| .cons (puts_number ..) <|
      .cons (puts_text ..) <| .cons (puts_text ..) <| .cons (puts_text ..) <|
      .cons (puts_whole worded_of_severity) <| .cons (puts_text ..) <| .cons (puts_number ..) <|
      .cons (puts_number ..) <| .cons (puts_whole worded_of_textList) <| .cons (puts_text ..) .nil

theorem puts_of_find? {α : Type} {layout : Layout Fault α} {looks : List Look} {f : Field Fault α}
    {name : String} (puts : List.Forall₂ Look.Puts layout looks)
    (found : layout.find? (·.name == name) = some f) :
    Look.Puts f (((layout.names.zip looks).lookup name).getD .skipped) := by
  induction puts with
  | nil => cases found
  | @cons g look layout looks here _ ih =>
    rw [List.find?_cons] at found
    simp only [Layout.names, List.map_cons, List.zip_cons_cons, List.lookup_cons]
    by_cases same : g.name = name
    · simp only [same, BEq.rfl] at found ⊢
      obtain rfl := Option.some.inj found
      exact here
    · simp only [beq_eq_false_iff_ne.2 same, beq_eq_false_iff_ne.2 (Ne.symm same)] at found ⊢
      exact ih found

theorem look_of_find? {α : Type} {layout : Layout Fault α} (looks : List Look) {name : String}
    (unknown : layout.find? (·.name == name) = none) :
    ((layout.names.zip looks).lookup name).getD .skipped = .skipped := by
  have absent := Layout.not_mem_names unknown
  rw [List.lookup_eq_none_iff.2, Option.getD_none]
  rintro ⟨other, look⟩ member
  rw [bne_iff_ne]
  rintro rfl
  exact absent (List.of_mem_zip member).1

/-! ### Values -/

theorem Look.isNull_seen {look : Look} {β : Type} {reader : Json → Read β} (inner : look.Reader reader)
    (v : Json) : (look.seen v).isNull = v.isNull := by
  cases inner <;> cases v <;> rfl

def Plain (v : Json) : Prop :=
  ∀ {look : Look} {β : Type} {reader : Json → Read β}, look.Reader reader → look.Sees reader v

theorem Look.Puts.sees {α : Type} {f : Field Fault α} {look : Look} (puts : Look.Puts f look) {v : Json}
    (plain : Plain v) (a : α) : look.Sees (f.put · a) v := by
  cases puts with
  | whole worded =>
    exact ⟨congrArg (f.put · a) (Look.seen_whole v), fun b put => (Look.seen_whole v).symm ▸ worded v a b put⟩
  | @inner _ β reader set inner as =>
    obtain ⟨same, worded⟩ := plain inner
    refine ⟨by simp only [as, Look.isNull_seen inner, same], fun b put => ?_⟩
    rw [as] at put
    by_cases null : v.isNull = true
    · exact worded_of_isNull ((Look.isNull_seen inner v).trans null)
    · cases read : reader v with
      | error e => simp [null, read, Except.map] at put
      | ok c => exact worded c read

theorem sees_members {l : Level} {members : List (Bytes × Json)} (plain : ∀ m ∈ members, Plain m.2)
    (given : List String) (a : l.Subject) :
    l.layout.ofMembers given (Look.seenMembers l members) a = l.layout.ofMembers given members a ∧
    ∀ b, l.layout.ofMembers given members a = .ok b →
      ∀ m ∈ Look.seenMembers l members, (Json.unescape? m.1).isSome ∧ m.2.Worded := by
  induction members generalizing given a with
  | nil => exact ⟨rfl, fun _ _ => nofun⟩
  | cons m rest ih =>
    obtain ⟨raw, v⟩ := m
    obtain ⟨here, later⟩ := List.forall_mem_cons.1 plain
    simp only [Look.seenMembers, Layout.ofMembers, Level.lookAt]
    cases named : Json.unescape? raw with
    | none => exact ⟨rfl, nofun⟩
    | some name =>
      simp only [List.forall_mem_cons, named, Option.isSome_some, true_and]
      cases found : l.layout.find? (·.name == name) with
      | none =>
        obtain ⟨same, worded⟩ := ih later given a
        have skipped : l.look name = .skipped := look_of_find? l.looks found
        refine ⟨same, fun b read => ⟨?_, worded b read⟩⟩
        rw [skipped, Look.seen_skipped]
        exact nofun
      | some f =>
        obtain ⟨put, taken⟩ := (puts_of_find? l.puts found).sees here a
        dsimp only at put ⊢
        rw [show f.put ((l.look name).seen v) a = f.put v a from put]
        by_cases again : given.contains name = true
        · simp only [again, if_true]
          exact ⟨trivial, nofun⟩
        · simp only [again]
          cases read : f.put v a with
          | error e => exact ⟨rfl, nofun⟩
          | ok b =>
            obtain ⟨same, worded⟩ := ih later (name :: given) b
            exact ⟨same, fun c others => ⟨taken b read, worded c others⟩⟩

theorem sees_elements {α : Type} {layout : Layout Fault α} {looks : List Look}
    (puts : List.Forall₂ Look.Puts layout looks) {elements : List Json} (plain : ∀ v ∈ elements, Plain v)
    (a : α) :
    layout.ofArray (Look.seenElements looks elements) a = layout.ofArray elements a ∧
    ∀ b, layout.ofArray elements a = .ok b → ∀ v ∈ Look.seenElements looks elements, v.Worded := by
  induction puts generalizing elements a with
  | nil =>
    rw [Look.seenElements.eq_2]
    cases elements with
    | nil => exact ⟨rfl, fun _ _ => List.forall_mem_nil _⟩
    | cons v rest => exact ⟨rfl, fun _ read => by cases read⟩
  | @cons f look layout looks puts _ ih =>
    cases elements with
    | nil => exact ⟨rfl, fun _ _ => List.forall_mem_nil _⟩
    | cons v rest =>
      obtain ⟨here, later⟩ := List.forall_mem_cons.1 plain
      obtain ⟨put, taken⟩ := puts.sees here a
      simp only [Look.seenElements, Layout.ofArray, List.forall_mem_cons]
      rw [show f.put (look.seen v) a = f.put v a from put]
      cases read : f.put v a with
      | error e => exact ⟨rfl, fun _ others => by cases others⟩
      | ok b =>
        obtain ⟨same, worded⟩ := ih later b
        exact ⟨same, fun c others => ⟨taken b read, worded c others⟩⟩

theorem sees_messages {elements : List Json} (plain : ∀ v ∈ elements, Plain v) :
    Wire.messageList (Look.seenMessages elements) = Wire.messageList elements ∧
    ∀ ms, Wire.messageList elements = .ok ms → ∀ v ∈ Look.seenMessages elements, v.Worded := by
  induction elements with
  | nil => exact ⟨rfl, fun _ _ => nofun⟩
  | cons v rest ih =>
    obtain ⟨here, later⟩ := List.forall_mem_cons.1 plain
    obtain ⟨first, taken⟩ := here (.part .message)
    obtain ⟨same, worded⟩ := ih later
    change Wire.messageLayout.decode {} _ = Wire.messageLayout.decode {} v at first
    change ∀ m, Wire.messageLayout.decode {} v = .ok m → _ at taken
    simp only [Look.seenMessages, Wire.messageList, List.forall_mem_cons, first, same]
    refine ⟨trivial, fun ms read => ?_⟩
    obtain ⟨m, head, read⟩ := exists_of_bind read
    obtain ⟨others, tail, -⟩ := exists_of_bind read
    exact ⟨taken m head, worded others tail⟩

/-- Every reader of a structure depends only on what it looks at. -/
theorem plain (v : Json) : Plain v := by
  induction v using Json.induction_parts with
  | step v within =>
    intro look β reader inner
    cases inner with
    | part l =>
      cases v with
      | object members =>
        have each : ∀ m ∈ members, Plain m.2 := fun m among => within m.2 (List.mem_map_of_mem among)
        obtain ⟨same, worded⟩ := sees_members each [] l.blank
        exact ⟨same, fun s read => Json.worded_object (worded s read)⟩
      | array elements =>
        have each : ∀ v ∈ elements, Plain v := within
        obtain ⟨same, worded⟩ := sees_elements l.puts each l.blank
        exact ⟨same, fun s read => Json.worded_array (worded s read)⟩
      | _ => exact ⟨rfl, nofun⟩
    | messages =>
      cases v with
      | array elements =>
        have each : ∀ v ∈ elements, Plain v := within
        obtain ⟨same, worded⟩ := sees_messages each
        exact ⟨same, fun ms read => Json.worded_array (worded ms read)⟩
      | _ => exact ⟨rfl, nofun⟩

def Look.Quotes (v : Json) : Prop := ∀ (look : Look), (look.seen v).quoted.Sublist v.quoted

theorem quoted_seenMembers (l : Level) {members : List (Bytes × Json)}
    (quotes : ∀ m ∈ members, Look.Quotes m.2) :
    (Json.quotedMembers (Look.seenMembers l members)).Sublist (Json.quotedMembers members) := by
  induction members with
  | nil => exact List.Sublist.refl _
  | cons m rest ih =>
    obtain ⟨here, later⟩ := List.forall_mem_cons.1 quotes
    exact ((here _).cons_cons _).append (ih later)

theorem quoted_seenElements (looks : List Look) {elements : List Json}
    (quotes : ∀ v ∈ elements, Look.Quotes v) :
    (Json.quotedElements (Look.seenElements looks elements)).Sublist (Json.quotedElements elements) := by
  induction elements generalizing looks with
  | nil => cases looks <;> exact List.Sublist.refl _
  | cons v rest ih =>
    obtain ⟨here, later⟩ := List.forall_mem_cons.1 quotes
    cases looks with
    | nil => exact List.Sublist.refl _
    | cons look looks => exact (here look).append (ih looks later)

theorem quoted_seenMessages {elements : List Json} (quotes : ∀ v ∈ elements, Look.Quotes v) :
    (Json.quotedElements (Look.seenMessages elements)).Sublist (Json.quotedElements elements) := by
  induction elements with
  | nil => exact List.Sublist.refl _
  | cons v rest ih =>
    obtain ⟨here, later⟩ := List.forall_mem_cons.1 quotes
    exact (here _).append (ih later)

theorem quoted_seen (v : Json) : Look.Quotes v := by
  induction v using Json.induction_parts with
  | step v within =>
    intro look
    cases look with
    | skipped =>
      rw [Look.seen_skipped]
      exact List.nil_sublist _
    | whole => rw [Look.seen_whole]
    | part l =>
      cases v with
      | object members =>
        exact quoted_seenMembers l fun m among => within m.2 (List.mem_map_of_mem among)
      | array elements => exact quoted_seenElements l.looks within
      | _ => exact List.Sublist.refl _
    | messages =>
      cases v with
      | array elements => exact quoted_seenMessages within
      | _ => exact List.Sublist.refl _

end Record
end AuditTrail
