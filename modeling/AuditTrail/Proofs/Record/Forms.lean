import AuditTrail.Proofs.Record.Slots

/-! Structures may be written as arrays, which give the fields by position, or as objects, which
give them by name. Both are read alike at every level of a record, with the same faults, and an
array with too many elements is refused. -/
namespace AuditTrail

namespace Json

theorem eq_null_of_isNull {v : Json} (null : v.isNull = true) : v = .null := by
  cases v with
  | null => rfl
  | _ => cases null

namespace Layout

variable {ε α : Type} [Complaint ε] {layout : Layout ε α} {members : List (Bytes × Json)}
  {seen : List String} {a : α}

theorem ofMembers_inOrder (before : Layout ε α) (distinct : (names (before ++ layout)).Nodup)
    (passed : ∀ name ∈ seen, name ∈ before.names)
    (named : members.map (fun m => unescape? m.1) = (layout.names.take members.length).map some) :
    ofMembers (before ++ layout) seen members a = layout.ofArray (members.map (·.2)) a := by
  induction members generalizing layout before seen a with
  | nil => cases layout <;> rfl
  | cons m rest ih =>
    obtain ⟨raw, v⟩ := m
    cases layout with
    | nil => cases named
    | cons f layout =>
      obtain ⟨spelled, named⟩ := List.cons.inj named
      have found := find?_name distinct (List.mem_append_right before (List.mem_cons_self (a := f)))
      have fresh : f.name ∉ seen := fun again => not_mem_before distinct (passed _ again)
      simp only [ofMembers, spelled, found, List.contains_iff_mem, if_neg fresh, List.map_cons, ofArray]
      cases f.put v a with
      | error e => rfl
      | ok b =>
        have further := @ih layout (f.name :: seen) b (before ++ [f])
        simp only [List.append_assoc, List.cons_append, List.nil_append] at further
        refine further distinct (List.forall_mem_cons.2 ⟨?_, fun name member => ?_⟩) named
        · simp [names]
        · rw [names, List.map_append]
          exact List.mem_append_left _ (passed name member)

theorem ofArray_long {elements : List Json} (long : layout.length < elements.length) :
    ∃ e, layout.ofArray elements a = .error e := by
  induction layout generalizing elements a with
  | nil => cases elements with
    | nil => exact absurd long (Nat.lt_irrefl 0)
    | cons v rest => exact ⟨malformed, rfl⟩
  | cons f layout ih => cases elements with
    | nil => exact absurd long (Nat.not_lt_zero _)
    | cons v rest =>
      rw [ofArray_cons]
      cases put : f.put v a with
      | error e => exact ⟨e, by simp only [put]; rfl⟩
      | ok b =>
        obtain ⟨e, refused⟩ := @ih b rest (Nat.lt_of_succ_lt_succ long)
        exact ⟨e, by simp only [put]; exact refused⟩

end Layout
end Json

namespace Record

open Json (Layout)

namespace Level

/-- Members for the first fields of a structure, in their order. -/
def InOrder (l : Level) (members : List (Bytes × Json)) : Prop :=
  members.map (fun m => Json.unescape? m.1) = (l.layout.names.take members.length).map some

/-- Values that differ only in the form of structures, at any level. -/
inductive Turned : Level → Json → Json → Prop
  | refl {l : Level} (v : Json) : Turned l v v
  | symm {l : Level} {v w : Json} (turned : Turned l v w) : Turned l w v
  | trans {l : Level} {u v w : Json} (first : Turned l u v) (second : Turned l v w) : Turned l u w
  | turn {l : Level} {members : List (Bytes × Json)} (named : l.InOrder members) :
      Turned l (.array (members.map (·.2))) (.object members)
  | within {l inner : Level} {name : String} {spot slot : Json → Json} {v w : Json}
      (holds : l.Holds name inner spot) (stands : l.Slot name slot) (turned : Turned inner v w) :
      Turned l (slot (spot v)) (slot (spot w))

theorem decode_inOrder {l : Level} {members : List (Bytes × Json)} (named : l.InOrder members) :
    l.decode (.array (members.map (·.2))) = l.decode (.object members) :=
  (Layout.ofMembers_inOrder [] l.distinct (List.forall_mem_nil _) named).symm

theorem Turned.isNull {l : Level} {v w : Json} (turned : l.Turned v w) : v.isNull = w.isNull := by
  induction turned with
  | refl => rfl
  | symm _ ih => exact ih.symm
  | trans _ _ ih ih' => exact ih.trans ih'
  | turn => rfl
  | within _ stands => rw [stands.not_null, stands.not_null]

theorem Slot.congr {l : Level} {f : Json.Field Fault l.Subject} {slot : Json → Json} {v w : Json}
    (here : l.Slot f.name slot) (field : f ∈ l.layout) (alike : ∀ a, f.put v a = f.put w a) :
    l.decode (slot v) = l.decode (slot w) := by
  rcases here.reads field with ⟨e, refused⟩ | ⟨a, back, -, reads⟩
  · rw [refused, refused]
  · rw [reads, reads, alike]

theorem Turned.decode {l : Level} {v w : Json} (turned : l.Turned v w) : l.decode v = l.decode w := by
  induction turned with
  | refl => rfl
  | symm _ ih => exact ih.symm
  | trans _ _ ih ih' => exact ih.trans ih'
  | turn named => exact decode_inOrder named
  | @within l inner name spot slot v w holds stands turned ih =>
    obtain ⟨view, part⟩ := holds.part
    obtain ⟨f, field, rfl, put⟩ := part.put
    refine stands.congr field fun a => ?_
    have null : v.isNull = w.isNull := turned.isNull
    cases given : v.isNull with
    | true => rw [Json.eq_null_of_isNull given, Json.eq_null_of_isNull (null.symm.trans given)]
    | false =>
      rcases put a with ⟨e, refused⟩ | ⟨back, same, -⟩
      · rw [refused v given, refused w (null.symm.trans given)]
      · rw [same v given, same w (null.symm.trans given), ih]

/-- Values with an array that is longer than its structure, at any level. -/
inductive Long : Level → Json → Prop
  | here {l : Level} {elements : List Json} (long : l.layout.length < elements.length) :
      Long l (.array elements)
  | within {l inner : Level} {name : String} {spot slot : Json → Json} {v : Json}
      (holds : l.Holds name inner spot) (stands : l.Slot name slot) (long : Long inner v) :
      Long l (slot (spot v))

theorem Long.not_null {l : Level} {v : Json} (long : l.Long v) : v.isNull = false := by
  cases long with
  | here => rfl
  | within _ stands => exact stands.not_null _

theorem Long.decode {l : Level} {v : Json} (long : l.Long v) : ∃ e, l.decode v = .error e := by
  induction long with
  | here long => exact Layout.ofArray_long long
  | @within l inner name spot slot v holds stands long ih =>
    obtain ⟨view, part⟩ := holds.part
    obtain ⟨f, field, rfl, put⟩ := part.put
    obtain ⟨e, refused⟩ := ih
    rcases stands.reads field with ⟨e', before⟩ | ⟨a, back, -, reads⟩
    · exact ⟨e', before (spot v)⟩
    · rcases put a with ⟨e', before⟩ | ⟨rest, same, -⟩
      · refine ⟨e', ?_⟩
        rw [reads, before v long.not_null]
        rfl
      · refine ⟨e, ?_⟩
        rw [reads, same v long.not_null, refused]
        rfl

end Level

/-- An array is read as the object that gives its values to the first fields of the structure. Texts that
differ only in these forms are read alike, with the same fault if there is one, and an array longer than its
structure is refused. -/
theorem forms_alike :
    (∀ (l : Level) (members : List (Bytes × Json)), l.InOrder members →
      l.decode (.array (members.map (·.2))) = l.decode (.object members)) ∧
    (∀ (l : Level) (v w : Json) (text text' : Bytes), l.Turned v w →
      Json.Spells (.text v) text → Json.Spells (.text w) text' →
      Json.decodeText l.decode text = Json.decodeText l.decode text') ∧
    (∀ (l : Level) (v : Json) (text : Bytes), l.Long v → Json.Spells (.text v) text →
      ∃ e, Json.decodeText l.decode text = .error e) ∧
    Json.decodeText Level.record.decode = parse := by
  have reads : ∀ {l : Level} {v : Json} {text : Bytes}, Json.Spells (.text v) text →
      Json.decodeText l.decode text = l.decode v := by
    intro l v text spells
    rw [Json.decodeText, Json.read_of_spells spells]
  refine ⟨fun _ _ => Level.decode_inOrder, ?_, ?_, rfl⟩
  · intro l v w text text' turned spells spells'
    rw [reads spells, reads spells', turned.decode]
  · intro l v text long spells
    rw [reads spells]
    exact long.decode

theorem forms_alike_request :
    let given := [Wire.textJson "method" "GET", Wire.textJson "protocol" "1.1"]
    let transaction := fun request => Json.object [Wire.member "request" request]
    Level.request.decode (.array (given.map (·.2))) = Level.request.decode (.object given) ∧
      Json.decodeText Level.record.decode (Json.array [transaction (.array (given.map (·.2)))]).render =
        Json.decodeText Level.record.decode
          (Json.object [Wire.member "transaction" (transaction (.object given))]).render ∧
      (∃ e, Json.decodeText Level.record.decode (Json.array [.null, .null, .null]).render = .error e) ∧
      Json.decodeText Level.record.decode = parse := by
  intro given transaction
  have proper_given : ∀ m ∈ given, Json.Quotable m.1 ∧ m.2.Proper := by
    simp only [given, List.forall_mem_cons]
    exact ⟨Wire.proper_text .., Wire.proper_text .., by simp⟩
  have proper_transaction : ∀ {request : Json}, request.Proper → (transaction request).Proper :=
    Wire.proper_single "request"
  have proper : (Json.array [transaction (.array (given.map (·.2)))]).Proper := by
    refine .array (List.forall_mem_singleton.2 (proper_transaction (.array fun v member => ?_)))
    obtain ⟨m, here, rfl⟩ := List.mem_map.1 member
    exact (proper_given m here).2
  have proper' : (Json.object [Wire.member "transaction" (transaction (.object given))]).Proper :=
    Wire.proper_single "transaction" (proper_transaction (Wire.proper_object proper_given))
  have proper_long : (Json.array [.null, .null, .null]).Proper := .array (by simp [Json.Proper.null])
  have inOrder : Level.request.InOrder given := by
    simp only [Level.InOrder, given, Wire.textJson, Wire.member, List.map_cons, Json.unescape?_escape]
    rfl
  have turned : Level.record.Turned (.array [transaction (.array (given.map (·.2)))])
      (.object [Wire.member "transaction" (transaction (.object given))]) := by
    have named : Level.record.InOrder [Wire.member "transaction" (transaction (.object given))] := by
      simp only [Level.InOrder, Wire.member, List.map_cons, Json.unescape?_escape]
      rfl
    have stands : Level.transaction.Slot "request" transaction :=
      .member [] [] (Json.unescape?_escape "request")
    have within_ : Level.transaction.Turned (transaction (.array (given.map (·.2)))) (transaction (.object given)) :=
      .within .request stands (.turn inOrder)
    exact .trans (.within .transaction (.place [] [] rfl) within_) (.turn named)
  have long : Level.record.Long (.array [.null, .null, .null]) := .here (by decide)
  obtain ⟨here, texts, refused, records⟩ := forms_alike
  exact ⟨here .request given inOrder, texts .record _ _ _ _ turned proper.spells.bare proper'.spells.bare,
    refused .record _ _ long proper_long.spells.bare, records⟩

end Record
end AuditTrail
