import AuditTrail.Proofs.Json.Integer
import AuditTrail.Proofs.Record.Slots

/-! The integers of a record. A number in place of an integer, wherever it stands in a line, is
read exactly or the line is refused: it is never wrapped, rounded or truncated. A severity also has
bounds of its own. -/
namespace AuditTrail.Record

open Json (Layout Field integer)

namespace Level
open Wire

/-- An integer field, how it is found in a structure, and its bounds. -/
structure Numeric (l : Level) where
  name : String
  get : l.Subject → Int
  least : Int
  greatest : Int

def Numeric.wide {l : Level} (name : String) (get : l.Subject → Int64) : l.Numeric :=
  ⟨name, fun s => (get s).toInt, -2 ^ 63, 2 ^ 63 - 1⟩

def numerics : (l : Level) → List l.Numeric
  | record => []
  | transaction => [.wide "unix_timestamp" Transaction.unixTimestamp,
      .wide "client_port" Transaction.clientPort, .wide "host_port" Transaction.hostPort]
  | request => []
  | response => [.wide "status" Response.status]
  | message => []
  | detail => [.wide "line" Detail.line, .wide "id" Detail.id, .wide "maturity" Detail.maturity,
      .wide "accuracy" Detail.accuracy, ⟨"severity", fun d => d.severity.level, 0, 7⟩]

/-- The field takes the integers within the bounds as they are, and refuses every other number. -/
structure Numeric.Exact {l : Level} (q : l.Numeric) (f : Field Fault l.Subject) : Prop where
  takes : ∀ (token : Bytes) (z : Int) (a : l.Subject), Json.integerOf? token = some z → q.least ≤ z →
    z ≤ q.greatest → ∃ b, f.put (.number token) a = .ok b ∧ q.get b = z
  refuses : ∀ (token : Bytes) (a : l.Subject),
    (∀ z, Json.integerOf? token = some z → ¬(q.least ≤ z ∧ z ≤ q.greatest)) →
    ∃ e, f.put (.number token) a = .error e

theorem exact_number {l : Level} {name : String} {set : Int64 → l.Subject → l.Subject}
    {get : l.Subject → Int64} (sees : ∀ n a, get (set n a) = n) :
    (Numeric.wide name get).Exact (number name set) where
  takes token z a read low high := by
    have bounds : -9223372036854775808 ≤ z ∧ z < 9223372036854775808 := by
      simp only [Numeric.wide] at low high
      omega
    have word : int64? (.number token) = some (Int64.ofInt z) := by
      simp only [int64?, Json.integer?, read, Option.bind_some, if_pos bounds]
    refine ⟨set (Int64.ofInt z) a, ?_, ?_⟩
    · change (Json.expect (int64? (.number token))).map (set · a) = _
      rw [word]
      rfl
    · change (get (set (Int64.ofInt z) a)).toInt = z
      rw [sees, Int64.toInt_ofInt_of_le bounds.1 bounds.2]
  refuses token a beyond := by
    have word : int64? (.number token) = none := by
      simp only [int64?, Json.integer?]
      cases read : Json.integerOf? token with
      | none => rfl
      | some z =>
        have outside : ¬(-9223372036854775808 ≤ z ∧ z < 9223372036854775808) := by
          intro bounds
          refine beyond z read ?_
          simp only [Numeric.wide]
          omega
        rw [Option.bind_some, if_neg outside]
    refine ⟨.malformed, ?_⟩
    change (Json.expect (int64? (.number token))).map (set · a) = _
    rw [word]
    rfl

theorem level_of_ofLevel? {n : Nat} {s : Severity} (known : Severity.ofLevel? n = some s) : s.level = n := by
  unfold Severity.ofLevel? at known
  split at known <;> cases known <;> rfl

theorem exists_level {n : Nat} (small : n < 8) : ∃ s : Severity, s.level = n := by
  have known : ∀ n < 8, (Severity.ofLevel? n).isSome = true := by decide
  obtain ⟨s, is⟩ := Option.isSome_iff_exists.1 (known n small)
  exact ⟨s, level_of_ofLevel? is⟩

theorem severity_number {token : Bytes} {s : Severity} :
    severity (.number token) = .ok s ↔ Json.integerOf? token = some (s.level : Int) := by
  constructor
  · intro read
    unfold severity at read
    cases whole : Json.integerOf? token with
    | none => simp only [whole] at read; cases read
    | some z =>
      cases z with
      | negSucc n => simp only [whole] at read; cases read
      | ofNat n =>
        simp only [whole] at read
        split at read
        · cases known : Severity.ofLevel? n with
          | none => simp only [known] at read; cases read
          | some s' =>
            simp only [known] at read
            rw [← Except.ok.inj read, level_of_ofLevel? known]
            rfl
        · cases read
  · intro read
    have byte : s.level < 256 := Nat.lt_trans s.level_lt (by decide)
    simp only [severity, read, if_pos byte, Severity.ofLevel?_level]

theorem exact_severity : Numeric.Exact (l := .detail) ⟨"severity", fun d => d.severity.level, 0, 7⟩
    (Field.orNull ⟨"severity", fun value d => (severity value).map fun s => { d with severity := s }⟩) where
  takes token z d read low high := by
    obtain ⟨n, rfl⟩ := Int.eq_ofNat_of_zero_le low
    obtain ⟨s, rfl⟩ := exists_level (Nat.lt_succ_of_le (Int.ofNat_le.1 high))
    refine ⟨{ d with severity := s }, ?_, rfl⟩
    change (severity (.number token)).map (fun s => { d with severity := s }) = _
    rw [severity_number.2 read]
    rfl
  refuses token d beyond := by
    change ∃ e, (severity (.number token)).map (fun s => { d with severity := s }) = .error e
    cases read : severity (.number token) with
    | error e => exact ⟨e, rfl⟩
    | ok s =>
      have bounds : (0 : Int) ≤ s.level ∧ (s.level : Int) ≤ 7 :=
        ⟨Int.natCast_nonneg _, Int.ofNat_le.2 (Nat.le_of_lt_succ s.level_lt)⟩
      exact absurd bounds (beyond _ (severity_number.1 read))

theorem numerics_owned (l : Level) : ∀ q ∈ l.numerics, l.layout.Owns q.name q.get := by
  cases l <;> simp only [numerics, Numeric.wide, Layout.Owns, layout, transactionLayout, responseLayout,
    detailLayout, List.forall_mem_cons] <;> and_intros <;>
    first
      | exact fun other => absurd rfl other
      | exact fun _ => keeps_of_sets sets_orNull fun _ _ => rfl
      | exact List.forall_mem_nil _

theorem numerics_exact (l : Level) : ∀ q ∈ l.numerics, ∃ f ∈ l.layout, f.name = q.name ∧ q.Exact f := by
  have at_ : ∀ {l : Level} {name : String} {get : l.Subject → Int64} (i : Nat)
      (set : Int64 → l.Subject → l.Subject), l.layout[i]? = some (number name set) →
      (∀ n a, get (set n a) = n) → ∃ f ∈ l.layout, f.name = name ∧ (Numeric.wide name get).Exact f :=
    fun i set there sees => ⟨_, List.mem_of_getElem? there, rfl, exact_number sees⟩
  cases l with
  | record | request | message => exact List.forall_mem_nil _
  | transaction =>
    simp only [numerics, List.forall_mem_cons]
    exact ⟨at_ 1 _ rfl fun _ _ => rfl, at_ 4 _ rfl fun _ _ => rfl, at_ 6 _ rfl fun _ _ => rfl,
      List.forall_mem_nil _⟩
  | response => exact List.forall_mem_singleton.2 (at_ 1 _ rfl fun _ _ => rfl)
  | detail =>
    simp only [numerics, List.forall_mem_cons]
    exact ⟨at_ 1 _ rfl fun _ _ => rfl, at_ 2 _ rfl fun _ _ => rfl, at_ 8 _ rfl fun _ _ => rfl,
      at_ 9 _ rfl fun _ _ => rfl, ⟨_, List.mem_of_getElem? (i := 6) rfl, rfl, exact_severity⟩,
      List.forall_mem_nil _⟩

/-- All fields that take a number are listed in `numerics`. -/
theorem numerics_complete (l : Level) : ∀ f ∈ l.layout, (∃ q ∈ l.numerics, q.name = f.name) ∨
    ∀ (token : Bytes) (a : l.Subject), ∃ e, f.put (.number token) a = .error e := by
  cases l <;> simp only [numerics, layout, recordLayout, transactionLayout, requestLayout, responseLayout,
    messageLayout, detailLayout, List.forall_mem_cons, List.exists_mem_cons_iff] <;> and_intros <;>
    first
      | exact .inr fun token a => ⟨_, rfl⟩
      | exact .inl (by simp [Numeric.wide, number, Field.orNull])
      | exact List.forall_mem_nil _

/-! ### Where a value stands -/

/-- A value at `spot v` belongs to the field `name` of the structure that `reach` finds. -/
inductive Stands : (l inner : Level) → String → (Json → Json) → (l.Subject → Option inner.Subject) → Prop
  | here {l : Level} {name : String} {slot : Json → Json} (stands : l.Slot name slot) :
      Stands l l name slot some
  | within {l middle inner : Level} {outer name : String} {seat slot spot : Json → Json}
      {view : l.Subject → Option middle.Subject} {reach : middle.Subject → Option inner.Subject}
      (part : l.Part outer middle seat view) (stands : l.Slot outer slot)
      (inside : Stands middle inner name spot reach) :
      Stands l inner name (fun v => slot (seat (spot v))) fun s => (view s).bind reach

theorem Stands.not_null {l inner : Level} {name : String} {spot : Json → Json}
    {reach : l.Subject → Option inner.Subject} (stands : l.Stands inner name spot reach) (v : Json) :
    (spot v).isNull = false := by
  cases stands with
  | here stands => exact stands.not_null v
  | within _ stands => exact stands.not_null _

theorem Stands.put {l inner : Level} {name : String} {spot : Json → Json}
    {reach : l.Subject → Option inner.Subject} (stands : l.Stands inner name spot reach)
    {f : Field Fault inner.Subject} (field : f ∈ inner.layout) (named : f.name = name) {β : Type}
    {get : inner.Subject → β} (owns : inner.layout.Owns name get) {w : Json} {s₀ : l.Subject}
    (accepted : l.decode (spot w) = .ok s₀) :
    ∃ a, ∀ v, (∀ e, f.put v a = .error e → l.decode (spot v) = .error e) ∧
      ∀ b, f.put v a = .ok b → ∃ s, l.decode (spot v) = .ok s ∧ (reach s).map get = some (get b) := by
  induction stands with
  | here stands =>
    subst named
    rcases stands.reads field with ⟨e, refused⟩ | ⟨a, back, aside, reads⟩
    · cases (refused w).symm.trans accepted
    obtain ⟨b, -, behind⟩ := exists_of_bind ((reads w).symm.trans accepted)
    refine ⟨a, fun v => ⟨fun e put => ?_, fun b put => ?_⟩⟩
    · rw [reads, put]
      rfl
    · obtain ⟨s, done⟩ := aside.passes behind b
      rw [reads, put]
      exact ⟨s, done, congrArg some (aside.keeps owns b s done)⟩
  | @within l middle inner outer name seat slot spot view reach part stands inside ih =>
    obtain ⟨g, there, rfl, taken⟩ := part.put
    rcases stands.reads there with ⟨e, refused⟩ | ⟨a, back, aside, reads⟩
    · cases (refused _).symm.trans accepted
    obtain ⟨b, whole, behind⟩ := exists_of_bind ((reads _).symm.trans accepted)
    rcases taken a with ⟨e, refused⟩ | ⟨rest, same, ends⟩
    · cases (refused _ (inside.not_null w)).symm.trans whole
    obtain ⟨m, read, further⟩ := exists_of_bind ((same _ (inside.not_null w)).symm.trans whole)
    rcases ends with ⟨e, refused⟩ | held
    · cases (refused m).symm.trans further
    obtain ⟨a', inner_⟩ := ih field named owns read
    refine ⟨a', fun v => ⟨fun e put => ?_, fun c put => ?_⟩⟩
    · rw [reads, same _ (inside.not_null v), (inner_ v).1 e put]
      rfl
    · obtain ⟨m', read', found⟩ := (inner_ v).2 c put
      obtain ⟨b', holds, seen⟩ := held m'
      obtain ⟨s, done⟩ := aside.passes behind b'
      rw [reads, same _ (inside.not_null v), read']
      refine ⟨s, ?_, ?_⟩
      · change rest m' >>= back = .ok s
        rw [holds]
        exact done
      · change ((view s).bind reach).map get = some (get c)
        rw [aside.keeps part.owns b' s done, seen]
        exact found

end Level

/-- A number as the value of an integer field, in a line that is acceptable but for that value, is accepted if
it has no fraction and no exponent, is not `-0` and lies within the bounds of the field. It is then read
exactly. Fields that are not numeric refuse every number. -/
theorem integers_exact {inner : Level} {q : inner.Numeric} (numeric : q ∈ inner.numerics) {spot : Json → Json}
    {reach : Record → Option inner.Subject} (stands : Level.record.Stands inner q.name spot reach) {w : Json}
    {line₀ line sign whole fraction power : Bytes} (spells₀ : Json.Spells (.text (spot w)) line₀)
    (accepted : ∃ r, parse line₀ = .ok r) (numeral : Json.Numeral sign whole fraction power)
    (spells : Json.Spells (.text (spot (.number (sign ++ whole ++ fraction ++ power)))) line) :
    ((∃ r, parse line = .ok r) ↔
      fraction = [] ∧ power = [] ∧ ¬(sign = [0x2D] ∧ whole = [0x30]) ∧
        q.least ≤ integer sign whole ∧ integer sign whole ≤ q.greatest) ∧
    (∀ r, parse line = .ok r → ∃ s, reach r = some s ∧ q.get s = integer sign whole) ∧
    ∀ f ∈ inner.layout, (∃ other ∈ inner.numerics, other.name = f.name) ∨
      ∀ token a, ∃ e, f.put (.number token) a = .error e := by
  rw [← and_assoc]
  refine ⟨?_, inner.numerics_complete⟩
  obtain ⟨r₀, accepted⟩ := accepted
  rw [parse_of_spells spells₀] at accepted
  rw [parse_of_spells spells]
  obtain ⟨f, field, named, exact_⟩ := inner.numerics_exact q numeric
  obtain ⟨a, becomes⟩ := stands.put field named (inner.numerics_owned q numeric) accepted
  obtain ⟨refused, taken⟩ := becomes (.number (sign ++ whole ++ fraction ++ power))
  have reads := @Json.integerOf?_numeral sign whole fraction power numeral
  by_cases within_ : fraction = [] ∧ power = [] ∧ ¬(sign = [0x2D] ∧ whole = [0x30]) ∧
    q.least ≤ integer sign whole ∧ integer sign whole ≤ q.greatest
  · obtain ⟨noFraction, noPower, zero, low, high⟩ := within_
    have read := reads.2 ⟨noFraction, noPower, zero, rfl⟩
    obtain ⟨b, put, sees⟩ := exact_.takes _ _ a read low high
    obtain ⟨s, decoded, found⟩ := taken b put
    refine ⟨⟨fun _ => ⟨noFraction, noPower, zero, low, high⟩, fun _ => ⟨s, decoded⟩⟩, fun r same => ?_⟩
    obtain rfl := Except.ok.inj (decoded.symm.trans same)
    obtain ⟨part, reached, is⟩ := Option.map_eq_some_iff.1 found
    exact ⟨part, reached, is.trans sees⟩
  · have beyond : ∀ z, Json.integerOf? (sign ++ whole ++ fraction ++ power) = some z →
        ¬(q.least ≤ z ∧ z ≤ q.greatest) := by
      intro z read bounds
      obtain ⟨noFraction, noPower, zero, rfl⟩ := reads.1 read
      exact within_ ⟨noFraction, noPower, zero, bounds⟩
    obtain ⟨e, put⟩ := exact_.refuses _ a beyond
    have never : ∀ r, Level.record.decode (spot (.number (sign ++ whole ++ fraction ++ power))) ≠ .ok r := by
      intro r same
      cases (refused e put).symm.trans same
    refine ⟨⟨?_, fun inside => absurd inside within_⟩, fun r same => absurd same (never r)⟩
    rintro ⟨r, same⟩
    exact absurd same (never r)

theorem integers_exact_line :
    let line := fun v => Json.object [Wire.member "messages"
      (.array [.object [Wire.member "data" (.object [Wire.member "line" v])]])]
    (∃ r, parse (line (.number (0x2D :: Backup.decimal (2 ^ 63)))).render = .ok r ∧
        ∃ m, r.messages[0]? = some m ∧ m.data.line.toInt = -2 ^ 63) ∧
      ¬∃ r, parse (line (.number (0x2D :: Backup.decimal (2 ^ 63 + 1)))).render = .ok r := by
  intro line
  have proper : ∀ {v : Json}, v.Proper → (line v).Proper := fun proper =>
    Wire.proper_single "messages" (.array (List.forall_mem_singleton.2
      (Wire.proper_single "data" (Wire.proper_single "line" proper))))
  have stands : Level.record.Stands .detail "line" line
      fun r => r.messages[0]?.bind fun m => (some m.data).bind some := by
    refine .within (.message [] []) (.member [] [] (Json.unescape?_escape "messages")) ?_
    exact .within .detail (.member [] [] (Json.unescape?_escape "data"))
      (.here (.member [] [] (Json.unescape?_escape "line")))
  have numeric : Level.Numeric.wide "line" Detail.line ∈ Level.detail.numerics := List.mem_cons_self
  have accepted : ∃ r, parse (line .null).render = .ok r := by
    rw [parse_of_spells (proper .null).spells.bare]
    refine ⟨{ messages := [{}] }, ?_⟩
    rfl
  have numeral : ∀ n, Json.Numeral [0x2D] (Backup.decimal n) [] [] := fun n => (Json.numeral_decimal n).negative
  have spelled : ∀ n, [0x2D] ++ Backup.decimal n ++ [] ++ [] = 0x2D :: Backup.decimal n := fun n => by simp
  have spells : ∀ n, Json.Spells (.text (line (.number ([0x2D] ++ Backup.decimal n ++ [] ++ []))))
      (line (.number (0x2D :: Backup.decimal n))).render := by
    intro n
    rw [spelled]
    refine (proper ?_).spells.bare
    rw [← spelled]
    exact .number (numeral n)
  have worth : ∀ n, Json.worth (Backup.decimal n) = n := fun n =>
    (Json.digits?_eq_some.1 (Json.digits?_decimal n)).2.symm
  have value : ∀ n, integer [0x2D] (Backup.decimal n) = -(n : Int) := fun n => by
    rw [integer, if_pos rfl, worth]
  have exact_ := fun n =>
    integers_exact numeric stands (proper .null).spells.bare accepted (numeral n) (spells n)
  constructor
  · obtain ⟨iff, found, -⟩ := exact_ (2 ^ 63)
    rw [value] at iff found
    have nonzero : ¬(([0x2D] : Bytes) = [0x2D] ∧ Backup.decimal (2 ^ 63) = [0x30]) := by
      rintro ⟨-, zero⟩
      have same := worth (2 ^ 63)
      rw [zero] at same
      exact absurd same (by decide)
    obtain ⟨r, parsed⟩ := iff.2 ⟨rfl, rfl, nonzero, by decide, by decide⟩
    obtain ⟨d, reached, same⟩ := found r parsed
    obtain ⟨m, first, is⟩ := Option.bind_eq_some_iff.1 reached
    obtain rfl := Option.some.inj is
    exact ⟨r, parsed, m, first, same⟩
  · intro read
    obtain ⟨-, -, -, low, -⟩ := (exact_ (2 ^ 63 + 1)).1.1 read
    rw [value] at low
    exact absurd low (by decide)

end AuditTrail.Record
