import AuditTrail.Proofs.Dispatch
import AuditTrail.Proofs.Json.Layout

/-! Records come back from their lines. Each structure is written as the fields of its layout in
order, and the line of a record contains no newline. -/
namespace AuditTrail.Record
open Json (Layout Field Quotable)

namespace Wire

/-! ### Values -/

theorem put_orNull {ε α β : Type} {name : String} {reader : Json → Except ε β} {set : β → α → α}
    {v : Json} {b : β} {a : α} (given : v.isNull = false) (read : reader v = .ok b) :
    (Field.orNull ⟨name, fun value a => (reader value).map (set · a)⟩).put v a = .ok (set b a) := by
  simp only [Field.orNull, given, read]
  rfl

theorem put_text {α : Type} {name : String} {set : String → α → α} (s : String) (a : α) :
    (text name set).put (.ofString s) a = .ok (set s a) :=
  put_orNull rfl (by rw [Json.string?_ofString]; rfl)

theorem int64?_ofInt (n : Int64) : int64? (.ofInt n.toInt) = some n := by
  have low := n.le_toInt
  have high := n.toInt_lt
  rw [int64?, Json.integer?_ofInt, Option.bind_some, if_pos ⟨by omega, by omega⟩, Int64.ofInt_toInt]

theorem put_number {α : Type} {name : String} {set : Int64 → α → α} (n : Int64) (a : α) :
    (Wire.number name set).put (.ofInt n.toInt) a = .ok (set n a) :=
  put_orNull rfl (by rw [int64?_ofInt]; rfl)

theorem textList_listJson (values : List String) : textList (listJson values) = .ok values := by
  rw [listJson, textList]
  induction values with
  | nil => rfl
  | cons s rest ih => rw [List.map_cons, texts, Json.string?_ofString, ih]; rfl

theorem severity_ofString (s : Severity) : severity (.ofString s.name) = .ok s := by
  have known : Severity.ofName s.name = .ok s := by cases s <;> rfl
  simp only [severity, Json.ofString, Json.unescape?_escape, known]

theorem put_last {name : String} {values : List String} {entries : List (String × List String)}
    (past : ∀ e ∈ entries, e.1 < name) :
    Headers.put name values entries = entries ++ [(name, values)] := by
  induction entries with
  | nil => rfl
  | cons head rest ih =>
    obtain ⟨before, later⟩ := List.forall_mem_cons.1 past
    rw [Headers.put, if_neg (String.lt_asymm before), if_neg (String.ne_of_lt before).symm, ih later]
    rfl

theorem headersFrom_entries {h : Headers} (front : List (String × List String))
    {rest : List (String × List String)} (split : h.entries = front ++ rest) {g : Headers}
    (so : g.entries = front) :
    headersFrom (rest.map fun (name, values) => member name (listJson values)) g = .ok h := by
  -- The names are ascending, so each is put last.
  induction rest generalizing front g with
  | nil =>
    obtain ⟨entries, rising⟩ := h
    obtain ⟨entries', rising'⟩ := g
    obtain rfl : entries' = entries := so.trans (split.trans (List.append_nil _)).symm
    rfl
  | cons entry rest ih =>
    obtain ⟨name, values⟩ := entry
    have past : ∀ e ∈ g.entries, e.1 < name := by
      have rising := h.rising
      rw [split, List.pairwise_append] at rising
      exact fun e earlier => rising.2.2 e (so ▸ earlier) _ List.mem_cons_self
    have inserted : (g.insert name values).entries = front ++ [(name, values)] :=
      (put_last past).trans (by rw [so])
    have further := ih _ (split.trans (List.append_cons ..)) inserted
    rw [List.map_cons, headersFrom, member, Json.unescape?_escape, textList_listJson]
    exact further

theorem put_headers {α : Type} {set : Headers → α → α} (h : Headers) (a : α) :
    (headerField set).put (headersJson h).2 a = .ok (set h a) :=
  put_orNull rfl (headersFrom_entries [] rfl rfl)

/-! ### Structures -/

theorem decode_request (r : Request) : requestLayout.decode {} (requestJson r) = .ok r :=
  Layout.decode_gives (by decide)
    (.give (put_text r.method _) <| .give (put_text r.protocol _) <| .give (put_text r.uri _) <|
      .give (put_text r.httpVersion _) <| .give (put_headers r.headers _) <|
      .give (put_text r.body _) .done)

theorem decode_response (r : Response) : responseLayout.decode {} (responseJson r) = .ok r :=
  Layout.decode_gives (by decide)
    (.give (put_text r.protocol _) <| .give (put_number r.status _) <|
      .give (put_headers r.headers _) <| .give (put_text r.body _) .done)

/-- An absent request or response is not written, and is absent when read. -/
theorem decode_transaction (t : Transaction) : transactionLayout.decode {} (transactionJson t) = .ok t := by
  refine Layout.decode_gives (by decide)
    (.give (put_text t.timestamp _) <| .give (put_number t.unixTimestamp _) <| .give (put_text t.id _) <|
      .give (put_text t.clientIp _) <| .give (put_number t.clientPort _) <| .give (put_text t.hostIp _) <|
      .give (put_number t.hostPort _) <| .give (put_text t.serverId _) ?_)
  obtain ⟨_, _, _, _, _, _, _, _, request, response⟩ := t
  cases request with
  | none => cases response with
    | none => exact .skip (.skip .done)
    | some r => exact .skip (.give (put_orNull rfl (decode_response r)) .done)
  | some q => cases response with
    | none => exact .give (put_orNull rfl (decode_request q)) (.skip .done)
    | some r =>
      exact .give (put_orNull rfl (decode_request q)) (.give (put_orNull rfl (decode_response r)) .done)

theorem decode_detail (d : Detail) : detailLayout.decode {} (detailJson d) = .ok d :=
  Layout.decode_gives (by decide)
    (.give (put_text d.file _) <| .give (put_number d.line _) <| .give (put_number d.id _) <|
      .give (put_text d.rev _) <| .give (put_text d.msg _) <| .give (put_text d.data _) <|
      .give (put_orNull rfl (severity_ofString d.severity)) <| .give (put_text d.ver _) <|
      .give (put_number d.maturity _) <| .give (put_number d.accuracy _) <|
      .give (put_orNull rfl (textList_listJson d.tags)) <| .give (put_text d.raw _) .done)

theorem decode_message (m : Message) : messageLayout.decode {} (messageJson m) = .ok m :=
  Layout.decode_gives (by decide)
    (.give (put_text m.message _) <| .give (put_orNull rfl (decode_detail m.data)) .done)

theorem messageList_map (ms : List Message) : messageList (ms.map messageJson) = .ok ms := by
  induction ms with
  | nil => rfl
  | cons m rest ih => rw [List.map_cons, messageList, decode_message, ih]; rfl

theorem decode_record (r : Record) : recordLayout.decode {} (recordJson r) = .ok r := by
  refine Layout.decode_gives (by decide) (.give (put_orNull rfl (decode_transaction r.transaction)) ?_)
  obtain ⟨transaction, messages⟩ := r
  cases messages with
  | nil => exact .skip .done
  | cons m rest =>
    refine .give (b := ⟨transaction, m :: rest⟩) ?_ .done
    simp only [Field.orNull, Json.isNull, messageList_map]
    rfl

/-! ### Texts -/

theorem proper_object {members : List (Bytes × Json)}
    (each : ∀ m ∈ members, Quotable m.1 ∧ m.2.Proper) : (Json.object members).Proper :=
  .object (fun m among => (each m among).1) (fun m among => (each m among).2)

theorem proper_member {v : Json} (name : String) (proper : v.Proper) :
    Quotable (member name v).1 ∧ (member name v).2.Proper :=
  ⟨Json.quotable_escape name, proper⟩

theorem proper_single {v : Json} (name : String) (proper : v.Proper) : (Json.object [member name v]).Proper :=
  proper_object (List.forall_mem_singleton.2 (proper_member name proper))

theorem proper_text (name s : String) : Quotable (textJson name s).1 ∧ (textJson name s).2.Proper :=
  proper_member name (Json.proper_ofString s)

theorem proper_number (name : String) (n : Int64) :
    Quotable (numberJson name n).1 ∧ (numberJson name n).2.Proper :=
  proper_member name (Json.proper_ofInt n.toInt)

theorem proper_list (values : List String) : (listJson values).Proper :=
  .array (List.forall_mem_map.2 fun s _ => Json.proper_ofString s)

theorem proper_headers (h : Headers) : Quotable (headersJson h).1 ∧ (headersJson h).2.Proper :=
  proper_member "headers" (proper_object (List.forall_mem_map.2 fun (name, values) _ =>
    proper_member name (proper_list values)))

theorem proper_request (r : Request) : (requestJson r).Proper := by
  refine proper_object ?_
  simp only [List.forall_mem_cons]
  exact ⟨proper_text .., proper_text .., proper_text .., proper_text .., proper_headers _,
    proper_text .., nofun⟩

theorem proper_response (r : Response) : (responseJson r).Proper := by
  refine proper_object ?_
  simp only [List.forall_mem_cons]
  exact ⟨proper_text .., proper_number .., proper_headers _, proper_text .., nofun⟩

theorem proper_transaction (t : Transaction) : (transactionJson t).Proper := by
  refine proper_object ?_
  simp only [List.forall_mem_append, List.forall_mem_cons]
  refine ⟨⟨⟨proper_text .., proper_number .., proper_text .., proper_text .., proper_number ..,
    proper_text .., proper_number .., proper_text .., nofun⟩, ?_⟩, ?_⟩
  · cases t.request with
    | none => nofun
    | some r => exact List.forall_mem_singleton.2 (proper_member "request" (proper_request r))
  · cases t.response with
    | none => nofun
    | some r => exact List.forall_mem_singleton.2 (proper_member "response" (proper_response r))

theorem proper_detail (d : Detail) : (detailJson d).Proper := by
  refine proper_object ?_
  simp only [List.forall_mem_cons]
  exact ⟨proper_text .., proper_number .., proper_number .., proper_text .., proper_text ..,
    proper_text .., proper_text .., proper_text .., proper_number .., proper_number ..,
    proper_member "tags" (proper_list d.tags), proper_text .., nofun⟩

theorem proper_message (m : Message) : (messageJson m).Proper := by
  refine proper_object ?_
  simp only [List.forall_mem_cons]
  exact ⟨proper_text .., proper_member "data" (proper_detail m.data), nofun⟩

theorem proper_record (r : Record) : (recordJson r).Proper := by
  refine proper_object (List.forall_mem_cons.2
    ⟨proper_member "transaction" (proper_transaction r.transaction), ?_⟩)
  split
  · nofun
  · exact List.forall_mem_singleton.2 (proper_member "messages"
      (.array (List.forall_mem_map.2 fun m _ => proper_message m)))

end Wire

/-! ### Lines -/

theorem parse_line (r : Record) : parse r.line = .ok r := by
  have read : Json.read r.line = .whole r.toJson := Json.read_render (Wire.proper_record r)
  rw [parse, Json.decodeText, read]
  exact Wire.decode_record r

theorem newline_free (r : Record) : Source.newline ∉ r.line := fun among =>
  absurd ((Wire.proper_record r).printable _ among) (by decide)

theorem line_braces (r : Record) : ∃ inner, r.line = 0x7B :: inner ++ [0x7D] := ⟨_, rfl⟩

theorem trim_line (r : Record) : Dispatch.trim r.line = r.line := by
  obtain ⟨inner, braces⟩ := line_braces r
  have front : r.line.dropWhile Dispatch.isBlank = r.line := by rw [braces]; rfl
  have back : r.line.reverse.dropWhile Dispatch.isBlank = r.line.reverse := by
    rw [braces, List.reverse_append]
    rfl
  rw [Dispatch.trim, front, back, List.reverse_reverse]

theorem line_not_blank (r : Record) : r.line.all Dispatch.isBlank = false := by
  obtain ⟨inner, braces⟩ := line_braces r
  rw [braces]
  rfl

/-- The lines of some records. -/
def file (records : List Record) : Bytes := records.flatMap fun r => r.line ++ [Source.newline]

theorem cut_file (records : List Record) : Lines.cut (file records) = records.map line := by
  induction records with
  | nil => rfl
  | cons r rest ih =>
    rw [file, List.flatMap_cons, List.append_assoc, List.singleton_append,
      Lines.cut_cons (newline_free r), List.map_cons, ← ih]
    rfl

variable {σ : Type} (handler : Handler σ) (path : Path) {limit : Nat} {records : List Record}

theorem record?_line {r : Record} (short : r.line.length ≤ limit) :
    Dispatch.record? limit r.line = some r := by
  rw [Dispatch.record?, if_neg, trim_line, parse_line]
  · rfl
  · rw [line_not_blank]
    simpa using short

theorem filterMap_record? (short : ∀ r ∈ records, r.line.length ≤ limit) :
    (records.map line).filterMap (Dispatch.record? limit) = records := by
  rw [List.filterMap_map]
  exact (List.filterMap_congr fun r among => record?_line (short r among)).trans List.filterMap_some

theorem settle_line {r : Record} (short : r.line.length ≤ limit) (number : Nat) (state : σ) :
    let line := Dispatch.settle handler path limit number r.line state
    line.blank = 0 ∧ ((handler state r).refusal = none → line.failed = 0) := by
  unfold Dispatch.settle
  rw [if_neg (Nat.not_lt.2 short), if_neg (by simp [line_not_blank]), trim_line, parse_line]
  dsimp only
  cases (handler state r).refusal with
  | none => exact ⟨rfl, fun _ => rfl⟩
  | some failure => exact ⟨rfl, nofun⟩

theorem account_lines (short : ∀ r ∈ records, r.line.length ≤ limit) (number : Nat) (state : σ) :
    let a := Dispatch.account handler path limit number (records.map line) state
    a.blank = 0 ∧ ((∀ s, ∀ r ∈ records, (handler s r).refusal = none) → a.failed = 0) := by
  induction records generalizing number state with
  | nil => exact ⟨rfl, fun _ => rfl⟩
  | cons r rest ih =>
    obtain ⟨here, later⟩ := List.forall_mem_cons.1 short
    obtain ⟨written, taken⟩ := settle_line handler path here number state
    obtain ⟨blank, failed⟩ := ih later (number + 1)
      (Dispatch.settle handler path limit number r.line state).state
    simp only [List.map_cons, Dispatch.account]
    refine ⟨by omega, fun accepts => ?_⟩
    have first := taken (accepts state r List.mem_cons_self)
    have others := failed fun s q among => accepts s q (List.mem_cons_of_mem _ among)
    omega

theorem run_file {chunks : List Bytes} (delivered : chunks.flatten = file records) (state : σ) :
    Dispatch.run handler path limit (.ofChunks chunks []) state =
      let a := Dispatch.account handler path limit 1 (records.map line) state
      (a.result path, a.state, a.notes) := by
  rw [Dispatch.run_chunks handler path limit chunks .nothing, Lines.heard, delivered, cut_file]

/-- Reading a record's line gives the record back. For a file of such lines, in whatever pieces its bytes
arrive, exactly the records are handed on in order, and no line is blank or fails where the handler takes
every record. -/
theorem file_processed :
    (∀ r : Record, parse r.line = .ok r) ∧
    ∀ {σ : Type} (handler : Handler σ) (path : Path) (limit : Nat) (records : List Record)
      (chunks : List Bytes) (state : σ),
      (∀ r ∈ records, r.line.length ≤ limit) → chunks.flatten = file records →
      (Dispatch.run (Dispatch.recorded handler) path limit (.ofChunks chunks []) (state, [])).2.1 =
          ((Dispatch.run handler path limit (.ofChunks chunks []) state).2.1, records) ∧
        ((∀ s, ∀ r ∈ records, (handler s r).refusal = none) →
          (Dispatch.run handler path limit (.ofChunks chunks []) state).1 =
            .ok ⟨records.length, 0⟩) := by
  refine ⟨parse_line, fun handler path limit records chunks state short delivered => ?_⟩
  rw [run_file handler path delivered, run_file (Dispatch.recorded handler) path delivered]
  refine ⟨?_, fun accepts => ?_⟩
  · dsimp only
    rw [Dispatch.account_recorded, filterMap_record? short]
    rfl
  · have total := Dispatch.account_total handler path limit 1 (records.map line) state
    obtain ⟨blank, failed⟩ := account_lines handler path short 1 state
    have none_failed := failed accepts
    dsimp only at total blank none_failed ⊢
    rw [blank, none_failed, List.length_map] at total
    rw [Dispatch.Account.result, if_pos none_failed, blank, ← total]
    rfl

theorem file_processed_pieces :
    let request : Request := { uri := "/\"\n\u00e9", headers := Headers.empty.insert "host" ["a", ""] }
    let first : Record := { transaction := { unixTimestamp := -1, request := some request } }
    let second : Record := { messages := [{ data := { severity := .warning, tags := ["x"] } }] }
    let bytes := file [first, second]
    let source := Source.ofChunks [bytes.take 100, bytes.drop 100] []
    (∀ r ∈ [first, second], r.line.length ≤ 400) ∧
      (Dispatch.run (Dispatch.recorded Violations.handler) ⟨[0x61]⟩ 400 source ((), [])).2.1 =
        ((), [first, second]) ∧
      (Dispatch.run Violations.handler ⟨[0x61]⟩ 400 source ()).1 = .ok ⟨2, 0⟩ := by
  intro request first second bytes source
  have short : ∀ r ∈ [first, second], r.line.length ≤ 400 := by decide +kernel
  have delivered : [bytes.take 100, bytes.drop 100].flatten = bytes := by
    rw [List.flatten_cons, List.flatten_singleton, List.take_append_drop]
  obtain ⟨handed, taken⟩ :=
    file_processed.2 Violations.handler ⟨[0x61]⟩ 400 [first, second] _ () short delivered
  exact ⟨short, handed, taken fun _ _ _ => rfl⟩

end AuditTrail.Record
