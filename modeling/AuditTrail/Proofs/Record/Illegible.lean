import AuditTrail.Proofs.Counters
import AuditTrail.Proofs.Record.Seen

/-! Lines that are not UTF-8. The reader of a record checks every string that it looks at, and the
text of a value outside strings is ASCII. So such a line fails unless its invalid bytes are in
values that are skipped. -/
namespace AuditTrail

namespace Record

/-- The line is JSON, and everything its reader looks at is valid UTF-8. -/
def LegibleWhereRead (line : Bytes) : Prop := ∃ v, Json.read line = .whole v ∧
  ∀ raw ∈ ((Look.part .record).seen v).quoted, Utf8.Legible raw

variable {line : Bytes} {v : Json} {r : Record}

/-- Values that are skipped do not matter. -/
theorem parse_seen (whole : Json.read line = .whole v) :
    parse line = Level.record.decode ((Look.part .record).seen v) := by
  rw [(plain v (.part .record)).same, parse, Json.decodeText, whole]
  rfl

theorem legibleWhereRead_of_parse (taken : parse line = .ok r) : LegibleWhereRead line := by
  unfold parse Json.decodeText at taken
  cases read : Json.read line with
  | cut before =>
    cases before with
    | none => simp [read] at taken
    | some v => cases decoded : ofJson v <;> simp [read, decoded] at taken
  | whole v =>
    simp only [read] at taken
    refine ⟨v, read, fun raw looked => ?_⟩
    have quotable := (Json.quoted_of_read read).1 raw ((quoted_seen v _).subset looked)
    exact quotable.legible ((plain v (.part .record)).worded r taken raw looked)

end Record

namespace Dispatch

variable {σ : Type} {handler : Handler σ} {path : Path} {limit : Nat} {content : Bytes}

theorem legible_of_isBlank (blank : content.all isBlank = true) : Utf8.Legible content := by
  apply Utf8.legible_of_small
  intro b member
  have blank := List.all_eq_true.1 blank b member
  simp only [isBlank, Bool.or_eq_true, beq_iff_eq] at blank
  grind

theorem illegible_trim (illegible : ¬ Utf8.Legible content) : ¬ Utf8.Legible (trim content) := by
  intro legible
  obtain ⟨lead, tail, same, before, after, -⟩ := trim_between content
  rw [same] at illegible
  exact illegible (((legible_of_isBlank before).append legible).append (legible_of_isBlank after))

def Account.around (first : Account σ) (event : Event) (others : Account σ) : Account σ where
  state := others.state
  processed := first.processed + others.processed
  blank := first.blank + others.blank
  failed := first.failed + 1 + others.failed
  notes := first.notes ++ [.count .linesFailed, .event event] ++ others.notes

def Account.outcome (path : Path) (ending : Option IoError) (a : Account σ) :
    Except Failure Summary × σ × Journal :=
  (match ending with
    | none => a.result path
    | some cause => .error (.io s!"failed to read {path.display}" cause), a.state, a.notes)

theorem run_outcome (handler : Handler σ) (path : Path) (limit : Nat) (chunks : List Bytes)
    {rest : Source} {ending : Option IoError} (follows : Lines.After rest ending) (state : σ) :
    run handler path limit (.ofChunks chunks rest) state =
      (account handler path limit 1 (Lines.heard chunks.flatten ending) state).outcome path ending := by
  rw [run_chunks handler path limit chunks follows]
  cases follows <;> rfl

theorem account_around {number : Nat} {event : Event} (before after : List Bytes) {state : σ}
    (fails : ∀ state, settle handler path limit (number + before.length) content state =
      .failure state [] event) :
    account handler path limit number (before ++ content :: after) state =
      let first := account handler path limit number before state
      first.around event (account handler path limit (number + before.length + 1) after first.state) := by
  induction before generalizing number state with
  | nil =>
    have here := fails state
    rw [List.length_nil, Nat.add_zero] at here
    simp [account, here, Account.failure, Account.around]
  | cons line before ih =>
    have count : number + (before.length + 1) = number + 1 + before.length := by omega
    rw [List.length_cons, count] at fails ⊢
    simp only [List.cons_append, account, ih fails, Account.around, Nat.add_assoc, List.append_assoc]

theorem settle_illegible {cause : Record.Fault} (short : content.length ≤ limit)
    (visible : content.all isBlank = false) (refused : Record.parse (trim content) = .error cause)
    (number : Nat) (state : σ) : settle handler path limit number content state =
      .failure state [] (failureEvent path number (.line number cause.reason)) := by
  rw [settle, if_neg (Nat.not_lt.2 short), if_neg (by simp [visible]), refused]

theorem settle_fails (fail : fails limit content = true) (path : Path) :
    ∃ event : Nat → Event, ∀ {σ : Type} (handler : Handler σ) (number : Nat) (state : σ),
      settle handler path limit number content state = .failure state [] (event number) := by
  by_cases long : limit < content.length
  · exact ⟨_, fun handler number state => if_pos long⟩
  · simp only [fails, decide_eq_false long, Bool.false_or, Bool.and_eq_true, Bool.not_eq_true',
      Option.isNone_iff_eq_none] at fail
    obtain ⟨visible, none⟩ := fail
    cases refused : Record.parse (trim content) with
    | ok r => simp [refused, Except.toOption] at none
    | error cause =>
      exact ⟨_, fun handler number state => settle_illegible (Nat.not_lt.1 long) visible refused number state⟩

theorem record?_illegible {cause : Record.Fault} (refused : Record.parse (trim content) = .error cause) :
    record? limit content = none := by
  unfold record?
  split
  · rfl
  · rw [refused]
    rfl

/-- A line that is not UTF-8 fails by itself, and the other lines are not affected by it, unless all its stray
bytes stand in values that are skipped. Such a line is read as if those values were `null`. -/
theorem illegible_fails {chunks : List Bytes} {rest : Source} {ending : Option IoError}
    (follows : Lines.After rest ending) {before after : List Bytes}
    (lines : Lines.heard chunks.flatten ending = before ++ content :: after)
    (short : content.length ≤ limit) (illegible : ¬ Utf8.Legible content) :
    (¬ Record.LegibleWhereRead (trim content) → ∃ cause, Record.parse (trim content) = .error cause ∧
      ∀ {σ : Type} (handler : Handler σ) (path : Path) (state : σ),
        let first := account handler path limit 1 before state
        let others := account handler path limit (before.length + 2) after first.state
        let event := failureEvent path (before.length + 1) (.line (before.length + 1) cause.reason)
        run handler path limit (.ofChunks chunks rest) state =
            (first.around event others).outcome path ending ∧
          (run (recorded handler) path limit (.ofChunks chunks rest) (state, [])).2.1 =
            (others.state, (before ++ after).filterMap (record? limit)) ∧
          ∀ other, fails limit other = true → ∃ event', ∀ chunks' : List Bytes,
            Lines.heard chunks'.flatten ending = before ++ other :: after →
            run handler path limit (.ofChunks chunks' rest) state =
              (first.around event' others).outcome path ending) ∧
    ∀ v, Json.read (trim content) = .whole v → (∃ raw ∈ v.quoted, ¬ Utf8.Legible raw) ∧
      Record.parse (trim content) = Record.Level.record.decode ((Record.Look.part .record).seen v) := by
  have visible : content.all isBlank = false := by
    rw [← Bool.not_eq_true]
    exact fun blank => illegible (legible_of_isBlank blank)
  refine ⟨fun notLegible => ?_, fun v whole => ⟨?_, Record.parse_seen whole⟩⟩
  · cases refused : Record.parse (trim content) with
    | ok r => exact absurd (Record.legibleWhereRead_of_parse refused) notLegible
    | error cause =>
      refine ⟨cause, rfl, fun {σ} handler path state => ?_⟩
      have number : 1 + before.length = before.length + 1 := Nat.add_comm ..
      have counted : account handler path limit 1 (before ++ content :: after) state = _ :=
        account_around before after fun state => settle_illegible short visible refused _ state
      rw [number] at counted
      refine ⟨?_, ?_, fun other fail => ?_⟩
      · rw [run_outcome handler path limit chunks follows, lines, counted]
      · rw [run_outcome (recorded handler) path limit chunks follows, lines]
        change (account (recorded handler) path limit 1 _ (state, [])).state = _
        rw [account_recorded, counted, List.filterMap_append, List.filterMap_cons,
          record?_illegible refused, ← List.filterMap_append]
        rfl
      · obtain ⟨event, settled⟩ := settle_fails fail path
        refine ⟨event (before.length + 1), fun chunks' lines' => ?_⟩
        rw [run_outcome handler path limit chunks' follows, lines',
          account_around before after fun state => settled handler _ state, number]
  · have all := mt (Json.quoted_of_read whole).2 (illegible_trim illegible)
    obtain ⟨raw, stray⟩ := not_forall.1 all
    exact ⟨raw, Classical.not_imp.1 stray⟩

theorem illegible_fails_name :
    let content : Bytes := [0x7B, 0x22, 0xFF, 0x22, 0x3A, 0x31, 0x7D]
    let source := Source.ofChunks [content ++ [0x0A, 0x7B, 0x7D]] []
    ¬ Utf8.Legible content ∧ ¬ Record.LegibleWhereRead (trim content) ∧
      (run (σ := Unit) Violations.handler ⟨[0x61]⟩ 7 source ()).1 = .error (.records ⟨[0x61]⟩ 1 1) ∧
      (run (σ := Unit × List Record) (recorded Violations.handler) ⟨[0x61]⟩ 7 source ((), [])).2.1 =
        ((), [{}]) := by
  intro content source
  have illegible : ¬ Utf8.Legible content := by
    unfold Utf8.Legible
    decide +kernel
  have notLegible : ¬ Record.LegibleWhereRead (trim content) := by
    rintro ⟨v, whole, spelled⟩
    have read : Json.read (trim content) = .whole (.object [([0xFF], .number [0x31])]) := rfl
    obtain rfl := Json.Reading.whole.inj (read.symm.trans whole)
    have stray := spelled [0xFF] (by decide +kernel)
    unfold Utf8.Legible at stray
    revert stray
    decide +kernel
  have lines : Lines.heard [content ++ [0x0A, 0x7B, 0x7D]].flatten none = [] ++ content :: [[0x7B, 0x7D]] := by
    decide
  obtain ⟨cause, -, alone⟩ := (illegible_fails .nothing lines (Nat.le_refl 7) illegible).1 notLegible
  obtain ⟨ran, calls, -⟩ := alone (σ := Unit) Violations.handler ⟨[0x61]⟩ ()
  refine ⟨illegible, notLegible, ?_, calls.trans ?_⟩
  · rw [ran]
    rfl
  · rfl

/-- A stray byte in the value of an unknown member is not noticed. -/
theorem stray_byte_passed :
    let content : Bytes := Utf8.encode "\x7b\"extra\":\"" ++ [0xFF] ++
      Utf8.encode "\",\"transaction\":\x7b\"id\":\"ok\"\x7d\x7d"
    ¬ Utf8.Legible content ∧ content.length ≤ 1024 ∧
      run (Collecting.handler []) ⟨[0x61]⟩ 1024 (.ofChunks [content ++ [0x0A]] []) [] =
        (.ok ⟨1, 0⟩, ["ok"], [.count .recordsProcessed]) := by
  intro content
  refine ⟨?_, by decide +kernel, ?_⟩
  · unfold Utf8.Legible
    decide +kernel
  have lines : Lines.heard [content ++ [0x0A]].flatten none = [content] := by decide +kernel
  have short : ¬ 1024 < content.length := by decide +kernel
  have visible : ¬ content.all isBlank = true := by decide +kernel
  have parsed : (Record.parse (trim content)).toOption = some { transaction := { id := "ok" } } := by
    decide +kernel
  cases read : Record.parse (trim content) with
  | error cause => simp [read, Except.toOption] at parsed
  | ok r =>
    obtain rfl : r = _ := by simpa [read, Except.toOption] using parsed
    rw [run_outcome _ _ _ _ .nothing, lines]
    simp only [account, settle, if_neg short, if_neg visible, read]
    rfl

end Dispatch
end AuditTrail
