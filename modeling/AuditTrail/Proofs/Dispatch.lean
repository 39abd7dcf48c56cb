import AuditTrail.Dispatch
import AuditTrail.Proofs.Lines

/-! Reading a file line by line. `Dispatch.account` gives the outcome for each line content in
order, and `run_account` says that a run over any delivery of the bytes has just these outcomes. -/
namespace AuditTrail.Dispatch

variable {σ : Type}

theorem trim_eq_nil (content : Bytes) : trim content = [] ↔ content.all isBlank = true := by
  rw [trim, List.reverse_eq_nil_iff, List.dropWhile_eq_nil_iff, List.all_eq_true]
  simp only [List.mem_reverse]
  constructor
  · intro tail b member
    rw [← List.takeWhile_append_dropWhile (p := isBlank) (l := content), List.mem_append] at member
    rcases member with lead | rest
    · exact List.mem_takeWhile_imp lead
    · exact tail b rest
  · intro blank b member
    exact blank b ((List.dropWhile_suffix _).subset member)

theorem not_isBlank_of_head? {bytes : Bytes} {b : UInt8}
    (first : (bytes.dropWhile isBlank).head? = some b) : isBlank b = false := by
  have kept := List.head?_dropWhile_not isBlank bytes
  rw [first] at kept
  exact kept

theorem trim_between (content : Bytes) : ∃ lead tail, content = lead ++ trim content ++ tail ∧
    lead.all isBlank = true ∧ tail.all isBlank = true ∧
    (∀ b, (trim content).head? = some b → isBlank b = false) ∧
    (∀ b, (trim content).getLast? = some b → isBlank b = false) := by
  have front := List.takeWhile_append_dropWhile (p := isBlank) (l := content)
  have back := List.takeWhile_append_dropWhile (p := isBlank)
    (l := (content.dropWhile isBlank).reverse)
  obtain ⟨tail, middle, blank⟩ : ∃ tail, content.dropWhile isBlank = trim content ++ tail ∧
      tail.all isBlank = true := by
    refine ⟨((content.dropWhile isBlank).reverse.takeWhile isBlank).reverse, ?_, ?_⟩
    · rw [trim, ← List.reverse_append, back, List.reverse_reverse]
    · rw [List.all_reverse]
      exact List.all_takeWhile
  refine ⟨content.takeWhile isBlank, tail, ?_, List.all_takeWhile, blank, ?_, ?_⟩
  · rw [List.append_assoc, ← middle, front]
  · intro b first
    have first' : (content.dropWhile isBlank).head? = some b := by
      rw [middle, List.head?_append, first, Option.some_or]
    exact not_isBlank_of_head? first'
  · intro b last
    rw [trim, List.getLast?_reverse] at last
    exact not_isBlank_of_head? last

/-- The counts, notes and handler state after some lines. -/
structure Account (σ : Type) where
  state : σ
  processed : Nat := 0
  blank : Nat := 0
  failed : Nat := 0
  notes : Journal := []

def Account.failure (state : σ) (notes : Journal) (event : Event) : Account σ :=
  { state, failed := 1, notes := notes ++ [.count .linesFailed, .event event] }

/-- The account of one line, given by its number and its content without the newline. -/
def settle (handler : Handler σ) (path : Path) (limit number : Nat) (content : Bytes) (state : σ) :
    Account σ :=
  if limit < content.length then .failure state [] (oversizeEvent path number limit)
  else if content.all isBlank then { state, blank := 1 }
  else match Record.parse (trim content) with
    | .error cause => .failure state [] (failureEvent path number (.line number cause.reason))
    | .ok r =>
      let reply := handler state r
      match reply.refusal with
      | none => { state := reply.state, processed := 1,
                  notes := reply.notes ++ [.count .recordsProcessed] }
      | some failure => .failure reply.state reply.notes (failureEvent path number failure)

def account (handler : Handler σ) (path : Path) (limit : Nat) : Nat → List Bytes → σ → Account σ
  | _, [], state => { state }
  | number, content :: rest, state =>
    let line := settle handler path limit number content state
    let others := account handler path limit (number + 1) rest line.state
    { state := others.state
      processed := line.processed + others.processed
      blank := line.blank + others.blank
      failed := line.failed + others.failed
      notes := line.notes ++ others.notes }

def Account.result (path : Path) (a : Account σ) : Except Failure Summary :=
  if a.failed = 0 then .ok ⟨a.processed, a.blank⟩ else .error (.records path a.failed a.processed)

def add (d : Dispatch σ) (lines : Nat) (a : Account σ) : Dispatch σ where
  state := a.state
  number := d.number + lines
  processed := d.processed + a.processed
  blank := d.blank + a.blank
  failed := d.failed + a.failed
  notes := a.notes.reverse ++ d.notes

variable (handler : Handler σ) (path : Path) (limit : Nat)

theorem settle_once (number : Nat) (content : Bytes) (state : σ) :
    let line := settle handler path limit number content state
    line.processed + line.blank + line.failed = 1 := by
  unfold settle
  split
  · rfl
  split
  · rfl
  split
  · rfl
  · dsimp only
    split <;> rfl

theorem account_total (number : Nat) (contents : List Bytes) (state : σ) :
    let a := account handler path limit number contents state
    a.processed + a.blank + a.failed = contents.length := by
  induction contents generalizing number state with
  | nil => rfl
  | cons content rest ih =>
    have line := settle_once handler path limit number content state
    have others := ih (number + 1) (settle handler path limit number content state).state
    simp only [account, List.length_cons] at line others ⊢
    omega

theorem take_judge (d : Dispatch σ) (content : Bytes) :
    d.take handler path limit (Lines.judge limit content) =
      d.add 1 (settle handler path limit (d.number + 1) content d.state) := by
  by_cases long : limit < content.length
  · rw [Lines.judge_of_lt long, settle, if_pos long]
    rfl
  rw [Lines.judge_of_le (Nat.not_lt.1 long), settle, if_neg long]
  by_cases blank : content.all isBlank = true
  · rw [if_pos blank]
    have trimmed := (trim_eq_nil content).2 blank
    simp [take, Reading.ofLine, trimmed, add]
  · have trimmed : trim content ≠ [] := fun empty => blank ((trim_eq_nil content).1 empty)
    rw [if_neg blank]
    cases parsed : Record.parse (trim content) with
    | error cause => simp [take, Reading.ofLine, trimmed, parsed, add, Account.failure, fail, note]
    | ok r =>
      cases refused : (handler d.state r).refusal with
      | none => simp [take, Reading.ofLine, trimmed, parsed, refused, add, note]
      | some failure =>
        simp [take, Reading.ofLine, trimmed, parsed, refused, add, Account.failure, fail, note]

theorem foldl_take (d : Dispatch σ) (contents : List Bytes) :
    (contents.map (Lines.judge limit)).foldl (take handler path limit) d =
      d.add contents.length (account handler path limit (d.number + 1) contents d.state) := by
  induction contents generalizing d with
  | nil => rfl
  | cons content rest ih =>
    rw [List.map_cons, List.foldl_cons, take_judge, ih]
    simp [add, account, Nat.add_assoc, Nat.add_comm 1]

/-- A run over the pieces of some bytes is the account of their lines. A failure of the reader replaces the
result, and the lines before it are accounted for. -/
theorem run_chunks (chunks : List Bytes) {after : Source} {ending : Option IoError}
    (follows : Lines.After after ending) (state : σ) :
    run handler path limit (.ofChunks chunks after) state =
      let a := account handler path limit 1 (Lines.heard chunks.flatten ending) state
      (match ending with
        | none => a.result path
        | some cause => .error (.io s!"failed to read {path.display}" cause), a.state, a.notes) := by
  rw [run, Lines.read_chunks limit chunks follows]
  dsimp only
  rw [foldl_take]
  cases ending with
  | some cause => simp [add, result]
  | none =>
    simp only [add, result, Account.result, Nat.zero_add, List.append_nil, List.reverse_reverse,
      Prod.mk.injEq, and_true]
    split <;> split <;> first | rfl | omega

def record? (limit : Nat) (content : Bytes) : Option Record :=
  if limit < content.length ∨ content.all isBlank then none
  else (Record.parse (trim content)).toOption

/-- The records in the lines of some bytes. -/
def records (limit : Nat) (bytes : Bytes) : List Record :=
  (Lines.cut bytes).filterMap (record? limit)

theorem records_append {front : Bytes} (closed : Lines.Closed front) (rest : Bytes) :
    records limit (front ++ rest) = records limit front ++ records limit rest := by
  rw [records, Lines.cut_append closed, List.filterMap_append]
  rfl

def held? (line : Line) : Option Record :=
  match Reading.ofLine line with
  | .record r => some r
  | _ => none

theorem held?_judge (content : Bytes) : held? (Lines.judge limit content) = record? limit content := by
  unfold held? record?
  by_cases long : limit < content.length
  · rw [Lines.judge_of_lt long, if_pos (.inl long)]
    rfl
  rw [Lines.judge_of_le (Nat.not_lt.1 long)]
  by_cases blank : content.all isBlank = true
  · rw [if_pos (.inr blank)]
    simp [Reading.ofLine, (trim_eq_nil content).2 blank]
  · have present : trim content ≠ [] := fun empty => blank ((trim_eq_nil content).1 empty)
    rw [if_neg (by simp [long, blank])]
    cases parsed : Record.parse (trim content) with
    | error cause => simp [Reading.ofLine, present, parsed, Except.toOption]
    | ok r => simp [Reading.ofLine, present, parsed, Except.toOption]

theorem filterMap_held? (bytes : Bytes) :
    ((Lines.cut bytes).map (Lines.judge limit)).filterMap held? = records limit bytes := by
  have same : held? ∘ Lines.judge limit = record? limit := funext (held?_judge limit)
  rw [List.filterMap_map, same, records]

/-- A handler that also keeps the records handed to it. -/
def recorded (handler : Handler σ) : Handler (σ × List Record) := fun (state, calls) r =>
  let reply := handler state r
  ⟨reply.refusal, (reply.state, calls ++ [r]), reply.notes⟩

theorem take_recorded (d : Dispatch (σ × List Record)) (line : Line) :
    (d.take (recorded handler) path limit line).state.2 = d.state.2 ++ (held? line).toList := by
  unfold take held?
  cases Reading.ofLine line with
  | oversize | blank | fault cause => simp [fail, note]
  | record r =>
    obtain ⟨state, calls⟩ := d.state
    dsimp only [recorded]
    split <;> simp [fail, note]

theorem settle_recorded (number : Nat) (content : Bytes) (state : σ) (calls : List Record) :
    (settle (recorded handler) path limit number content (state, calls)).state =
      ((settle handler path limit number content state).state,
        calls ++ (record? limit content).toList) := by
  unfold settle record?
  by_cases long : limit < content.length
  · simp [long, Account.failure]
  by_cases blank : content.all isBlank = true
  · simp [long, blank]
  rw [if_neg long, if_neg long, if_neg blank, if_neg blank, if_neg (by simp [long, blank])]
  cases Record.parse (trim content) with
  | error cause => simp [Account.failure, Except.toOption]
  | ok r => cases refused : (handler state r).refusal <;>
      simp [recorded, refused, Account.failure, Except.toOption]

theorem account_recorded (number : Nat) (contents : List Bytes) (state : σ)
    (calls : List Record) :
    (account (recorded handler) path limit number contents (state, calls)).state =
      ((account handler path limit number contents state).state,
        calls ++ contents.filterMap (record? limit)) := by
  induction contents generalizing number state calls with
  | nil => simp [account]
  | cons content rest ih =>
    simp only [account]
    rw [settle_recorded, ih, List.filterMap_cons]
    cases record? limit content <;> simp

/-- A run to the end of the bytes or to a failure of the reader. A room for lines that saturates at 64 bits
finds the same lines. -/
theorem run_account (chunks : List Bytes) (state : σ) :
    (let a := account handler path limit 1 (Lines.cut chunks.flatten) state
     run handler path limit (.ofChunks chunks []) state = (a.result path, a.state, a.notes) ∧
       a.processed + a.blank + a.failed = (Lines.cut chunks.flatten).length ∧
       (run (recorded handler) path limit (.ofChunks chunks []) (state, [])).2.1 =
         (a.state, (Lines.cut chunks.flatten).filterMap (record? limit))) ∧
    (∀ cause later,
      let a := account handler path limit 1 (Lines.complete chunks.flatten) state
      let source := Source.ofChunks chunks (.failed cause :: later)
      run handler path limit source state =
          (.error (.io s!"failed to read {path.display}" cause), a.state, a.notes) ∧
        (run (recorded handler) path limit source (state, [])).2.1 =
          (a.state, (Lines.complete chunks.flatten).filterMap (record? limit))) ∧
    ((∀ content ∈ Lines.cut chunks.flatten, content.length < UInt64.size - 1) →
      ∀ after ending, Lines.After after ending →
        Lines.readOnto (min (limit + 1) (UInt64.size - 1)) limit [] (.ofChunks chunks after) =
          Lines.read limit (.ofChunks chunks after)) := by
  refine ⟨⟨?_, account_total handler path limit 1 _ state, ?_⟩, ?_, ?_⟩
  · rw [run_chunks handler path limit chunks .nothing]
    rfl
  · rw [run_chunks (recorded handler) path limit chunks .nothing]
    exact account_recorded handler path limit 1 _ state []
  · intro cause later
    refine ⟨?_, ?_⟩
    · rw [run_chunks handler path limit chunks (.failure cause later)]
      rfl
    · rw [run_chunks (recorded handler) path limit chunks (.failure cause later)]
      exact account_recorded handler path limit 1 _ state []
  · intro short after ending follows
    exact Lines.readOnto_saturated (by decide) short follows

theorem run_account_pieces :
    let chunks : List Bytes := [[0x20], [0x0A, 0x41], [0x41, 0x41]]
    (∀ content ∈ Lines.cut chunks.flatten, content.length < UInt64.size - 1) ∧
      run (σ := Unit) Violations.handler ⟨[0x61]⟩ 2 (.ofChunks chunks []) () =
        (.error (.records ⟨[0x61]⟩ 1 0), (),
          [.count .linesFailed, .event (oversizeEvent ⟨[0x61]⟩ 2 2)]) ∧
      Lines.readOnto (min (2 + 1) (UInt64.size - 1)) 2 [] (.ofChunks chunks []) =
        Lines.read 2 (.ofChunks chunks []) := by
  intro chunks
  have short : ∀ content ∈ Lines.cut chunks.flatten, content.length < UInt64.size - 1 := by decide
  obtain ⟨⟨ran, -, -⟩, -, saturated⟩ := run_account Violations.handler ⟨[0x61]⟩ 2 chunks ()
  refine ⟨short, ran.trans ?_, saturated short [] none .nothing⟩
  rfl

end AuditTrail.Dispatch
