import AuditTrail.Proofs.Dispatch
import AuditTrail.Tick
import Mathlib.Data.List.Count

/-! What raises the counters: a rotation when it is over, a successful removal, and each line of a
backup, by its content alone. So the order of the lines in a file does not matter. -/
namespace AuditTrail

namespace Journal

def raised (j : Journal) (c : Counter) : Nat := j.counters.count c

variable {j k : Journal} {c : Counter}

@[simp] theorem counters_append : (j ++ k).counters = j.counters ++ k.counters :=
  List.filterMap_append

@[simp] theorem counters_event (e : Event) : counters (.event e :: j) = j.counters := rfl

@[simp] theorem counters_nil : counters [] = [] := rfl

theorem counters_counts {α : Type} (f : α → Counter) (items : List α) :
    counters (items.map fun item => .count (f item)) = items.map f := by
  rw [counters, List.filterMap_map]
  exact congrFun List.filterMap_eq_map items

@[simp] theorem raised_append : (j ++ k).raised c = j.raised c + k.raised c := by
  rw [raised, counters_append, List.count_append]
  rfl

@[simp] theorem raised_reverse : Journal.raised j.reverse c = j.raised c := by
  rw [raised, counters, List.filterMap_reverse, List.count_reverse]
  rfl

end Journal

open Journal (raised)

theorem Rotation.Stage.counters_notes (stage : Rotation.Stage) (live : Path) (answer : Files.Answer) :
    (stage.notes live answer).counters = [] := by
  unfold notes
  split
  · split <;> rfl
  · rfl
  · rfl

theorem Rotation.counters_report (live : Path) (outcome : Except Failure Rotation.Rotated) :
    (Rotation.report live outcome).counters = [.rotations outcome.isOk] := by
  cases outcome <;> rfl

theorem Rotation.raised_step (now : Moment) (fault : Option Files.Fault) (w : Rotation) (c : Counter) :
    raised (w.step now fault).notes c = raised w.notes c := by
  unfold step
  split
  · rfl
  · rw [Journal.raised_append, Journal.raised_reverse, Journal.raised, Stage.counters_notes,
      List.count_nil, Nat.zero_add]

theorem Sweep.counters_notes (b : Backup.Listed) (answer : Files.Answer) :
    (Sweep.notes b answer).counters = if answer.isOk then [.backupsExpired] else [] := by
  cases answer with
  | ok n => rfl
  | error cause =>
    simp only [notes]
    split <;> rfl

theorem Processing.counters_sized {σ : Type} (live : Path) (answer : Files.Answer) :
    (Processing.sized (σ := σ) live answer).2.counters = [] := by
  unfold sized
  split <;> rfl

theorem Processing.counters_opened {σ : Type} (backup : Path) (limit : Nat) (state : σ)
    (source : Except IoError Source) : (Processing.opened backup limit state source).2.counters = [] := by
  cases source <;> rfl

/-- The counters that a record raises: one for the record, and one for itself and each message if it has
messages. -/
def Record.counters (r : Record) : List Counter := (Violations.notes r).counters ++ [.recordsProcessed]

theorem Record.counters_eq (r : Record) : r.counters =
    (if r.messages = [] then []
      else .transactions r.labels r.statusLabel ::
        r.messages.map fun m => .ruleViolations r.labels m.data.ruleId) ++ [.recordsProcessed] := by
  rw [counters, Violations.notes, hasViolations, Journal.counters_event]
  congr 1
  cases r.messages with
  | nil => rfl
  | cons m rest => exact congrArg (_ :: ·) (Journal.counters_counts _ (m :: rest))

/-- The labels and the rule of each message. -/
def Record.broken (records : List Record) : List (Labels × String) :=
  records.flatMap fun r => r.messages.map fun m => (r.labels, m.data.ruleId)

/-- The labels and the status of each record with messages. -/
def Record.breaking (records : List Record) : List (Labels × String) :=
  (records.filter fun r => r.messages ≠ []).map fun r => (r.labels, r.statusLabel)

theorem count_series {make : Labels → String → Counter} (apart : Function.Injective2 make)
    (pairs : List (Labels × String)) (labels : Labels) (name : String) :
    (pairs.map fun p => make p.1 p.2).count (make labels name) = pairs.count (labels, name) :=
  List.count_map_of_injective pairs _ apart.uncurry (labels, name)

theorem count_others {α : Type} {make : α → Counter} {c : Counter} (apart : ∀ a, make a ≠ c)
    (items : List α) : (items.map make).count c = 0 := by
  simp [List.count_eq_zero, apart]

theorem Record.count_counters (records : List Record) (c : Counter) :
    (records.flatMap Record.counters).count c = match c with
      | .transactions labels status => (breaking records).count (labels, status)
      | .ruleViolations labels rule => (broken records).count (labels, rule)
      | .recordsProcessed => records.length
      | _ => 0 := by
  have whole : (records.flatMap Record.counters).count c =
      ((breaking records).map fun p => Counter.transactions p.1 p.2).count c +
      ((broken records).map fun p => Counter.ruleViolations p.1 p.2).count c +
      (records.map fun _ => Counter.recordsProcessed).count c := by
    induction records with
    | nil => rfl
    | cons r rest ih =>
      rw [List.flatMap_cons, List.count_append, ih, counters_eq]
      by_cases silent : r.messages = []
      · simp [silent, breaking, broken, List.count_cons]
        omega
      · simp [silent, breaking, broken, List.count_cons, List.map_flatMap, Function.comp_def]
        omega
  rw [whole]
  cases c with
  | transactions labels status =>
    rw [count_series fun _ _ _ _ => Counter.transactions.inj, count_others (by simp), count_others (by simp)]
    rfl
  | ruleViolations labels rule =>
    rw [count_series fun _ _ _ _ => Counter.ruleViolations.inj, count_others (by simp), count_others (by simp)]
    exact Nat.zero_add _
  | recordsProcessed =>
    rw [count_others (by simp), count_others (by simp), List.map_const', List.count_replicate_self]
    exact Nat.zero_add _
  | _ => rw [count_others (by simp), count_others (by simp), count_others (by simp)]

namespace Dispatch

def counters (line : Line) : List Counter :=
  match Reading.ofLine line with
  | .oversize | .fault _ => [.linesFailed]
  | .blank => []
  | .record r => r.counters

/-- The handler takes every record and notes its violations. -/
def Counting {σ : Type} (handler : Handler σ) : Prop :=
  ∀ state r, (handler state r).refusal = none ∧ (handler state r).notes = Violations.notes r

variable {σ : Type} {handler : Handler σ} {path : Path} {limit : Nat} {c : Counter}

theorem counting_violations : Counting (Violations.handler (σ := σ)) := fun _ _ => ⟨rfl, rfl⟩

theorem counting_recorded (counting : Counting handler) : Counting (recorded handler) :=
  fun state r => counting state.1 r

theorem raised_take (path : Path) (limit : Nat) (counting : Counting handler) (d : Dispatch σ) (line : Line) :
    raised (d.take handler path limit line).notes c =
      raised d.notes c + (counters line).count c := by
  unfold take counters
  cases Reading.ofLine line with
  | oversize | fault cause =>
    simp only [fail, note, Journal.raised_append, Journal.raised_reverse]
    exact Nat.add_comm _ _
  | blank => rfl
  | record r =>
    obtain ⟨taken, told⟩ := counting d.state r
    simp only [taken, told, note, Journal.raised_append, Journal.raised_reverse, Record.counters,
      List.count_append]
    change _ = raised d.notes c + (raised (Violations.notes r) c + raised [.count .recordsProcessed] c)
    omega

def fails (limit : Nat) (content : Bytes) : Bool :=
  limit < content.length || (!content.all isBlank && (Record.parse (trim content)).toOption.isNone)

theorem counters_judge (content : Bytes) : counters (Lines.judge limit content) =
    (record? limit content).toList.flatMap Record.counters ++
      if fails limit content then [.linesFailed] else [] := by
  unfold record? fails counters
  by_cases long : limit < content.length
  · rw [Lines.judge_of_lt long]
    simp [Reading.ofLine, long]
  rw [Lines.judge_of_le (Nat.not_lt.1 long)]
  by_cases blank : content.all isBlank = true
  · simp [Reading.ofLine, (trim_eq_nil content).2 blank, long, blank]
  · have present : trim content ≠ [] := fun empty => blank ((trim_eq_nil content).1 empty)
    cases parsed : Record.parse (trim content) with
    | error cause => simp [Reading.ofLine, present, parsed, long, blank, Except.toOption]
    | ok r => simp [Reading.ofLine, present, parsed, long, blank, Except.toOption]

/-- The counters raised by the lines of a file, in terms of its records and failing lines. -/
theorem count_lines (contents : List Bytes) (c : Counter) :
    ((contents.map (Lines.judge limit)).flatMap counters).count c =
      ((contents.filterMap (record? limit)).flatMap Record.counters).count c +
        if c = .linesFailed then contents.countP (fails limit) else 0 := by
  induction contents with
  | nil => simp
  | cons content rest ih =>
    have records : (content :: rest).filterMap (record? limit) =
        (record? limit content).toList ++ rest.filterMap (record? limit) := by
      cases found : record? limit content <;> simp [found]
    rw [List.map_cons, List.flatMap_cons, List.count_append, ih, counters_judge, List.count_append,
      records, List.flatMap_append, List.count_append, List.countP_cons]
    by_cases failed : fails limit content = true
    · by_cases counted : c = .linesFailed
      · simp [failed, counted]
        omega
      · simp [failed, counted, Ne.symm counted]
    · simp [failed]
      omega

theorem raised_foldl (counting : Counting handler) (lines : List Line) (d : Dispatch σ) :
    raised (lines.foldl (take handler path limit) d).notes c =
      raised d.notes c + (lines.flatMap counters).count c := by
  induction lines generalizing d with
  | nil => rfl
  | cons line lines ih =>
    rw [List.foldl_cons, ih, raised_take _ _ counting, List.flatMap_cons, List.count_append, Nat.add_assoc]

theorem raised_run (counting : Counting handler) (source : Source) (state : σ) :
    raised (run handler path limit source state).2.2 c =
      ((Lines.read limit source).lines.flatMap counters).count c := by
  simp only [run, Journal.raised_reverse, raised_foldl counting]
  exact Nat.zero_add _

/-- The order of the lines of a file does not matter to the counters. -/
theorem raised_perm (counting : Counting handler) {chunks chunks' : List Bytes}
    (same : (Lines.cut chunks.flatten).Perm (Lines.cut chunks'.flatten)) (path path' : Path)
    (state state' : σ) :
    raised (run handler path limit (.ofChunks chunks []) state).2.2 c =
      raised (run handler path' limit (.ofChunks chunks' []) state').2.2 c := by
  rw [raised_run counting, raised_run counting, Lines.read_chunks limit chunks .nothing,
    Lines.read_chunks limit chunks' .nothing]
  exact ((same.map _).flatMap_right _).count_eq c

end Dispatch
end AuditTrail
