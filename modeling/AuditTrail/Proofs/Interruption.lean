import AuditTrail.Proofs.Dispatch
import Mathlib.Data.List.Induction

/-! Interrupted deliveries. They are retried while a line is fetched and are a failure while the
rest of a long line is skipped. `Source.heed` removes the interruptions that do not count, so that
the theorems about uninterrupted readers apply. -/
namespace AuditTrail

namespace Lines

open Source (newline)

theorem unfinished_resume (front back : Bytes) :
    unfinished (unfinished front ++ back) = unfinished (front ++ back) := by
  by_cases begun : newline ∈ front
  · obtain ⟨line, rest, split, -⟩ := List.eq_append_cons_of_mem begun
    rw [split, unfinished_append, List.append_assoc, List.cons_append, unfinished_append]
    exact unfinished_resume rest back
  · rw [unfinished_of_not_mem begun]
termination_by front.length
decreasing_by simp [split]; omega

end Lines

namespace Source

open Lines (unfinished)

variable {source before rest : Source} {room limit : Nat} {got held line : Bytes}

/-- The deliveries without the interruptions. -/
def calm (source : Source) : Source := source.filter (· ≠ .interrupted)

/-- The bytes that are delivered, in their pieces. -/
def pieces (source : Source) : List Bytes :=
  source.filterMap fun
    | .bytes chunk => some chunk
    | _ => none

/-- More of the line under way than the limit was delivered before an interruption that comes now. -/
def Late (limit : Nat) (before : Source) : Prop := limit < (unfinished before.pieces.flatten).length

/-- No interruption comes after more of a line than the limit. -/
def Timely (limit : Nat) (source : Source) : Prop :=
  ∀ before rest : Source, source = before ++ .interrupted :: rest → ¬ before.Late limit

instance (limit : Nat) (before : Source) : Decidable (Late limit before) :=
  inferInstanceAs (Decidable (_ < _))

instance (limit : Nat) (source : Source) : Decidable (Timely limit source) :=
  decidable_of_iff (∀ i < source.length, source[i]? = some .interrupted →
      ¬ Late limit (source.take i)) <| by
    constructor
    · rintro timely before rest rfl
      simpa using timely before.length (by simp) (by simp)
    · intro timely i below interrupted
      have onward : source.drop i = .interrupted :: source.drop (i + 1) := by
        rw [List.drop_eq_getElem?_toList_append, interrupted]
        rfl
      exact timely _ _ (onward ▸ (List.take_append_drop i source).symm)

/-- The deliveries with each interruption dropped or turned into a failure. The first bytes are those of the
line under way. -/
def heed (limit : Nat) (held : Bytes) : Source → Source
  | [] => []
  | .interrupted :: rest =>
    if limit < held.length then .failed (.ofKind .interrupted) :: heed limit held rest
    else heed limit held rest
  | .failed cause :: rest => .failed cause :: heed limit held rest
  | .bytes chunk :: rest => .bytes chunk :: heed limit (unfinished (held ++ chunk)) rest

/-! ### A line -/

theorem heed_unread (whole : unfinished held = held) (left : Bytes) (rest : Source) :
    heed limit held (unread left rest) =
      unread left (heed limit (unfinished (held ++ left)) rest) := by
  by_cases empty : left = [] <;> simp [unread, empty, heed, whole]

theorem calm_unread (left : Bytes) (rest : Source) :
    calm (unread left rest) = unread left (calm rest) := by
  by_cases empty : left = [] <;> simp [unread, empty, calm]

theorem fetch_bytes (room : Nat) (got chunk : Bytes) : ∃ line left, chunk = line ++ left ∧
    newline ∉ line ∧ line.length ≤ room ∧
      ((line.length < room ∧ left = [] ∧ ∀ rest, fetch room got (.bytes chunk :: rest) =
          fetch (room - line.length) (got ++ line) rest) ∨
        (∃ more, left = newline :: more ∧ ∀ rest, fetch room got (.bytes chunk :: rest) =
          .ok (got ++ line ++ [newline], unread more rest)) ∨
        (line.length = room ∧ ∀ rest, fetch room got (.bytes chunk :: rest) =
          .ok (got ++ line, unread left rest))) := by
  obtain ⟨line, left, rfl, free, ends⟩ : ∃ line left, chunk = line ++ left ∧ newline ∉ line ∧
      (left = [] ∨ ∃ more, left = newline :: more) := by
    by_cases ends : newline ∈ chunk
    · obtain ⟨line, more, rfl, free⟩ := List.eq_append_cons_of_mem ends
      exact ⟨line, _, rfl, free, .inr ⟨more, rfl⟩⟩
    · exact ⟨chunk, [], by simp, ends, .inl rfl⟩
  by_cases short : line.length < room
  · refine ⟨line, left, rfl, free, Nat.le_of_lt short, ?_⟩
    rcases ends with rfl | ⟨more, rfl⟩
    · exact .inl ⟨short, rfl, fun rest => by rw [List.append_nil, fetch_free free short]⟩
    · exact .inr (.inl ⟨more, rfl, fun rest => fetch_ending free short got more rest⟩)
  · have whole : (line.take room).length = room := by simp; omega
    refine ⟨line.take room, line.drop room ++ left, ?_, fun member => free (List.mem_of_mem_take member),
      Nat.le_of_eq whole, .inr (.inr ⟨whole, fun rest => ?_⟩)⟩
    · rw [← List.append_assoc, List.take_append_drop]
    · have taken : ((line ++ left).takeWhile (· ≠ newline)).take room = line.take room := by
        rw [List.takeWhile_append_of_pos (ne_newline free), List.take_append_of_le_length (by omega)]
      have remainder : (line ++ left).drop room = line.drop room ++ left :=
        List.drop_append_of_le_length (by omega)
      rw [fetch, taken, whole, if_neg (Nat.lt_irrefl room), remainder]

theorem fetch_cases (free : newline ∉ got) (fetched : fetch room got source = .ok (line, rest)) :
    unfinished line = [] ∧ line.getLast? = some newline ∨
      newline ∉ line ∧ line.length ≤ got.length + room ∧
        (line.length = got.length + room ∨ rest = []) := by
  induction source generalizing room got with
  | nil =>
    obtain ⟨rfl, rfl⟩ := Prod.mk.inj (Except.ok.inj fetched)
    exact .inr ⟨free, by omega, .inr rfl⟩
  | cons delivery source ih =>
    cases delivery with
    | interrupted => exact ih free fetched
    | failed cause => cases fetched
    | bytes chunk =>
      obtain ⟨part, left, -, free', within, goes⟩ := fetch_bytes room got chunk
      have both : newline ∉ got ++ part := by simp [free, free']
      rcases goes with ⟨short, -, goes⟩ | ⟨more, -, goes⟩ | ⟨full, goes⟩
      · rw [goes] at fetched
        have after := ih both fetched
        simp only [List.length_append] at after
        rwa [Nat.add_assoc, Nat.add_sub_cancel' within] at after
      · rw [goes] at fetched
        obtain ⟨rfl, -⟩ := Prod.mk.inj (Except.ok.inj fetched)
        exact .inl ⟨Lines.unfinished_append _ [], by simp⟩
      · rw [goes] at fetched
        obtain ⟨rfl, -⟩ := Prod.mk.inj (Except.ok.inj fetched)
        exact .inr ⟨both, by simp [within], .inl (by simp [full])⟩

theorem fetch_calm (room : Nat) (got : Bytes) (source : Source) :
    fetch room got source.calm = (fetch room got source).map fun reply => (reply.1, calm reply.2) := by
  induction source generalizing room got with
  | nil => rfl
  | cons delivery source ih =>
    cases delivery with
    | interrupted => exact ih room got
    | failed cause => rfl
    | bytes chunk =>
      have tail : calm (.bytes chunk :: source) = .bytes chunk :: calm source := rfl
      obtain ⟨part, left, -, -, -, goes⟩ := fetch_bytes room got chunk
      rcases goes with ⟨-, -, goes⟩ | ⟨more, -, goes⟩ | ⟨-, goes⟩
      · rw [tail, goes, goes, ih]
      · simp only [tail, goes, Except.map, calm_unread]
      · simp only [tail, goes, Except.map, calm_unread]

theorem fetch_heed (free : newline ∉ got) (positive : 0 < room)
    (sum : got.length + room = limit + 1) (source : Source) :
    fetch room got (heed limit got source) =
      (fetch room got source).map fun reply => (reply.1, heed limit (unfinished reply.1) reply.2) := by
  induction source generalizing room got with
  | nil => rfl
  | cons delivery source ih =>
    cases delivery with
    | interrupted =>
      have timely : ¬ limit < got.length := by omega
      rw [heed, if_neg timely]
      exact ih free positive sum
    | failed cause => rfl
    | bytes chunk =>
      obtain ⟨part, left, split, free', within, goes⟩ := fetch_bytes room got chunk
      have both : newline ∉ got ++ part := by simp [free, free']
      have whole := Lines.unfinished_of_not_mem both
      rw [heed, split, ← List.append_assoc, ← split]
      rcases goes with ⟨short, rfl, goes⟩ | ⟨more, rfl, goes⟩ | ⟨full, goes⟩
      · rw [List.append_nil, whole, goes, goes]
        apply ih both
        · omega
        · simp only [List.length_append]
          omega
      · have ended : unfinished (got ++ part ++ [newline]) = [] := Lines.unfinished_append _ []
        have fresh : unfinished [] = [] := rfl
        simp only [goes, Except.map, Lines.unfinished_append, ended, heed_unread fresh, List.nil_append]
      · simp only [goes, Except.map, whole, heed_unread whole]

theorem skipLine_heed (free : newline ∉ held) (long : limit < held.length) (source : Source) :
    skipLine (heed limit held source) = (skipLine source).map (heed limit []) := by
  induction source generalizing held with
  | nil => rfl
  | cons delivery source ih =>
    cases delivery with
    | interrupted =>
      rw [heed, if_pos long]
      rfl
    | failed cause => rfl
    | bytes chunk =>
      rw [heed]
      by_cases ends : newline ∈ chunk
      · obtain ⟨line, more, rfl, free'⟩ := List.eq_append_cons_of_mem ends
        have goes : ∀ rest, skipLine (.bytes (line ++ newline :: more) :: rest) = .ok (unread more rest) :=
          fun rest => by rw [skipLine, dropWhile_line free']
        rw [goes, goes, Except.map, heed_unread rfl, ← List.append_assoc, Lines.unfinished_append,
          List.nil_append]
      · have both : newline ∉ held ++ chunk := by simp [free, ends]
        have goes : ∀ rest, skipLine (.bytes chunk :: rest) = skipLine rest :=
          fun rest => by rw [skipLine, dropWhile_of_free ends]
        rw [goes, goes, Lines.unfinished_of_not_mem both]
        exact ih both (by simp only [List.length_append]; omega)

end Source

namespace Lines

open Source (newline heed calm)

variable {room limit : Nat} {met : List Line}

/-- Interruptions fail the reading while the rest of a too long line is skipped, and are ignored otherwise. -/
theorem readOnto_heed (limit : Nat) (met : List Line) (source : Source) :
    readOnto (limit + 1) limit met (heed limit [] source) = readOnto (limit + 1) limit met source := by
  -- By induction on the remaining input, of which every line consumes a part.
  induction measured : source.weight using Nat.strongRecOn generalizing source met with
  | ind size shorter =>
    have heeded := Source.fetch_heed List.not_mem_nil (Nat.succ_pos limit)
      (show ([] : Bytes).length + (limit + 1) = limit + 1 by simp) source
    cases fetched : source.fetch (limit + 1) [] with
    | error cause =>
      rw [fetched] at heeded
      rw [readOnto_failed fetched, readOnto_failed heeded]
    | ok reply =>
      obtain ⟨line, rest⟩ := reply
      simp only [fetched, Except.map] at heeded
      have lighter := Source.weight_fetch fetched
      by_cases empty : line = []
      · subst empty
        rw [readOnto_end fetched, readOnto_end heeded]
      have filled := List.length_pos_iff.2 empty
      rw [List.length_nil] at lighter
      rcases Source.fetch_cases List.not_mem_nil fetched with ⟨new, ended⟩ | ⟨free, within, last⟩
      · rw [readOnto_text fetched empty (.inl ended), readOnto_text heeded empty (.inl ended), new]
        exact shorter _ (by omega) _ _ rfl
      rw [List.length_nil, Nat.zero_add] at within last
      rw [unfinished_of_not_mem free] at heeded
      by_cases long : limit < line.length
      · have unended := getLast?_ne_newline free
        rw [readOnto_long fetched empty unended long, readOnto_long heeded empty unended long,
          Source.skipLine_heed free long]
        cases skipped : rest.skipLine with
        | error cause => rfl
        | ok rest' =>
          have less := Source.weight_skipLine skipped
          exact shorter _ (by omega) _ _ rfl
      · obtain rfl : rest = [] := last.resolve_left (by omega)
        have fits := Nat.not_lt.1 long
        rw [readOnto_text fetched empty (.inr fits), readOnto_text heeded empty (.inr fits)]
        rfl

theorem readOnto_calm (narrow : room ≤ limit) (met : List Line) (source : Source) :
    readOnto room limit met source.calm = readOnto room limit met source := by
  induction measured : source.weight using Nat.strongRecOn generalizing source met with
  | ind size shorter =>
    have calmed := Source.fetch_calm room [] source
    cases fetched : source.fetch room [] with
    | error cause =>
      rw [fetched] at calmed
      rw [readOnto_failed fetched, readOnto_failed calmed]
    | ok reply =>
      obtain ⟨line, rest⟩ := reply
      simp only [fetched, Except.map] at calmed
      have lighter := Source.weight_fetch fetched
      by_cases empty : line = []
      · subst empty
        rw [readOnto_end fetched, readOnto_end calmed]
      have filled := List.length_pos_iff.2 empty
      rw [List.length_nil] at lighter
      have within : line.getLast? = some newline ∨ line.length ≤ limit := by
        rcases Source.fetch_cases List.not_mem_nil fetched with ⟨-, ended⟩ | ⟨-, short, -⟩
        · exact .inl ended
        · rw [List.length_nil] at short
          exact .inr (by omega)
      rw [readOnto_text fetched empty within, readOnto_text calmed empty within]
      exact shorter _ (by omega) _ _ rfl

end Lines

namespace Source

open Lines (unfinished)

variable {source before : Source} {limit : Nat} {held : Bytes}

/-! ### Which interruptions count -/

theorem heed_append (whole : unfinished held = held) (before rest : Source) :
    heed limit held (before ++ rest) =
      heed limit held before ++ heed limit (unfinished (held ++ before.pieces.flatten)) rest := by
  induction before generalizing held with
  | nil => simp [heed, pieces, whole]
  | cons delivery before ih =>
    cases delivery with
    | interrupted => by_cases late : limit < held.length <;> simp [heed, late, ih whole, pieces]
    | failed cause => simp [heed, ih whole, pieces]
    | bytes chunk =>
      have again := Lines.unfinished_resume (held ++ chunk) []
      have resumed := Lines.unfinished_resume (held ++ chunk) (pieces before).flatten
      have more : (pieces (.bytes chunk :: before)).flatten = chunk ++ (pieces before).flatten := rfl
      rw [List.append_nil, List.append_nil] at again
      rw [List.append_assoc, ← more] at resumed
      simp only [List.cons_append, heed, ih again, resumed]

theorem Timely.front (timely : Timely limit (before ++ source)) : Timely limit before :=
  fun front rest split => timely front (rest ++ source) (by simp [split])

theorem timely_or_late (limit : Nat) (source : Source) : Timely limit source ∨
    ∃ before rest : Source, source = before ++ .interrupted :: rest ∧ Timely limit before ∧
      Late limit before := by
  induction source using List.reverseRecOn with
  | nil => exact .inl fun before rest split => by simp at split
  | append_singleton front delivery ih =>
    rcases ih with timely | ⟨before, rest, rfl, timely, late⟩
    · by_cases interrupted : delivery = .interrupted ∧ Late limit front
      · obtain ⟨rfl, late⟩ := interrupted
        exact .inr ⟨front, [], rfl, timely, late⟩
      · refine .inl fun before rest split late => ?_
        rcases List.eq_nil_or_concat rest with rfl | ⟨rest, last, rfl⟩
        · obtain ⟨rfl, same⟩ := List.append_inj' split rfl
          exact interrupted ⟨(List.cons.inj same).1, late⟩
        · rw [List.concat_eq_append, ← List.cons_append, ← List.append_assoc] at split
          exact timely before rest (List.append_inj' split rfl).1 late
    · exact .inr ⟨before, rest ++ [delivery], by simp, timely, late⟩

theorem heed_of_timely (timely : Timely limit source) : heed limit [] source = calm source := by
  induction source using List.reverseRecOn with
  | nil => rfl
  | append_singleton front delivery ih =>
    rw [heed_append rfl, ih timely.front, List.nil_append, calm, calm, List.filter_append]
    congr 1
    cases delivery with
    | interrupted => exact if_neg (timely front [] rfl)
    | failed cause | bytes chunk => rfl

theorem calm_eq_ofChunks (fair : ∀ cause, .failed cause ∉ source) :
    source.calm = ofChunks source.pieces [] := by
  induction source with
  | nil => rfl
  | cons delivery source ih =>
    have rest := ih fun cause member => fair cause (List.mem_cons_of_mem _ member)
    cases delivery with
    | interrupted => exact rest
    | failed cause => exact absurd List.mem_cons_self (fair cause)
    | bytes chunk => exact congrArg (Delivery.bytes chunk :: ·) rest

end Source

namespace Dispatch

open Source (calm pieces Timely Late heed)

variable {σ : Type} (handler : Handler σ) (path : Path) {limit : Nat} {source before : Source}

theorem run_heed (state : σ) :
    run handler path limit source state = run handler path limit (heed limit [] source) state := by
  simp only [run, Lines.read, Lines.readOnto_heed]

theorem run_late (fair : ∀ cause, .failed cause ∉ before) (timely : before.Timely limit)
    (late : before.Late limit) (rest : Source) (state : σ) :
    let a := account handler path limit 1 (Lines.complete before.pieces.flatten) state
    run handler path limit (before ++ .interrupted :: rest) state =
      (.error (.io s!"failed to read {path.display}" (.ofKind .interrupted)), a.state, a.notes) := by
  have beyond : limit < (Lines.unfinished before.pieces.flatten).length := late
  rw [run_heed, Source.heed_append rfl, Source.heed_of_timely timely, Source.calm_eq_ofChunks fair,
    List.nil_append, heed, if_pos beyond, Source.ofChunks, List.append_nil]
  exact run_chunks handler path limit before.pieces (.failure _ _) state

/-- A reader with interruptions is read like one without, exactly if none comes after more of a line than the
limit. The first such interruption ends the run as a failure of the reader. -/
theorem run_interrupted (fair : ∀ cause, .failed cause ∉ source) (state : σ) :
    (run handler path limit source state = run handler path limit source.calm state ↔
      source.Timely limit) ∧
    (∀ before rest : Source, source = before ++ .interrupted :: rest → before.Timely limit →
      before.Late limit →
        let a := account handler path limit 1 (Lines.complete before.pieces.flatten) state
        run handler path limit source state =
          (.error (.io s!"failed to read {path.display}" (.ofKind .interrupted)), a.state, a.notes)) ∧
    ∀ room ≤ limit, Lines.readOnto room limit [] source = Lines.readOnto room limit [] source.calm := by
  have front : ∀ {before rest : Source}, source = before ++ .interrupted :: rest →
      ∀ cause, .failed cause ∉ before :=
    fun split cause member => fair cause (split ▸ List.mem_append_left _ member)
  refine ⟨⟨fun same => ?_, fun timely => ?_⟩, ?_,
    fun room narrow => (Lines.readOnto_calm narrow [] source).symm⟩
  · -- The run that is not interrupted never ends as a failure of the reader.
    rcases Source.timely_or_late limit source with timely | ⟨before, rest, split, timely, late⟩
    · exact timely
    have ended := run_late handler path (front split) timely late rest state
    rw [← split, same, Source.calm_eq_ofChunks fair, run_chunks handler path limit _ .nothing] at ended
    have results := congrArg (·.1) ended
    simp only [Account.result] at results
    split at results <;> cases results
  · rw [run_heed, Source.heed_of_timely timely]
  · intro before rest split timely late
    have ended := run_late handler path (front split) timely late rest state
    rwa [← split] at ended

theorem run_interrupted_line :
    let source : Source := [.interrupted, .bytes [0x41, 0x41], .interrupted, .interrupted,
      .bytes [0x41, 0x41, 0x0A, 0x20], .interrupted]
    (∀ cause, .failed cause ∉ source) ∧ source.Timely 2 ∧
      run (σ := Unit) Violations.handler ⟨[0x61]⟩ 2 source () =
        (.error (.records ⟨[0x61]⟩ 1 0), (),
          [.count .linesFailed, .event (oversizeEvent ⟨[0x61]⟩ 1 2)]) := by
  intro source
  have fair : ∀ cause, .failed cause ∉ source := by simp [source]
  have timely : source.Timely 2 := by decide +kernel
  refine ⟨fair, timely, ?_⟩
  have calm : source.calm = .ofChunks [[0x41, 0x41], [0x41, 0x41, 0x0A, 0x20]] [] := rfl
  rw [(run_interrupted Violations.handler ⟨[0x61]⟩ fair ()).1.2 timely, calm,
    run_chunks _ _ _ _ .nothing]
  rfl

theorem rest_interrupted :
    let source : Source := [.bytes [0x41, 0x41], .interrupted, .bytes [0x0A]]
    (run (σ := Unit) Violations.handler ⟨[0x61]⟩ 1 source ()).1 =
        .error (.io "failed to read a" (.ofKind .interrupted)) ∧
      (run (σ := Unit) Violations.handler ⟨[0x61]⟩ 1 source.calm ()).1 =
        .error (.records ⟨[0x61]⟩ 1 0) := by
  decide +kernel

end Dispatch
end AuditTrail
