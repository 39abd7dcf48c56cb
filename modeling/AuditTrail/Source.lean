import AuditTrail.IoError
import AuditTrail.Utf8

/-! Byte sources that deliver in pieces, and lines fetched from them. A line is fetched up to a
bound, and the rest of a longer one is skipped. An interrupted delivery is retried while a line is
fetched and is a failure while the rest of a line is skipped. -/
namespace AuditTrail

inductive Delivery where
  | bytes (chunk : Bytes)
  | interrupted
  | failed (cause : IoError)
  deriving DecidableEq, Repr

/-- The deliveries of a reader, in order. -/
abbrev Source := List Delivery

namespace Source

def newline : UInt8 := 0x0A

/-- Puts back the unused part of a delivery. -/
def unread (left : Bytes) (rest : Source) : Source :=
  if left.isEmpty then rest else .bytes left :: rest

/-- Reads on to the end of a line and appends at most `room` bytes to `got`. A newline that was reached is
included. -/
def fetch (room : Nat) (got : Bytes) : Source → Except IoError (Bytes × Source)
  | [] => .ok (got, [])
  | .interrupted :: rest => fetch room got rest
  | .failed cause :: _ => .error cause
  | .bytes chunk :: rest =>
    let line := (chunk.takeWhile (· ≠ newline)).take room
    if line.length < room then
      match chunk.drop line.length with
      | [] => fetch (room - line.length) (got ++ line) rest
      | _ :: left => .ok (got ++ line ++ [newline], unread left rest)
    else .ok (got ++ line, unread (chunk.drop line.length) rest)

def skipLine : Source → Except IoError Source
  | [] => .ok []
  | .interrupted :: _ => .error (.ofKind .interrupted)
  | .failed cause :: _ => .error cause
  | .bytes chunk :: rest =>
    match chunk.dropWhile (· ≠ newline) with
    | [] => skipLine rest
    | _ :: left => .ok (unread left rest)

/-- How much there is still to read, in bytes and deliveries. -/
def weight : Source → Nat
  | [] => 0
  | .bytes chunk :: rest => chunk.length + 1 + weight rest
  | .interrupted :: rest => 1 + weight rest
  | .failed _ :: rest => 1 + weight rest

theorem weight_unread (left : Bytes) (rest : Source) :
    weight (unread left rest) ≤ left.length + 1 + weight rest := by
  unfold unread
  split
  · omega
  · simp [weight]

theorem weight_fetch {room : Nat} {got line : Bytes} {source rest : Source}
    (h : fetch room got source = .ok (line, rest)) :
    weight rest + line.length ≤ weight source + got.length := by
  induction source generalizing room got with
  | nil =>
    simp only [fetch, Except.ok.injEq, Prod.mk.injEq] at h
    obtain ⟨rfl, rfl⟩ := h
    simp
  | cons delivery source ih =>
    cases delivery with
    | interrupted =>
      have := ih (by simpa [fetch] using h)
      simp [weight]; omega
    | failed cause => simp [fetch] at h
    | bytes chunk =>
      simp only [fetch] at h
      have within : ((chunk.takeWhile (· ≠ newline)).take room).length ≤ chunk.length :=
        Nat.le_trans (List.take_prefix _ _).length_le (List.takeWhile_prefix _).length_le
      generalize (chunk.takeWhile (· ≠ newline)).take room = taken at h within
      have total := List.length_drop (i := taken.length) (l := chunk)
      split at h
      · split at h
        · have := ih h
          simp only [List.length_append, weight, List.length_nil, *] at *
          omega
        · next left cut =>
          simp only [Except.ok.injEq, Prod.mk.injEq] at h
          obtain ⟨rfl, rfl⟩ := h
          have := weight_unread left source
          simp only [cut, List.length_append, List.length_cons, List.length_nil, weight] at *
          omega
      · simp only [Except.ok.injEq, Prod.mk.injEq] at h
        obtain ⟨rfl, rfl⟩ := h
        have := weight_unread (chunk.drop taken.length) source
        simp only [List.length_append, weight] at *
        omega

theorem weight_skipLine {source rest : Source} (h : skipLine source = .ok rest) :
    weight rest ≤ weight source := by
  induction source with
  | nil =>
    simp only [skipLine, Except.ok.injEq] at h
    subst h
    simp
  | cons delivery source ih =>
    cases delivery with
    | interrupted => simp [skipLine] at h
    | failed cause => simp [skipLine] at h
    | bytes chunk =>
      unfold skipLine at h
      split at h
      · have := ih h
        simp only [weight]; omega
      · next b left cut =>
        simp only [Except.ok.injEq] at h
        subst h
        have := weight_unread left source
        have shorter := (List.dropWhile_suffix (fun b => decide (b ≠ newline)) (l := chunk)).length_le
        rw [cut] at shorter
        simp only [List.length_cons, weight] at *
        omega

end Source

/-- A line without its newline; of an oversize line nothing else is kept. -/
inductive Line where
  | text (content : Bytes)
  | oversize
  deriving DecidableEq, Repr

/-- The lines of a source, and the failure that ended the reading, if any. -/
structure Lines where
  lines : List Line
  ending : Option IoError
  deriving DecidableEq, Repr

namespace Lines

def withoutNewline (line : Bytes) : Bytes :=
  if line.getLast? = some Source.newline then line.dropLast else line

def readOnto (room limit : Nat) (met : List Line) (source : Source) : Lines :=
  match _fetched : source.fetch room [] with
  | .error cause => ⟨met.reverse, some cause⟩
  | .ok (line, rest) =>
    if _some : line = [] then ⟨met.reverse, none⟩
    else if line.getLast? ≠ some Source.newline ∧ limit < line.length then
      match _skipped : rest.skipLine with
      | .error cause => ⟨met.reverse, some cause⟩
      | .ok rest' => readOnto room limit (.oversize :: met) rest'
    else readOnto room limit (.text (withoutNewline line) :: met) rest
termination_by source.weight
decreasing_by
  all_goals
    have fetched := Source.weight_fetch _fetched
    have positive := List.length_pos_iff.2 _some
    simp only [List.length_nil] at fetched
  · have skipped := Source.weight_skipLine _skipped
    omega
  · omega

/-- The lines of a source; those of more than `limit` bytes are oversize. One more byte is fetched, so that
the newline of a longest line is reached. -/
def read (limit : Nat) (source : Source) : Lines := readOnto (limit + 1) limit [] source

end Lines
end AuditTrail
