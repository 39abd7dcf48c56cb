import AuditTrail.Source
import Mathlib.Data.List.TakeWhile

/-! Lines do not depend on the chunks in which their bytes arrive. `Lines.cut` splits bytes into
lines, and `readOnto_chunks` says that reading finds these lines for every chunking, up to the
failure that ends the reading. -/
namespace AuditTrail

namespace Lines

open Source (newline)

/-- The lines that end in a newline, without it. -/
def complete (bytes : Bytes) : List Bytes := (bytes.splitOn newline).dropLast

/-- The bytes after the last newline. -/
def unfinished (bytes : Bytes) : Bytes := (bytes.splitOn newline).getLast (List.splitOn_ne_nil _ _)

/-- The bytes cut at each newline. An empty rest is no line. -/
def cut (bytes : Bytes) : List Bytes :=
  complete bytes ++ if unfinished bytes = [] then [] else [unfinished bytes]

def judge (limit : Nat) (content : Bytes) : Line :=
  if limit < content.length then .oversize else .text content

theorem complete_cons {line : Bytes} (free : newline ∉ line) (rest : Bytes) :
    complete (line ++ newline :: rest) = line :: complete rest := by
  rw [complete, List.splitOn_append_cons_self_of_not_mem free,
    List.dropLast_cons_of_ne_nil (List.splitOn_ne_nil _ _), complete]

theorem unfinished_append (front rest : Bytes) :
    unfinished (front ++ newline :: rest) = unfinished rest := by
  simp only [unfinished, List.splitOn_append_cons_self]
  exact List.getLast_append_right (List.splitOn_ne_nil _ _)

theorem complete_of_not_mem {bytes : Bytes} (free : newline ∉ bytes) : complete bytes = [] := by
  simp [complete, List.splitOn_eq_singleton free]

theorem unfinished_of_not_mem {bytes : Bytes} (free : newline ∉ bytes) :
    unfinished bytes = bytes := by
  simp [unfinished, List.splitOn_eq_singleton free]

theorem cut_cons {line : Bytes} (free : newline ∉ line) (rest : Bytes) :
    cut (line ++ newline :: rest) = line :: cut rest := by
  rw [cut, complete_cons free, unfinished_append, List.cons_append, cut]

theorem cut_of_not_mem {bytes : Bytes} (free : newline ∉ bytes) :
    cut bytes = if bytes = [] then [] else [bytes] := by
  rw [cut, complete_of_not_mem free, unfinished_of_not_mem free, List.nil_append]

/-- The last line, if any, ends in a newline. -/
def Closed (bytes : Bytes) : Prop := bytes = [] ∨ bytes.getLast? = some newline

instance (bytes : Bytes) : Decidable (Closed bytes) := inferInstanceAs (Decidable (_ ∨ _))

theorem closed_nil : Closed [] := .inl rfl

theorem Closed.append {front rest : Bytes} (first : Closed front) (last : Closed rest) :
    Closed (front ++ rest) := by
  rcases last with rfl | ended
  · rw [List.append_nil]
    exact first
  · right
    rw [List.getLast?_append, ended, Option.some_or]

theorem Closed.flatMap {α : Type} {f : α → Bytes} {parts : List α}
    (closed : ∀ part ∈ parts, Closed (f part)) : Closed (parts.flatMap f) := by
  induction parts with
  | nil => exact closed_nil
  | cons part rest ih =>
    rw [List.flatMap_cons]
    exact (closed part List.mem_cons_self).append
      (ih fun other member => closed other (List.mem_cons_of_mem _ member))

theorem Closed.of_line {line rest : Bytes} (closed : Closed (line ++ newline :: rest)) :
    Closed rest := by
  rcases closed with empty | ended
  · simp at empty
  · cases rest with
    | nil => exact closed_nil
    | cons b rest =>
      right
      rw [List.getLast?_append, List.getLast?_cons_cons] at ended
      simpa [List.getLast?_cons] using ended

theorem cut_append {front : Bytes} (closed : Closed front) (rest : Bytes) :
    cut (front ++ rest) = cut front ++ cut rest := by
  induction measured : front.length using Nat.strongRecOn generalizing front with
  | ind size shorter =>
    by_cases ends : newline ∈ front
    · obtain ⟨line, more, rfl, free⟩ := List.eq_append_cons_of_mem ends
      have less : more.length < size := by
        rw [← measured, List.length_append, List.length_cons]
        omega
      rw [List.append_assoc, List.cons_append, cut_cons free, cut_cons free,
        shorter _ less closed.of_line rfl, List.cons_append]
    · rcases closed with rfl | ended
      · rfl
      · exact absurd (List.mem_of_getLast? ended) ends

end Lines

namespace Source

/-- Bytes in pieces, followed by `after`. -/
def ofChunks (chunks : List Bytes) (after : Source) : Source := chunks.map .bytes ++ after

@[simp] theorem ofChunks_nil (after : Source) : ofChunks [] after = after := rfl

@[simp] theorem ofChunks_cons (chunk : Bytes) (chunks : List Bytes) (after : Source) :
    ofChunks (chunk :: chunks) after = .bytes chunk :: ofChunks chunks after := rfl

theorem unread_ofChunks (left : Bytes) (chunks : List Bytes) (after : Source) :
    ∃ chunks', chunks'.flatten = left ++ chunks.flatten ∧
      unread left (ofChunks chunks after) = ofChunks chunks' after := by
  by_cases h : left = []
  · exact ⟨chunks, by simp [h], by simp [unread, h]⟩
  · exact ⟨left :: chunks, by simp, by simp [unread, h]⟩

theorem ne_newline {line : Bytes} (free : newline ∉ line) :
    ∀ b ∈ line, decide (b ≠ newline) = true := by
  intro b member
  simp only [decide_eq_true_eq]
  rintro rfl
  exact free member

theorem takeWhile_of_free {line : Bytes} (free : newline ∉ line) :
    line.takeWhile (· ≠ newline) = line :=
  List.takeWhile_eq_self_iff.2 (ne_newline free)

theorem takeWhile_line {line : Bytes} (free : newline ∉ line) (rest : Bytes) :
    (line ++ newline :: rest).takeWhile (· ≠ newline) = line := by
  rw [List.takeWhile_append_of_pos (ne_newline free)]
  simp

theorem dropWhile_of_free {line : Bytes} (free : newline ∉ line) :
    line.dropWhile (· ≠ newline) = [] :=
  List.dropWhile_eq_nil_iff.2 (ne_newline free)

theorem dropWhile_line {line : Bytes} (free : newline ∉ line) (rest : Bytes) :
    (line ++ newline :: rest).dropWhile (· ≠ newline) = newline :: rest := by
  rw [List.dropWhile_append_of_pos (ne_newline free)]
  simp

theorem fetch_free {chunk : Bytes} (free : newline ∉ chunk) {room : Nat}
    (fits : chunk.length < room) (got : Bytes) (rest : Source) :
    fetch room got (.bytes chunk :: rest) = fetch (room - chunk.length) (got ++ chunk) rest := by
  rw [fetch, takeWhile_of_free free, List.take_of_length_le (Nat.le_of_lt fits)]
  simp [fits]

/-- A piece in which a line ends. -/
theorem fetch_ending {line : Bytes} (free : newline ∉ line) {room : Nat}
    (fits : line.length < room) (got left : Bytes) (rest : Source) :
    fetch room got (.bytes (line ++ newline :: left) :: rest) =
      .ok (got ++ line ++ [newline], unread left rest) := by
  rw [fetch, takeWhile_line free, List.take_of_length_le (Nat.le_of_lt fits)]
  simp [fits]

theorem fetch_line {chunks : List Bytes} {line rest : Bytes}
    (delivered : chunks.flatten = line ++ newline :: rest) (free : newline ∉ line) {room : Nat}
    (fits : line.length < room) (got : Bytes) (after : Source) :
    ∃ left, left.flatten = rest ∧ fetch room got (ofChunks chunks after) =
      .ok (got ++ line ++ [newline], ofChunks left after) := by
  induction chunks generalizing line room got with
  | nil => simp at delivered
  | cons chunk chunks ih =>
    rw [List.flatten_cons, List.append_eq_append_iff] at delivered
    rcases delivered with ⟨more, rfl, later⟩ | ⟨left, rfl, cutting⟩
    · have free' : newline ∉ chunk ∧ newline ∉ more := by simpa using free
      have fits' : chunk.length + more.length < room := by simpa using fits
      have room' : more.length < room - chunk.length := by omega
      obtain ⟨left, flat, fetched⟩ := ih later free'.2 room' (got ++ chunk)
      refine ⟨left, flat, ?_⟩
      rw [ofChunks_cons, fetch_free free'.1 (by omega), fetched]
      simp
    · cases left with
      | nil =>
        have delivered : chunks.flatten = [] ++ newline :: rest := by simpa using cutting.symm
        have room' : ([] : Bytes).length < room - line.length := by simp; omega
        obtain ⟨left, flat, fetched⟩ := ih delivered List.not_mem_nil room' (got ++ line)
        refine ⟨left, flat, ?_⟩
        rw [List.append_nil, ofChunks_cons, fetch_free free fits, fetched]
        simp
      | cons b left =>
        obtain ⟨rfl, rfl⟩ := List.cons.inj cutting
        obtain ⟨chunks', flat, unreading⟩ := unread_ofChunks left chunks after
        refine ⟨chunks', flat, ?_⟩
        rw [ofChunks_cons, fetch_ending free fits, unreading]

/-- Of a too long line as much is fetched as there is room for. -/
theorem fetch_full {chunks : List Bytes} {line rest : Bytes}
    (delivered : chunks.flatten = line ++ rest) (free : newline ∉ line) (some : line ≠ [])
    (got : Bytes) (after : Source) :
    ∃ left, left.flatten = rest ∧
      fetch line.length got (ofChunks chunks after) = .ok (got ++ line, ofChunks left after) := by
  induction chunks generalizing line got with
  | nil => simp_all
  | cons chunk chunks ih =>
    by_cases shorter : chunk.length < line.length
    · rw [List.flatten_cons, List.append_eq_append_iff] at delivered
      rcases delivered with ⟨more, rfl, later⟩ | ⟨left, rfl, -⟩
      · have free' : newline ∉ chunk ∧ newline ∉ more := by simpa using free
        have some' : more ≠ [] := by rintro rfl; simp at shorter
        obtain ⟨left, flat, fetched⟩ := ih later free'.2 some' (got ++ chunk)
        refine ⟨left, flat, ?_⟩
        rw [ofChunks_cons, fetch_free free'.1 shorter]
        simpa using fetched
      · rw [List.length_append] at shorter
        omega
    · -- The piece fills the room.
      rw [List.flatten_cons] at delivered
      obtain ⟨left, rfl⟩ : ∃ left, chunk = line ++ left :=
        List.prefix_iff_eq_append.1 ((List.prefix_of_prefix_length_le ⟨rest, delivered.symm⟩
          (List.prefix_append _ _) (by omega))) ▸ ⟨_, rfl⟩
      obtain ⟨chunks', flat, unreading⟩ := unread_ofChunks left chunks after
      refine ⟨chunks', by simpa [flat] using delivered, ?_⟩
      have taken : ((line ++ left).takeWhile (· ≠ newline)).take line.length = line := by
        rw [List.takeWhile_append_of_pos (ne_newline free), List.take_left]
      rw [ofChunks_cons, fetch, taken]
      simp [unreading]

theorem fetch_rest {chunks : List Bytes} (free : newline ∉ chunks.flatten) {room : Nat}
    (fits : chunks.flatten.length < room) (got : Bytes) (after : Source) :
    fetch room got (ofChunks chunks after) =
      fetch (room - chunks.flatten.length) (got ++ chunks.flatten) after := by
  induction chunks generalizing room got with
  | nil => simp
  | cons chunk chunks ih =>
    have free' : newline ∉ chunk ∧ newline ∉ chunks.flatten := by simpa using free
    have fits' : chunk.length + chunks.flatten.length < room := by simpa using fits
    rw [ofChunks_cons, fetch_free free'.1 (by omega), ih free'.2 (by omega)]
    simp [Nat.sub_sub]

theorem skipLine_line {chunks : List Bytes} {line rest : Bytes}
    (delivered : chunks.flatten = line ++ newline :: rest) (free : newline ∉ line)
    (after : Source) :
    ∃ left, left.flatten = rest ∧ skipLine (ofChunks chunks after) = .ok (ofChunks left after) := by
  induction chunks generalizing line with
  | nil => simp at delivered
  | cons chunk chunks ih =>
    rw [List.flatten_cons, List.append_eq_append_iff] at delivered
    rcases delivered with ⟨more, rfl, later⟩ | ⟨left, rfl, cutting⟩
    · have free' : newline ∉ chunk ∧ newline ∉ more := by simpa using free
      obtain ⟨left, flat, skipped⟩ := ih later free'.2
      exact ⟨left, flat, by rw [ofChunks_cons, skipLine, dropWhile_of_free free'.1, skipped]⟩
    · cases left with
      | nil =>
        have delivered : chunks.flatten = [] ++ newline :: rest := by simpa using cutting.symm
        obtain ⟨left, flat, skipped⟩ := ih delivered List.not_mem_nil
        refine ⟨left, flat, ?_⟩
        rw [List.append_nil, ofChunks_cons, skipLine, dropWhile_of_free free, skipped]
      | cons b left =>
        obtain ⟨rfl, rfl⟩ := List.cons.inj cutting
        obtain ⟨chunks', flat, unreading⟩ := unread_ofChunks left chunks after
        refine ⟨chunks', flat, ?_⟩
        rw [ofChunks_cons, skipLine, dropWhile_line free]
        simp [unreading]

theorem skipLine_rest {chunks : List Bytes} (free : newline ∉ chunks.flatten) (after : Source) :
    skipLine (ofChunks chunks after) = skipLine after := by
  induction chunks with
  | nil => rfl
  | cons chunk chunks ih =>
    have free' : newline ∉ chunk ∧ newline ∉ chunks.flatten := by simpa using free
    rw [ofChunks_cons, skipLine, dropWhile_of_free free'.1, ih free'.2]

end Source

namespace Lines

open Source (newline)

variable {room limit : Nat} {met : List Line} {source rest : Source} {line : Bytes}
  {cause : IoError}

theorem readOnto_end (fetched : source.fetch room [] = .ok ([], rest)) :
    readOnto room limit met source = ⟨met.reverse, none⟩ := by
  rw [readOnto]
  split <;> simp_all

theorem readOnto_failed (fetched : source.fetch room [] = .error cause) :
    readOnto room limit met source = ⟨met.reverse, some cause⟩ := by
  rw [readOnto]
  split <;> simp_all

theorem readOnto_text (fetched : source.fetch room [] = .ok (line, rest)) (present : line ≠ [])
    (within : line.getLast? = some newline ∨ line.length ≤ limit) :
    readOnto room limit met source =
      readOnto room limit (.text (withoutNewline line) :: met) rest := by
  have short : ¬(line.getLast? ≠ some newline ∧ limit < line.length) := by
    rcases within with ended | fits
    · simp [ended]
    · omega
  rw [readOnto]
  split
  · simp_all
  · next line' rest' fetched' =>
    obtain ⟨rfl, rfl⟩ := Prod.mk.inj (Except.ok.inj (fetched'.symm.trans fetched))
    rw [dif_neg present, if_neg short]

theorem readOnto_long (fetched : source.fetch room [] = .ok (line, rest)) (present : line ≠ [])
    (unended : line.getLast? ≠ some newline) (long : limit < line.length) :
    readOnto room limit met source = match rest.skipLine with
      | .error cause => ⟨met.reverse, some cause⟩
      | .ok rest => readOnto room limit (.oversize :: met) rest := by
  rw [readOnto]
  split
  · simp_all
  · next line' rest' fetched' =>
    obtain ⟨rfl, rfl⟩ := Prod.mk.inj (Except.ok.inj (fetched'.symm.trans fetched))
    rw [dif_neg present, if_pos ⟨unended, long⟩]
    split <;> simp_all

theorem getLast?_ne_newline (free : newline ∉ line) : line.getLast? ≠ some newline :=
  fun last => free (List.mem_of_getLast? last)

theorem withoutNewline_of_not_mem (free : newline ∉ line) : withoutNewline line = line :=
  if_neg (getLast?_ne_newline free)

@[simp] theorem withoutNewline_append : withoutNewline (line ++ [newline]) = line := by
  simp [withoutNewline]

/-- Nothing more, or a failure. -/
inductive After : Source → Option IoError → Prop where
  | nothing : After [] none
  | failure (cause : IoError) (later : Source) : After (.failed cause :: later) (some cause)

/-- The lines found before the end or before a failure. A failure discards the unfinished line. -/
def heard (bytes : Bytes) : Option IoError → List Bytes
  | none => cut bytes
  | some _ => complete bytes

theorem heard_cons (free : newline ∉ line) (rest : Bytes) (ending : Option IoError) :
    heard (line ++ newline :: rest) ending = line :: heard rest ending := by
  cases ending
  · exact cut_cons free rest
  · exact complete_cons free rest

/-- The room exceeds the limit, or no line fills it. -/
def Roomy (room limit : Nat) (bytes : Bytes) : Prop :=
  room = limit + 1 ∨ room ≤ limit ∧ 0 < room ∧ ∀ content ∈ cut bytes, content.length < room

theorem Roomy.tail (free : newline ∉ line) {rest : Bytes}
    (roomy : Roomy room limit (line ++ newline :: rest)) : Roomy room limit rest := by
  refine roomy.imp_right fun ⟨narrow, positive, short⟩ =>
    ⟨narrow, positive, fun content member => short content ?_⟩
  rw [cut_cons free]
  exact List.mem_cons_of_mem _ member

theorem Roomy.long {bytes : Bytes} (roomy : Roomy room limit bytes) (member : line ∈ cut bytes)
    (full : room ≤ line.length) : room = limit + 1 ∧ limit < line.length := by
  rcases roomy with rfl | ⟨-, -, short⟩
  · exact ⟨rfl, full⟩
  · have := short line member
    omega

theorem Roomy.fits {bytes : Bytes} (roomy : Roomy room limit bytes) (short : line.length < room) :
    line.length ≤ limit := by
  rcases roomy with rfl | ⟨narrow, -⟩ <;> omega

theorem Roomy.positive {bytes : Bytes} (roomy : Roomy room limit bytes) : 0 < room := by
  rcases roomy with rfl | ⟨-, positive, -⟩
  · exact Nat.succ_pos limit
  · exact positive

theorem judge_of_le (fits : line.length ≤ limit) : judge limit line = .text line :=
  if_neg (Nat.not_lt.2 fits)

theorem judge_of_lt (long : limit < line.length) : judge limit line = .oversize :=
  if_pos long

theorem readOnto_nothing : readOnto room limit met [] = ⟨met.reverse, none⟩ :=
  readOnto_end rfl

theorem readOnto_line {chunks : List Bytes} {rest : Bytes}
    (delivered : chunks.flatten = line ++ newline :: rest) (free : newline ∉ line)
    (roomy : Roomy room limit chunks.flatten) (met : List Line) (after : Source) :
    ∃ left, left.flatten = rest ∧ readOnto room limit met (.ofChunks chunks after) =
      readOnto room limit (judge limit line :: met) (.ofChunks left after) := by
  have member : line ∈ cut chunks.flatten := by
    rw [delivered, cut_cons free]
    exact List.mem_cons_self
  by_cases short : line.length < room
  · obtain ⟨left, flat, fetched⟩ := Source.fetch_line delivered free short [] after
    refine ⟨left, flat, ?_⟩
    rw [readOnto_text fetched (by simp) (.inl (by simp)), judge_of_le (roomy.fits short)]
    simp
  · -- The room is filled before the newline, and the rest of the line is skipped.
    obtain ⟨rfl, long⟩ := roomy.long member (Nat.not_lt.1 short)
    obtain ⟨front, back, rfl, full⟩ : ∃ front back, line = front ++ back ∧
        front.length = limit + 1 :=
      ⟨line.take (limit + 1), line.drop (limit + 1), (List.take_append_drop _ _).symm,
        List.length_take_of_le long⟩
    have free' : newline ∉ front ∧ newline ∉ back := by simpa using free
    have present : front ≠ [] := by rintro rfl; simp at full
    rw [List.append_assoc] at delivered
    obtain ⟨middle, flat, fetched⟩ := Source.fetch_full delivered free'.1 present [] after
    obtain ⟨left, flat', skipped⟩ := Source.skipLine_line flat free'.2 after
    refine ⟨left, flat', ?_⟩
    rw [full] at fetched
    rw [readOnto_long fetched present (getLast?_ne_newline free'.1) (by simp [full]), skipped,
      judge_of_lt long]

theorem readOnto_rest {chunks : List Bytes} (free : newline ∉ chunks.flatten)
    (roomy : Roomy room limit chunks.flatten) {after : Source} {ending : Option IoError}
    (follows : After after ending) (met : List Line) :
    readOnto room limit met (.ofChunks chunks after) =
      ⟨met.reverse ++ (heard chunks.flatten ending).map (judge limit), ending⟩ := by
  have positive := roomy.positive
  by_cases short : chunks.flatten.length < room
  · have fetched := Source.fetch_rest free short [] after
    rw [List.nil_append] at fetched
    cases follows with
    | failure cause later =>
      rw [readOnto_failed fetched, heard, complete_of_not_mem free]
      simp
    | nothing =>
      rw [heard, cut_of_not_mem free]
      by_cases empty : chunks.flatten = []
      · rw [empty] at fetched
        rw [readOnto_end fetched]
        simp [empty]
      · have fits := roomy.fits short
        rw [readOnto_text fetched empty (.inr fits), readOnto_nothing,
          withoutNewline_of_not_mem free]
        simp [empty, judge_of_le fits]
  · have empty : chunks.flatten ≠ [] := by
      intro empty
      rw [empty] at short
      exact short positive
    have member : chunks.flatten ∈ cut chunks.flatten := by
      rw [cut_of_not_mem free, if_neg empty]
      exact List.mem_singleton_self _
    obtain ⟨rfl, long⟩ := roomy.long member (Nat.not_lt.1 short)
    obtain ⟨front, back, delivered, full⟩ : ∃ front back, chunks.flatten = front ++ back ∧
        front.length = limit + 1 :=
      ⟨chunks.flatten.take (limit + 1), chunks.flatten.drop (limit + 1),
        (List.take_append_drop _ _).symm, List.length_take_of_le long⟩
    have free' : newline ∉ front ∧ newline ∉ back := by simpa [delivered] using free
    have present : front ≠ [] := by rintro rfl; simp at full
    obtain ⟨left, flat, fetched⟩ := Source.fetch_full delivered free'.1 present [] after
    rw [full] at fetched
    rw [readOnto_long fetched present (getLast?_ne_newline free'.1) (by simp [full]),
      Source.skipLine_rest (by rw [flat]; exact free'.2)]
    cases follows with
    | failure cause later =>
      rw [heard, complete_of_not_mem free]
      simp [Source.skipLine]
    | nothing =>
      rw [heard, cut_of_not_mem free, if_neg empty]
      simp [Source.skipLine, readOnto_nothing, judge_of_lt long]

/-- Reading finds the lines of the bytes, whatever the pieces. -/
theorem readOnto_chunks {chunks : List Bytes} (roomy : Roomy room limit chunks.flatten)
    {after : Source} {ending : Option IoError} (follows : After after ending) (met : List Line) :
    readOnto room limit met (.ofChunks chunks after) =
      ⟨met.reverse ++ (heard chunks.flatten ending).map (judge limit), ending⟩ := by
  -- By induction on the remaining bytes, of which a line consumes at least its newline.
  induction measured : chunks.flatten.length using Nat.strong_induction_on
    generalizing chunks met with
  | _ size shorter =>
    by_cases ends : newline ∈ chunks.flatten
    · obtain ⟨line, rest, delivered, free⟩ := List.eq_append_cons_of_mem ends
      obtain ⟨left, flat, reading⟩ := readOnto_line delivered free roomy met after
      have less : left.flatten.length < size := by
        rw [← measured, delivered, flat, List.length_append, List.length_cons]
        omega
      rw [delivered] at roomy
      have roomy' : Roomy room limit left.flatten := by
        rw [flat]
        exact roomy.tail free
      rw [reading, shorter _ less roomy' _ rfl, delivered, flat, heard_cons free]
      simp
    · exact readOnto_rest ends roomy follows met

/-- The lines that a reading finds: all of them, or those that end before a failure. -/
theorem read_chunks (limit : Nat) (chunks : List Bytes) {after : Source}
    {ending : Option IoError} (follows : After after ending) :
    read limit (.ofChunks chunks after) =
      ⟨(heard chunks.flatten ending).map (judge limit), ending⟩ := by
  rw [read, readOnto_chunks (.inl rfl) follows]
  simp

theorem readOnto_saturated {limit most : Nat} {chunks : List Bytes} (positive : 0 < most)
    (short : ∀ content ∈ cut chunks.flatten, content.length < most) {after : Source}
    {ending : Option IoError} (follows : After after ending) :
    readOnto (min (limit + 1) most) limit [] (.ofChunks chunks after) =
      read limit (.ofChunks chunks after) := by
  have roomy : Roomy (min (limit + 1) most) limit chunks.flatten := by
    rcases Nat.le_total (limit + 1) most with within | beyond
    · exact .inl (Nat.min_eq_left within)
    · rw [Nat.min_eq_right beyond]
      by_cases reached : most = limit + 1
      · exact .inl reached
      · exact .inr ⟨by omega, positive, short⟩
  rw [readOnto_chunks roomy follows, read_chunks limit chunks follows]
  rfl

theorem read_bytes (limit : Nat) (bytes : Bytes) :
    read limit [.bytes bytes] = ⟨(cut bytes).map (judge limit), none⟩ := by
  have reading := read_chunks limit [bytes] .nothing
  simpa [heard] using reading

end Lines
end AuditTrail
