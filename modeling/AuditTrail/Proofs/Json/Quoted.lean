import AuditTrail.Proofs.Json.Text

/-! Strings in JSON text. Outside strings the text of a value is ASCII, so it is valid UTF-8 if all
its strings are, and a string that can be unescaped is. -/
namespace AuditTrail.Json

open Scanner (isShortEscape)

mutual

/-- The bytes between the quotes of a value, names included, in the order of the text. -/
def quoted : Json → List Bytes
  | .string raw => [raw]
  | .array elements => quotedElements elements
  | .object members => quotedMembers members
  | _ => []

def quotedElements : List Json → List Bytes
  | [] => []
  | value :: rest => quoted value ++ quotedElements rest

def quotedMembers : List (Bytes × Json) → List Bytes
  | [] => []
  | (name, value) :: rest => name :: quoted value ++ quotedMembers rest

end

theorem quotedElements_eq (elements : List Json) : quotedElements elements = elements.flatMap quoted := by
  induction elements with
  | nil => rfl
  | cons value rest ih => rw [quotedElements, ih, List.flatMap_cons]

theorem quotedMembers_eq (members : List (Bytes × Json)) :
    quotedMembers members = members.flatMap fun m => m.1 :: m.2.quoted := by
  induction members with
  | nil => rfl
  | cons m rest ih => rw [quotedMembers, ih, List.flatMap_cons]

def Token.quoted : Token → List Bytes
  | .string raw => [raw]
  | _ => []

/-! ### Building -/

namespace Frame

def quoted : Frame → List Bytes
  | .array elements => elements.reverse.flatMap Json.quoted
  | .object members name => (members.reverse.flatMap fun m => m.1 :: m.2.quoted) ++ name.toList

/-- A value may come next. -/
def Open : Frame → Prop
  | .array _ => True
  | .object _ name => name.isSome

def Shut : Frame → Prop
  | .array _ => True
  | .object _ name => name = none

variable {f : Frame}

theorem quoted_add (owed : f.Open) (v : Json) : (f.add v).quoted = f.quoted ++ v.quoted := by
  cases f with
  | array elements => simp [add, quoted]
  | object members name =>
    obtain ⟨raw, rfl⟩ := Option.isSome_iff_exists.1 owed
    simp [add, quoted]

theorem shut_add (f : Frame) (v : Json) : (f.add v).Shut := by
  cases f with
  | array elements => trivial
  | object members name => cases name <;> rfl

theorem quoted_close (shut : f.Shut) : f.close.quoted = f.quoted := by
  cases f with
  | array elements => rw [close, Json.quoted, quotedElements_eq, quoted]
  | object members name =>
    obtain rfl : name = none := shut
    rw [close, Json.quoted, quotedMembers_eq, quoted, Option.toList_none, List.append_nil]

end Frame

namespace Builder

def quoted (b : Builder) : List Bytes :=
  match b.place with
  | .done value => value.quoted
  | _ => b.frames.reverse.flatMap Frame.quoted

/-- Every open bracket can take the next value. -/
def Sound (b : Builder) : Prop :=
  match b.place with
  | .value | .elementOrEnd | .colon => ∀ f ∈ b.frames, f.Open
  | .nameOrEnd | .name | .commaOrEnd =>
    ∃ f outer, b.frames = f :: outer ∧ f.Shut ∧ ∀ g ∈ outer, g.Open
  | .done _ | .stopped _ => True

/-- The effect of a token: the reading ends, or its quoted bytes are kept. -/
inductive Takes (b : Builder) (token : Token) : Builder → Prop
  | stop {rest : Option Json} : Takes b token ⟨[], .stopped rest⟩
  | keep {b' : Builder} (clear : token ≠ .junk) (sound : b'.Sound)
      (kept : b'.quoted = b.quoted ++ token.quoted) : Takes b token b'

variable {b : Builder} {token : Token} {frames outer : List Frame} {v : Json}

theorem takes_stop (b : Builder) (token : Token) : Takes b token b.stop := by
  unfold stop
  split <;> exact .stop

theorem sound_push (owed : ∀ f ∈ frames, f.Open) (v : Json) :
    (push frames v).Sound ∧ (push frames v).quoted = frames.reverse.flatMap Frame.quoted ++ v.quoted := by
  cases frames with
  | nil => exact ⟨trivial, rfl⟩
  | cons f outer =>
    obtain ⟨here, later⟩ := List.forall_mem_cons.1 owed
    refine ⟨⟨_, outer, rfl, f.shut_add v, later⟩, ?_⟩
    simp [push, quoted, Frame.quoted_add here]

theorem takes_takeValue {place : Place} (owed : ∀ f ∈ frames, f.Open)
    (still : quoted ⟨frames, place⟩ = frames.reverse.flatMap Frame.quoted) (token : Token) :
    Takes ⟨frames, place⟩ token (takeValue ⟨frames, place⟩ token) := by
  have single : ∀ v : Json, token ≠ .junk → v.quoted = token.quoted →
      Takes ⟨frames, place⟩ token (push frames v) := by
    intro v clear same
    obtain ⟨sound, kept⟩ := sound_push owed v
    exact .keep clear sound (by rw [kept, still, same])
  cases token with
  | null => exact single .null (by simp) rfl
  | bool value => exact single (.bool value) (by simp) rfl
  | number spelling => exact single (.number spelling) (by simp) rfl
  | string raw => exact single (.string raw) (by simp) rfl
  | beginArray =>
    refine .keep (by simp) (List.forall_mem_cons.2 ⟨trivial, owed⟩) ?_
    rw [still]
    simp [takeValue, quoted, Frame.quoted, Token.quoted]
  | beginObject =>
    refine .keep (by simp) ⟨_, _, rfl, rfl, owed⟩ ?_
    rw [still]
    simp [takeValue, quoted, Frame.quoted, Token.quoted]
  | endObject | endArray | colon | comma | junk => exact takes_stop _ _

theorem takes_close {f : Frame} {place : Place} (shut : f.Shut) (owed : ∀ g ∈ outer, g.Open)
    (still : quoted ⟨f :: outer, place⟩ = (f :: outer).reverse.flatMap Frame.quoted)
    (clear : token ≠ .junk) (silent : token.quoted = []) :
    Takes ⟨f :: outer, place⟩ token (push outer f.close) := by
  obtain ⟨sound, kept⟩ := sound_push owed f.close
  refine .keep clear sound ?_
  rw [kept, still, silent, Frame.quoted_close shut]
  simp

theorem takes_name {members : List (Bytes × Json)} {place : Place} (owed : ∀ g ∈ outer, g.Open)
    (still : quoted ⟨.object members none :: outer, place⟩ =
      (Frame.object members none :: outer).reverse.flatMap Frame.quoted) (raw : Bytes) :
    Takes ⟨.object members none :: outer, place⟩ (.string raw)
      ⟨.object members (some raw) :: outer, .colon⟩ := by
  refine .keep nofun (List.forall_mem_cons.2 ⟨rfl, owed⟩) ?_
  rw [still]
  simp [quoted, Frame.quoted, Token.quoted]

theorem takes_feed (sound : b.Sound) (token : Token) : Takes b token (b.feed token) := by
  obtain ⟨frames, place⟩ := b
  cases place with
  | value => exact takes_takeValue sound rfl token
  | elementOrEnd =>
    have onward : Takes ⟨frames, .elementOrEnd⟩ token (takeValue ⟨frames, .elementOrEnd⟩ token) :=
      takes_takeValue sound rfl token
    cases frames with
    | nil => exact onward
    | cons f outer =>
      cases f with
      | object members name => exact onward
      | array elements =>
        cases token with
        | endArray => exact takes_close trivial (List.forall_mem_cons.1 sound).2 rfl nofun rfl
        | _ => exact onward
  | nameOrEnd =>
    obtain ⟨f, outer, rfl, shut, owed⟩ := sound
    cases f with
    | array elements => exact takes_stop _ _
    | object members name =>
      obtain rfl : name = none := shut
      cases token with
      | endObject => exact takes_close rfl owed rfl nofun rfl
      | string raw => exact takes_name owed rfl raw
      | _ => exact takes_stop _ _
  | name =>
    obtain ⟨f, outer, rfl, shut, owed⟩ := sound
    cases f with
    | array elements => exact takes_stop _ _
    | object members name =>
      obtain rfl : name = none := shut
      cases token with
      | string raw => exact takes_name owed rfl raw
      | _ => exact takes_stop _ _
  | colon =>
    cases token with
    | colon => exact .keep nofun sound (List.append_nil _).symm
    | _ => exact takes_stop _ _
  | commaOrEnd =>
    obtain ⟨f, outer, rfl, shut, owed⟩ := sound
    cases f with
    | array elements =>
      cases token with
      | comma => exact .keep nofun (List.forall_mem_cons.2 ⟨trivial, owed⟩) (List.append_nil _).symm
      | endArray => exact takes_close trivial owed rfl nofun rfl
      | _ => exact takes_stop _ _
    | object members name =>
      cases token with
      | comma => exact .keep nofun ⟨_, outer, rfl, shut, owed⟩ (List.append_nil _).symm
      | endObject => exact takes_close shut owed rfl nofun rfl
      | _ => exact takes_stop _ _
  | done value => exact takes_stop _ _
  | stopped rest => exact takes_stop _ _

theorem foldl_stopped (rest : Option Json) (tokens : List Token) :
    tokens.foldl feed ⟨[], .stopped rest⟩ = ⟨[], .stopped rest⟩ := by
  induction tokens with
  | nil => rfl
  | cons token tokens ih => exact ih

/-- A value is found in tokens without junk, and its quoted bytes are those of the tokens. -/
theorem quoted_of_finish {tokens : List Token} (sound : b.Sound)
    (whole : (tokens.foldl feed b).finish = .whole v) :
    .junk ∉ tokens ∧ v.quoted = b.quoted ++ tokens.flatMap Token.quoted := by
  induction tokens generalizing b with
  | nil =>
    refine ⟨List.not_mem_nil, ?_⟩
    obtain ⟨frames, place⟩ := b
    cases place with
    | done value =>
      obtain rfl : value = v := by simpa [finish] using whole
      exact (List.append_nil _).symm
    | _ => cases whole
  | cons token tokens ih =>
    have taken := takes_feed sound token
    rw [List.foldl_cons] at whole
    generalize b.feed token = b' at taken whole
    cases taken with
    | stop =>
      rw [foldl_stopped] at whole
      cases whole
    | keep clear sound kept =>
      obtain ⟨others, same⟩ := ih sound whole
      refine ⟨?_, ?_⟩
      · rw [List.mem_cons, not_or]
        exact ⟨clear.symm, others⟩
      · rw [same, kept, List.flatMap_cons, List.append_assoc]

end Builder

/-! ### Scanning -/

namespace Scanner

/-- The bytes of an unfinished string. -/
def pending (s : Scanner) : Bytes :=
  match s.place with
  | .text read | .escape read | .unicode _ read => read.reverse
  | _ => []

def quoted (s : Scanner) : List Bytes := s.done.flatMap Token.quoted

def Inside (s : Scanner) : Prop :=
  match s.place with
  | .text read => Quotable read.reverse
  | .escape read => ∃ front, Quotable front ∧ read.reverse = front ++ [0x5C]
  | .unicode owed read => ∃ front digits, Quotable front ∧ read.reverse = front ++ 0x5C :: 0x75 :: digits ∧
    digits.length + owed = 4 ∧ 0 < owed ∧ ∀ b ∈ digits, isHex b = true
  | .word rest token => (∀ b ∈ rest, b < 0x80) ∧ token.quoted = []
  | .between | .number _ _ => True
  | .stopped => False

/-- The scanner has met no junk: every string it found may be quoted, and the bytes are legible if the strings
and the pending one are. -/
structure Clear (bytes : Bytes) (s : Scanner) : Prop where
  inside : s.Inside
  quotable : ∀ raw ∈ s.quoted, Quotable raw
  legible : (∀ raw ∈ s.quoted, Utf8.Legible raw) →
    ∃ front, bytes = front ++ s.pending ∧ Utf8.Legible front

/-- The effect of a byte. -/
inductive Takes (bytes : Bytes) : Scanner → Prop
  | stop {done : List Token} (junk : .junk ∈ done) : Takes bytes ⟨.stopped, done⟩
  | keep {s : Scanner} (clear : Clear bytes s) : Takes bytes s

variable {bytes : Bytes} {s s' : Scanner} {b : UInt8} {done : List Token}

theorem first_large (large : 0x80 ≤ b) : first done b = ⟨.stopped, .junk :: done⟩ := by
  have other : ∀ c < (0x80 : UInt8), (b = c) = False := by
    intro c small
    rw [eq_iff_iff, iff_false]
    rintro rfl
    exact absurd large (UInt8.not_le.2 small)
  have blank : isBlank b = false := by simp (disch := decide) [isBlank, other]
  have digit : Number.isDigit b = false := by grind [Number.isDigit]
  simp (disch := decide) only [first, other, blank, digit, Bool.false_eq_true, if_false]

theorem next?_large (phase : Number) (large : 0x80 ≤ b) : phase.next? b = none := by
  cases phase <;> unfold Number.next? <;> grind [Number.isDigit]

theorem small_of_isHex (hex : isHex b = true) : b < 0x80 := by
  simp only [isHex, Number.isDigit, Bool.or_eq_true, Bool.and_eq_true, decide_eq_true_eq] at hex
  grind

theorem small_of_isShortEscape (letter : isShortEscape b = true) : b < 0x80 := by
  simp only [isShortEscape, Bool.or_eq_true, beq_iff_eq] at letter
  grind

namespace Clear

theorem legible_bytes (clear : Clear bytes s) (outside : s.pending = [])
    (all : ∀ raw ∈ s.quoted, Utf8.Legible raw) : Utf8.Legible bytes := by
  obtain ⟨front, rfl, spelled⟩ := clear.legible all
  rwa [outside, List.append_nil]

theorem takes_small (clear : Clear bytes s) (outside : s.pending = []) (small : b < 0x80)
    (after : s'.pending = []) (inside : s'.Inside) (same : s'.quoted = s.quoted) :
    Takes (bytes ++ [b]) s' := by
  refine .keep ⟨inside, same ▸ clear.quotable, fun all => ⟨bytes ++ [b], by simp [after], ?_⟩⟩
  exact (clear.legible_bytes outside (same ▸ all)).append (Utf8.legible_singleton small)

/-- A byte within a string leaves the bytes before the string unchanged. -/
theorem takes_within (clear : Clear bytes s) (inside : s'.Inside)
    (onward : s'.pending = s.pending ++ [b]) (same : s'.quoted = s.quoted) :
    Takes (bytes ++ [b]) s' := by
  refine .keep ⟨inside, same ▸ clear.quotable, fun all => ?_⟩
  obtain ⟨front, split, spelled⟩ := clear.legible (same ▸ all)
  exact ⟨front, by rw [onward, ← List.append_assoc, ← split], spelled⟩

theorem takes_first (clear : Clear bytes s) (outside : s.pending = [])
    (same : done.flatMap Token.quoted = s.quoted) : Takes (bytes ++ [b]) (first done b) := by
  by_cases large : 0x80 ≤ b
  · rw [first_large large]
    exact .stop List.mem_cons_self
  have small : ∀ {s' : Scanner}, s'.pending = [] → s'.Inside → s'.quoted = done.flatMap Token.quoted →
      Takes (bytes ++ [b]) s' := fun after inside same' =>
    clear.takes_small outside (UInt8.not_le.1 large) after inside (same'.trans same)
  unfold first
  repeat' refine iteInduction (motive := Takes _) (fun _ => ?_) fun _ => ?_
  all_goals first
    | exact small rfl trivial rfl
    | exact small rfl .nil rfl
    | exact small rfl ⟨by decide +kernel, rfl⟩ rfl
    | exact .stop List.mem_cons_self

/-! ### One byte -/

theorem number {phase : Number} {read : Bytes} (clear : Clear bytes ⟨.number phase read, done⟩) :
    Takes (bytes ++ [b]) (feed ⟨.number phase read, done⟩ b) := by
  dsimp only [feed]
  cases goes : phase.next? b with
  | some next =>
    have small : b < 0x80 := by
      apply UInt8.not_le.1
      intro large
      rw [next?_large phase large] at goes
      cases goes
    exact clear.takes_small rfl small rfl trivial rfl
  | none =>
    exact iteInduction (motive := Takes _) (fun _ => clear.takes_first rfl rfl)
      fun _ => .stop List.mem_cons_self

theorem word {rest : Bytes} {token : Token} (clear : Clear bytes ⟨.word rest token, done⟩) :
    Takes (bytes ++ [b]) (feed ⟨.word rest token, done⟩ b) := by
  cases rest with
  | nil => exact .stop List.mem_cons_self
  | cons c rest =>
    obtain ⟨small, silent⟩ := clear.inside
    obtain ⟨here, later⟩ := List.forall_mem_cons.1 small
    dsimp only [feed]
    refine iteInduction (motive := Takes _) (fun same => ?_) fun _ => .stop List.mem_cons_self
    subst same
    refine iteInduction (motive := Takes _) (fun _ => ?_) fun _ => ?_
    · exact clear.takes_small rfl here rfl trivial (by simp [quoted, silent])
    · exact clear.takes_small rfl here rfl ⟨later, silent⟩ rfl

theorem text {read : Bytes} (clear : Clear bytes ⟨.text read, done⟩) :
    Takes (bytes ++ [b]) (feed ⟨.text read, done⟩ b) := by
  have inside : Quotable read.reverse := clear.inside
  dsimp only [feed]
  refine iteInduction (motive := Takes _) (fun quote => ?_) fun quote =>
    iteInduction (motive := Takes _) (fun escape => ?_) fun escape =>
    iteInduction (motive := Takes _) (fun _ => .stop List.mem_cons_self) fun printable => ?_
  · refine .keep ⟨trivial, List.forall_mem_cons.2 ⟨inside, clear.quotable⟩, fun all => ?_⟩
    obtain ⟨here, later⟩ := List.forall_mem_cons.1 all
    obtain ⟨front, rfl, spelled⟩ := clear.legible later
    refine ⟨_, (List.append_nil _).symm, (spelled.append here).append ?_⟩
    exact Utf8.legible_singleton (quote ▸ by decide)
  · exact clear.takes_within ⟨_, inside, by simp [escape]⟩ (by simp [pending]) rfl
  · refine clear.takes_within ?_ (by simp [pending]) rfl
    have plain : Quotable [b] := .plain (UInt8.not_lt.1 printable) quote escape .nil
    simpa [Inside] using inside.append plain

theorem escape {read : Bytes} (clear : Clear bytes ⟨.escape read, done⟩) :
    Takes (bytes ++ [b]) (feed ⟨.escape read, done⟩ b) := by
  obtain ⟨front, first, same⟩ := clear.inside
  dsimp only [feed]
  refine iteInduction (motive := Takes _) (fun letter => ?_) fun _ =>
    iteInduction (motive := Takes _) (fun hex => ?_) fun _ => .stop List.mem_cons_self
  · refine clear.takes_within ?_ (by simp [pending]) rfl
    simpa [Inside, same] using first.append (.short letter .nil)
  · refine clear.takes_within ⟨front, [], first, ?_, rfl, by decide, nofun⟩ (by simp [pending]) rfl
    simp [same, hex]

theorem unicode {owed : Nat} {read : Bytes} (clear : Clear bytes ⟨.unicode owed read, done⟩) :
    Takes (bytes ++ [b]) (feed ⟨.unicode owed read, done⟩ b) := by
  obtain ⟨front, digits, first, same, total, owing, hex⟩ := clear.inside
  dsimp only [feed]
  refine iteInduction (motive := Takes _) (fun digit => ?_) fun _ => .stop List.mem_cons_self
  refine iteInduction (motive := Takes _) (fun last => ?_) fun more => ?_
  · refine clear.takes_within ?_ (by simp [pending]) rfl
    have three : digits.length = 3 := by omega
    obtain ⟨x, y, z, rfl⟩ := List.length_eq_three.1 three
    simp only [List.forall_mem_cons] at hex
    simpa [Inside, same] using first.append (.unicode hex.1 hex.2.1 hex.2.2.1 digit .nil)
  · refine clear.takes_within ⟨front, digits ++ [b], first, by simp [same], ?_, by omega, ?_⟩
      (by simp [pending]) rfl
    · rw [List.length_append, List.length_singleton]
      omega
    · exact List.forall_mem_append.2 ⟨hex, List.forall_mem_singleton.2 digit⟩

end Clear

theorem takes_feed (clear : Clear bytes s) (b : UInt8) : Takes (bytes ++ [b]) (s.feed b) := by
  obtain ⟨place, done⟩ := s
  cases place with
  | between => exact clear.takes_first rfl rfl
  | number phase read => exact clear.number
  | word rest token => exact clear.word
  | text read => exact clear.text
  | escape read => exact clear.escape
  | unicode owed read => exact clear.unicode
  | stopped => exact clear.inside.elim

theorem foldl_stopped (done : List Token) (bytes : Bytes) :
    bytes.foldl feed ⟨.stopped, done⟩ = ⟨.stopped, done⟩ := by
  induction bytes with
  | nil => rfl
  | cons b rest ih => exact ih

theorem takes_foldl (clear : Clear bytes s) (more : Bytes) :
    Takes (bytes ++ more) (more.foldl feed s) := by
  induction more generalizing bytes s with
  | nil => exact .keep (by rwa [List.append_nil])
  | cons b rest ih =>
    have taken := takes_feed clear b
    rw [List.foldl_cons, List.append_cons]
    generalize s.feed b = s' at taken
    cases taken with
    | stop junk =>
      rw [foldl_stopped]
      exact .stop junk
    | keep clear => exact ih clear

theorem clear_start : Clear [] start :=
  ⟨trivial, nofun, fun _ => ⟨[], rfl, .nil⟩⟩

theorem Clear.ends (clear : Clear bytes s) (outside : s.pending = [])
    (same : done.flatMap Token.quoted = s.quoted) :
    (∀ raw ∈ done.reverse.flatMap Token.quoted, Quotable raw) ∧
    ((∀ raw ∈ done.reverse.flatMap Token.quoted, Utf8.Legible raw) → Utf8.Legible bytes) := by
  have members : ∀ raw, raw ∈ done.reverse.flatMap Token.quoted ↔ raw ∈ s.quoted := by
    intro raw
    rw [← same]
    simp only [List.mem_flatMap, List.mem_reverse]
  simp only [members]
  exact ⟨clear.quotable, clear.legible_bytes outside⟩

/-- Bytes without junk are legible if everything quoted in them is. -/
theorem quoted_of_scan (clear : .junk ∉ Token.scan bytes) :
    (∀ raw ∈ (Token.scan bytes).flatMap Token.quoted, Quotable raw) ∧
    ((∀ raw ∈ (Token.scan bytes).flatMap Token.quoted, Utf8.Legible raw) → Utf8.Legible bytes) := by
  have taken := takes_foldl clear_start bytes
  rw [List.nil_append] at taken
  unfold Token.scan at clear ⊢
  generalize bytes.foldl feed start = s at taken clear
  cases taken with
  | stop junk => exact absurd (List.mem_reverse.2 junk) clear
  | keep behind =>
    obtain ⟨place, done⟩ := s
    cases place with
    | between => exact behind.ends rfl rfl
    | number phase read =>
      unfold finish at clear ⊢
      dsimp only at clear ⊢
      split at clear
      · next complete =>
        rw [if_pos complete]
        exact behind.ends rfl rfl
      · exact absurd (List.mem_reverse.2 List.mem_cons_self) clear
    | stopped => exact behind.inside.elim
    | _ => exact absurd (List.mem_reverse.2 List.mem_cons_self) clear

end Scanner

/-- The strings of a value that was read may be quoted, and its text is legible if they are. -/
theorem quoted_of_read {bytes : Bytes} {v : Json} (whole : read bytes = .whole v) :
    (∀ raw ∈ v.quoted, Quotable raw) ∧
    ((∀ raw ∈ v.quoted, Utf8.Legible raw) → Utf8.Legible bytes) := by
  have start : Builder.start.Sound := nofun
  obtain ⟨clear, same⟩ := Builder.quoted_of_finish start whole
  have all : v.quoted = (Token.scan bytes).flatMap Token.quoted := same
  rw [all]
  exact Scanner.quoted_of_scan clear

/-! ### Reading strings -/

/-- An escape and the character it stands for are interchangeable in legible text. -/
theorem legible_escaped {c : Char} {escaped after rest front : Bytes} (small : Utf8.Legible escaped)
    (onward : ∀ front, Utf8.Legible (front ++ after) → Utf8.Legible (front ++ rest))
    (read : Utf8.Legible (front ++ (String.utf8EncodeChar c ++ after))) :
    Utf8.Legible (front ++ (escaped ++ rest)) := by
  obtain ⟨before, behind⟩ := read.cut_char
  exact before.append (small.append (onward [] behind))

theorem quotable_unicode {a b c d : UInt8} {rest : Bytes}
    (quotable : Quotable (0x5C :: 0x75 :: a :: b :: c :: d :: rest)) :
    Utf8.Legible [0x5C, 0x75, a, b, c, d] ∧ Quotable rest := by
  cases quotable with
  | plain printable quote escape => exact absurd rfl escape
  | short letter => exact absurd letter (by decide)
  | unicode first second third fourth onward =>
    refine ⟨Utf8.legible_of_small ?_, onward⟩
    simp only [List.forall_mem_cons]
    exact ⟨by decide, by decide, Scanner.small_of_isHex first, Scanner.small_of_isHex second,
      Scanner.small_of_isHex third, Scanner.small_of_isHex fourth, nofun⟩

theorem small_shortEscape {b : UInt8} (letter : isShortEscape b = true) : shortEscape b < 0x80 := by
  have small := Scanner.small_of_isShortEscape letter
  unfold shortEscape
  grind

theorem legible_unescapeOnto {raw before bytes : Bytes} (quotable : Quotable raw)
    (read : unescapeOnto before raw = some bytes) : ∃ after, bytes = before.reverse ++ after ∧
      ∀ front, Utf8.Legible (front ++ after) → Utf8.Legible (front ++ raw) := by
  fun_induction unescapeOnto before raw with
  | case1 before a b c d u leading e f g h rest v trailing char ih =>
    clear_value char
    obtain ⟨first, further⟩ := quotable_unicode quotable
    obtain ⟨second, quotable⟩ := quotable_unicode further
    obtain ⟨after, rfl, onward⟩ := ih quotable read
    exact ⟨String.utf8EncodeChar char ++ after, by simp, fun front =>
      legible_escaped (first.append second) onward⟩
  | case2 | case3 | case4 => cases read
  | case5 before a b c d rest u lonely single ih =>
    obtain ⟨small, quotable⟩ := quotable_unicode quotable
    obtain ⟨after, rfl, onward⟩ := ih quotable read
    exact ⟨String.utf8EncodeChar (Char.ofNat u) ++ after, by simp, fun front =>
      legible_escaped small onward⟩
  | case6 before b rest other ih =>
    cases quotable with
    | plain printable quote escape => exact absurd rfl escape
    | unicode => exact (other _ _ _ _ _ rfl rfl).elim
    | short letter quotable =>
      obtain ⟨after, rfl, onward⟩ := ih quotable read
      obtain ⟨char, encoded⟩ := Utf8.exists_char (b := shortEscape b) (small_shortEscape letter)
      have small : Utf8.Legible [0x5C, b] := Utf8.legible_of_small (List.forall_mem_cons.2
        ⟨by decide, List.forall_mem_singleton.2 (Scanner.small_of_isShortEscape letter)⟩)
      exact ⟨String.utf8EncodeChar char ++ after, by simp [encoded], fun front =>
        legible_escaped small onward⟩
  | case7 before b rest _ other ih =>
    cases quotable with
    | short => exact (other _ _ rfl rfl).elim
    | unicode => exact (other _ _ rfl rfl).elim
    | plain printable quote escape quotable =>
      obtain ⟨after, rfl, onward⟩ := ih quotable read
      refine ⟨b :: after, by simp, fun front spelled => ?_⟩
      rw [List.append_cons] at spelled ⊢
      exact onward _ spelled
  | case8 before =>
    obtain rfl := Option.some.inj read
    exact ⟨[], (List.append_nil _).symm, fun _ => id⟩

theorem Quotable.legible {raw : Bytes} (quotable : Quotable raw) (read : (unescape? raw).isSome) :
    Utf8.Legible raw := by
  unfold unescape? at read
  cases unescaped : unescapeOnto [] raw with
  | none => simp [unescaped] at read
  | some bytes =>
    obtain ⟨after, rfl, onward⟩ := legible_unescapeOnto quotable unescaped
    refine onward [] ?_
    simpa [unescaped, Utf8.Legible] using read

end AuditTrail.Json
