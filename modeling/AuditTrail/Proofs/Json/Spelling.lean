import AuditTrail.Json.Basic
import Mathlib.Data.List.Basic

/-! The grammar of JSON text. `Spells` relates a value to every text for it, with white space
wherever it may stand and without a bound on size or depth; `read_of_spells` says that the
reader finds the value. Strings may hold any bytes but control characters, also bytes that are
not UTF-8. -/
namespace AuditTrail.Json

open Scanner (isBlank isHex isShortEscape)

def Blank (bytes : Bytes) : Prop := ∀ b ∈ bytes, isBlank b = true

def Figures (bytes : Bytes) : Prop := bytes ≠ [] ∧ ∀ b ∈ bytes, Number.isDigit b = true

/-- The spelling of a number: sign, whole part without leading zeros, fraction and exponent. -/
structure Numeral (sign whole fraction power : Bytes) : Prop where
  sign : sign = [] ∨ sign = [0x2D]
  whole : whole = [0x30] ∨ Figures whole ∧ whole.head? ≠ some 0x30
  fraction : fraction = [] ∨ ∃ figures, Figures figures ∧ fraction = 0x2E :: figures
  power : power = [] ∨ ∃ mark sign figures, (mark = 0x65 ∨ mark = 0x45) ∧
    (sign = [] ∨ sign = [0x2B] ∨ sign = [0x2D]) ∧ Figures figures ∧ power = mark :: sign ++ figures

/-- What may stand between the quotes of a string. -/
inductive Quotable : Bytes → Prop where
  | nil : Quotable []
  | plain {b : UInt8} {rest : Bytes} (printable : 0x20 ≤ b) (quote : b ≠ 0x22) (escape : b ≠ 0x5C)
      (onward : Quotable rest) : Quotable (b :: rest)
  | short {b : UInt8} {rest : Bytes} (letter : isShortEscape b = true) (onward : Quotable rest) :
      Quotable (0x5C :: b :: rest)
  | unicode {a b c d : UInt8} {rest : Bytes} (first : isHex a = true) (second : isHex b = true)
      (third : isHex c = true) (fourth : isHex d = true) (onward : Quotable rest) :
      Quotable (0x5C :: 0x75 :: a :: b :: c :: d :: rest)

/-- The parts of a text: a value, with or without white space around it, and the items between brackets. -/
inductive Part where
  | value (v : Json)
  | text (v : Json)
  | elements (values : List Json)
  | member (raw : Bytes) (v : Json)
  | members (members : List (Bytes × Json))

inductive Spells : Part → Bytes → Prop where
  | null : Spells (.value .null) [0x6E, 0x75, 0x6C, 0x6C]
  | yes : Spells (.value (.bool true)) [0x74, 0x72, 0x75, 0x65]
  | no : Spells (.value (.bool false)) [0x66, 0x61, 0x6C, 0x73, 0x65]
  | number {sign whole fraction power : Bytes} (numeral : Numeral sign whole fraction power) :
      Spells (.value (.number (sign ++ whole ++ fraction ++ power)))
        (sign ++ whole ++ fraction ++ power)
  | string {raw : Bytes} (quotable : Quotable raw) :
      Spells (.value (.string raw)) (0x22 :: raw ++ [0x22])
  | emptyArray {blank : Bytes} (white : Blank blank) :
      Spells (.value (.array [])) (0x5B :: blank ++ [0x5D])
  | array {values : List Json} {text : Bytes} (inside : Spells (.elements values) text) :
      Spells (.value (.array values)) (0x5B :: text ++ [0x5D])
  | emptyObject {blank : Bytes} (white : Blank blank) :
      Spells (.value (.object [])) (0x7B :: blank ++ [0x7D])
  | object {members : List (Bytes × Json)} {text : Bytes} (inside : Spells (.members members) text) :
      Spells (.value (.object members)) (0x7B :: text ++ [0x7D])
  | text {v : Json} {before text after : Bytes} (front : Blank before)
      (value : Spells (.value v) text) (back : Blank after) :
      Spells (.text v) (before ++ text ++ after)
  | lastElement {v : Json} {text : Bytes} (value : Spells (.text v) text) :
      Spells (.elements [v]) text
  | element {v : Json} {values : List Json} {text rest : Bytes} (value : Spells (.text v) text)
      (others : Spells (.elements values) rest) :
      Spells (.elements (v :: values)) (text ++ 0x2C :: rest)
  | member {raw before between text : Bytes} {v : Json} (front : Blank before)
      (quotable : Quotable raw) (middle : Blank between) (value : Spells (.text v) text) :
      Spells (.member raw v) (before ++ 0x22 :: raw ++ 0x22 :: between ++ 0x3A :: text)
  | lastMember {raw : Bytes} {v : Json} {text : Bytes} (one : Spells (.member raw v) text) :
      Spells (.members [(raw, v)]) text
  | oneMember {raw : Bytes} {v : Json} {members : List (Bytes × Json)} {text rest : Bytes}
      (one : Spells (.member raw v) text) (others : Spells (.members members) rest) :
      Spells (.members ((raw, v) :: members)) (text ++ 0x2C :: rest)

/-! ### Scanning -/

namespace Scanner

variable {s : Scanner} {done : List Token}

/-- The scanner has read the tokens `done`, latest first. A number counts as soon as it may end. -/
inductive Behind (done : List Token) : Scanner → Prop where
  | between : Behind done ⟨.between, done⟩
  | number {phase : Number} {read : Bytes} {earlier : List Token} (complete : phase.isComplete = true)
      (last : done = .number read.reverse :: earlier) : Behind done ⟨.number phase read, earlier⟩

def Parts (b : UInt8) : Prop := isBlank b = true ∨ b = 0x2C ∨ b = 0x5D ∨ b = 0x7D

theorem Parts.next? {b : UInt8} (parts : Parts b) {phase : Number}
    (complete : phase.isComplete = true) : phase.next? b = none := by
  have bytes : b = 0x20 ∨ b = 0x09 ∨ b = 0x0A ∨ b = 0x0D ∨ b = 0x2C ∨ b = 0x5D ∨ b = 0x7D := by
    rcases parts with blank | rest
    · simpa [isBlank, or_assoc] using Or.inl (b := b = 0x2C ∨ b = 0x5D ∨ b = 0x7D) blank
    · exact .inr (.inr (.inr (.inr rest)))
  revert complete
  rcases bytes with rfl | rfl | rfl | rfl | rfl | rfl | rfl <;> cases phase <;> decide

theorem Behind.feed {b : UInt8} (behind : Behind done s) (parts : Parts b) :
    s.feed b = first done b := by
  cases behind with
  | between => rfl
  | number complete last => simp only [Scanner.feed, parts.next? complete, complete, if_true, last]

theorem Behind.blank {blank : Bytes} (behind : Behind done s) (white : Blank blank) :
    Behind done (blank.foldl Scanner.feed s) := by
  induction blank generalizing s with
  | nil => exact behind
  | cons b rest ih =>
    obtain ⟨here, later⟩ := List.forall_mem_cons.1 white
    refine ih ?_ later
    rw [behind.feed (.inl here), first, if_pos here]
    exact .between

theorem Behind.finish (behind : Behind done s) : s.finish = done.reverse := by
  cases behind with
  | between => rfl
  | number complete last => simp [Scanner.finish, complete, last]

theorem foldl_blank {blank : Bytes} (white : Blank blank) :
    blank.foldl feed ⟨.between, done⟩ = ⟨.between, done⟩ := by
  induction blank with
  | nil => rfl
  | cons b rest ih =>
    obtain ⟨here, later⟩ := List.forall_mem_cons.1 white
    rw [List.foldl_cons, feed, first, if_pos here]
    exact ih later

theorem foldl_quotable {raw : Bytes} (quotable : Quotable raw) (read : Bytes) :
    raw.foldl feed ⟨.text read, done⟩ = ⟨.text (raw.reverse ++ read), done⟩ := by
  induction quotable generalizing read with
  | nil => rfl
  | plain printable quote escape _ ih =>
    have visible : ¬ _ < (0x20 : UInt8) := UInt8.not_lt.2 printable
    simp only [List.foldl_cons, feed, if_neg quote, if_neg escape, if_neg visible, ih,
      List.reverse_cons, List.append_assoc, List.singleton_append]
  | @short b rest letter _ ih =>
    have opened : feed ⟨.text read, done⟩ 0x5C = ⟨.escape (0x5C :: read), done⟩ := rfl
    have closed : feed ⟨.escape (0x5C :: read), done⟩ b = ⟨.text (b :: 0x5C :: read), done⟩ := by
      simp only [feed, letter, if_true]
    rw [List.foldl_cons, opened, List.foldl_cons, closed, ih]
    simp
  | @unicode a b c d rest first second third fourth _ ih =>
    have opened : feed (feed ⟨.text read, done⟩ 0x5C) 0x75 =
        ⟨.unicode 4 (0x75 :: 0x5C :: read), done⟩ := rfl
    have digits : feed (feed (feed (feed ⟨.unicode 4 (0x75 :: 0x5C :: read), done⟩ a) b) c) d =
        ⟨.text (d :: c :: b :: a :: 0x75 :: 0x5C :: read), done⟩ := by
      simp [feed, first, second, third, fourth]
    simp only [List.foldl_cons]
    rw [opened, digits, ih]
    simp

theorem foldl_string {raw : Bytes} (quotable : Quotable raw) :
    (0x22 :: raw ++ [0x22]).foldl feed ⟨.between, done⟩ = ⟨.between, .string raw :: done⟩ := by
  have opened : feed ⟨.between, done⟩ 0x22 = ⟨.text [], done⟩ := rfl
  rw [List.cons_append, List.foldl_cons, opened, List.foldl_append, foldl_quotable quotable,
    List.append_nil]
  show feed ⟨.text raw.reverse, done⟩ 0x22 = _
  simp [feed]

theorem foldl_digits {phase : Number} (steady : ∀ b, Number.isDigit b = true → phase.next? b = some phase)
    {figures : Bytes} (all : ∀ b ∈ figures, Number.isDigit b = true) (read : Bytes) :
    figures.foldl feed ⟨.number phase read, done⟩ =
      ⟨.number phase (figures.reverse ++ read), done⟩ := by
  induction figures generalizing read with
  | nil => rfl
  | cons b rest ih =>
    obtain ⟨here, later⟩ := List.forall_mem_cons.1 all
    simp only [List.foldl_cons, feed, steady b here, ih later, List.reverse_cons, List.append_assoc,
      List.singleton_append]

theorem foldl_figures (phase next : Number)
    (enters : ∀ b, Number.isDigit b = true → phase.next? b = some next)
    (steady : ∀ b, Number.isDigit b = true → next.next? b = some next)
    {figures : Bytes} (is : Figures figures) (read : Bytes) :
    figures.foldl feed ⟨.number phase read, done⟩ =
      ⟨.number next (figures.reverse ++ read), done⟩ := by
  obtain ⟨some_, all⟩ := is
  cases figures with
  | nil => exact absurd rfl some_
  | cons b rest =>
    obtain ⟨here, later⟩ := List.forall_mem_cons.1 all
    have entered : feed ⟨.number phase read, done⟩ b = ⟨.number next (b :: read), done⟩ := by
      simp only [feed, enters b here]
    rw [List.foldl_cons, entered, foldl_digits steady later]
    simp

theorem first_digit {b : UInt8} (digit : Number.isDigit b = true) (positive : b ≠ 0x30) :
    first done b = ⟨.number .whole [b], done⟩ := by
  have bounds : 0x30 ≤ b ∧ b ≤ 0x39 := by simpa [Number.isDigit] using digit
  unfold first
  grind [isBlank]

theorem Figures.cons {b : UInt8} {rest : Bytes} (figures : Figures (b :: rest)) :
    Number.isDigit b = true ∧ ∀ d ∈ rest, Number.isDigit d = true :=
  List.forall_mem_cons.1 figures.2

theorem foldl_whole (done : List Token) {sign whole : Bytes} (signed : sign = [] ∨ sign = [0x2D])
    (is : whole = [0x30] ∨ Figures whole ∧ whole.head? ≠ some 0x30) :
    ∃ phase, (phase = .zero ∨ phase = .whole) ∧ (sign ++ whole).foldl feed ⟨.between, done⟩ =
      ⟨.number phase (sign ++ whole).reverse, done⟩ := by
  rcases is with rfl | ⟨figures, positive⟩
  · refine ⟨.zero, .inl rfl, ?_⟩
    rcases signed with rfl | rfl <;> rfl
  refine ⟨.whole, .inr rfl, ?_⟩
  cases whole with
  | nil => exact absurd rfl figures.1
  | cons b rest =>
    obtain ⟨digit, later⟩ := Figures.cons figures
    have nonzero : b ≠ 0x30 := fun same => positive (same ▸ rfl)
    have steady : ∀ b, Number.isDigit b = true → Number.whole.next? b = some .whole :=
      fun b digit => if_pos digit
    rcases signed with rfl | rfl
    · have entered : feed ⟨.between, done⟩ b = ⟨.number .whole [b], done⟩ := first_digit digit nonzero
      rw [List.nil_append, List.foldl_cons, entered, foldl_digits steady later]
      simp
    · have entered : feed (feed ⟨.between, done⟩ 0x2D) b = ⟨.number .whole [b, 0x2D], done⟩ := by
        show feed ⟨.number .minus [0x2D], done⟩ b = _
        simp [feed, Number.next?, nonzero, digit]
      rw [List.singleton_append, List.foldl_cons, List.foldl_cons, entered,
        foldl_digits steady later]
      simp

theorem foldl_fraction (done : List Token) {fraction : Bytes}
    (is : fraction = [] ∨ ∃ figures, Figures figures ∧ fraction = 0x2E :: figures)
    {phase : Number} (here : phase = .zero ∨ phase = .whole) (read : Bytes) :
    ∃ phase', (phase' = .zero ∨ phase' = .whole ∨ phase' = .fraction) ∧
      fraction.foldl feed ⟨.number phase read, done⟩ =
        ⟨.number phase' (fraction.reverse ++ read), done⟩ := by
  rcases is with rfl | ⟨figures, digits, rfl⟩
  · exact ⟨phase, here.imp_right .inl, rfl⟩
  refine ⟨.fraction, .inr (.inr rfl), ?_⟩
  have pointed : feed ⟨.number phase read, done⟩ 0x2E = ⟨.number .point (0x2E :: read), done⟩ := by
    rcases here with rfl | rfl <;> rfl
  rw [List.foldl_cons, pointed,
    foldl_figures .point .fraction (fun _ digit => if_pos digit)
      (fun _ digit => if_pos digit) digits]
  simp

theorem foldl_power (done : List Token) {power : Bytes}
    (is : power = [] ∨ ∃ mark sign figures, (mark = 0x65 ∨ mark = 0x45) ∧
      (sign = [] ∨ sign = [0x2B] ∨ sign = [0x2D]) ∧ Figures figures ∧
        power = mark :: sign ++ figures)
    {phase : Number} (here : phase = .zero ∨ phase = .whole ∨ phase = .fraction) (read : Bytes) :
    ∃ phase', phase'.isComplete = true ∧ power.foldl feed ⟨.number phase read, done⟩ =
      ⟨.number phase' (power.reverse ++ read), done⟩ := by
  rcases is with rfl | ⟨mark, sign, figures, marks, signs, digits, rfl⟩
  · refine ⟨phase, ?_, rfl⟩
    rcases here with rfl | rfl | rfl <;> rfl
  refine ⟨.power, rfl, ?_⟩
  have marked : feed ⟨.number phase read, done⟩ mark = ⟨.number .mark (mark :: read), done⟩ := by
    rcases marks with rfl | rfl <;> rcases here with rfl | rfl | rfl <;> rfl
  rw [List.cons_append, List.foldl_cons, marked, List.foldl_append]
  rcases signs with rfl | signed
  · rw [List.foldl_nil, foldl_figures .mark .power (fun _ digit => if_pos digit)
      (fun _ digit => if_pos digit) digits]
    simp
  · have noted : sign.foldl feed ⟨.number .mark (mark :: read), done⟩ =
        ⟨.number .sign (sign.reverse ++ mark :: read), done⟩ := by
      rcases signed with rfl | rfl <;> rfl
    rw [noted, foldl_figures .sign .power (fun _ digit => if_pos digit)
      (fun _ digit => if_pos digit) digits]
    simp

theorem behind_numeral {sign whole fraction power : Bytes}
    (numeral : Numeral sign whole fraction power) :
    Behind (.number (sign ++ whole ++ fraction ++ power) :: done)
      ((sign ++ whole ++ fraction ++ power).foldl feed ⟨.between, done⟩) := by
  obtain ⟨first, here, begun⟩ := foldl_whole done numeral.sign numeral.whole
  obtain ⟨second, there, divided⟩ := foldl_fraction done numeral.fraction here _
  obtain ⟨third, complete, raised⟩ := foldl_power done numeral.power there _
  rw [List.foldl_append, List.foldl_append, begun, divided, raised]
  exact .number complete (by simp)

end Scanner

/-! ### Building -/

namespace Part

/-- Reading the tokens of a part has the effect of that part in every builder that can take it. -/
def Builds (tokens : List Token) : Part → Prop
  | .value v | .text v => ∀ frames place, place = .value ∨ place = .elementOrEnd →
    tokens.foldl Builder.feed ⟨frames, place⟩ = Builder.push frames v
  | .elements vs => ∀ outer met place, place = .value ∨ place = .elementOrEnd →
    tokens.foldl Builder.feed ⟨.array met :: outer, place⟩ =
      ⟨.array (vs.reverse ++ met) :: outer, .commaOrEnd⟩
  | .member raw v => ∀ outer met place, place = .name ∨ place = .nameOrEnd →
    tokens.foldl Builder.feed ⟨.object met none :: outer, place⟩ =
      ⟨.object ((raw, v) :: met) none :: outer, .commaOrEnd⟩
  | .members ms => ∀ outer met place, place = .name ∨ place = .nameOrEnd →
    tokens.foldl Builder.feed ⟨.object met none :: outer, place⟩ =
      ⟨.object (ms.reverse ++ met) none :: outer, .commaOrEnd⟩

/-- The text is scanned into tokens that build the part. -/
def Read (p : Part) (text : Bytes) : Prop := ∃ tokens, p.Builds tokens ∧
  ∀ done, Scanner.Behind (tokens.reverse ++ done) (text.foldl Scanner.feed ⟨.between, done⟩)

end Part

namespace Builder

theorem feed_value (token : Token) (begins : token ≠ .endArray) (frames : List Frame)
    {place : Place} (here : place = .value ∨ place = .elementOrEnd) :
    feed ⟨frames, place⟩ token = takeValue ⟨frames, place⟩ token := by
  rcases here with rfl | rfl
  · rfl
  · cases frames with
    | nil => rfl
    | cons frame outer => cases frame <;> cases token <;> first | rfl | exact absurd rfl begins

end Builder

open Scanner (Behind)

theorem Part.Read.single {v : Json} {text : Bytes} (token : Token) (begins : token ≠ .endArray)
    (taken : ∀ b, Builder.takeValue b token = Builder.push b.frames v)
    (scanned : ∀ done, Behind (token :: done) (text.foldl Scanner.feed ⟨.between, done⟩)) :
    (Part.value v).Read text := by
  refine ⟨[token], fun frames place here => ?_, scanned⟩
  rw [List.foldl_cons, List.foldl_nil, Builder.feed_value token begins frames here, taken]

theorem Part.Read.comma {first rest both : Part} {text others : Bytes} (read : first.Read text)
    (onward : rest.Read others)
    (builds : ∀ tokens tokens', first.Builds tokens → rest.Builds tokens' →
      both.Builds (tokens ++ .comma :: tokens')) : both.Read (text ++ 0x2C :: others) := by
  obtain ⟨tokens, built, scanned⟩ := read
  obtain ⟨tokens', built', scanned'⟩ := onward
  refine ⟨tokens ++ .comma :: tokens', builds _ _ built built', fun done => ?_⟩
  have parted : Scanner.feed (text.foldl Scanner.feed ⟨.between, done⟩) 0x2C =
      ⟨.between, .comma :: (tokens.reverse ++ done)⟩ := (scanned done).feed (.inr (.inl rfl))
  rw [List.foldl_append, List.foldl_cons, parted]
  simpa using scanned' (.comma :: (tokens.reverse ++ done))

theorem Part.Read.bracket {v : Json} {text : Bytes} (tokens : List Token) {opens closes : UInt8}
    {opening closing : Token}
    (scanned : ∀ done, Behind (tokens.reverse ++ done) (text.foldl Scanner.feed ⟨.between, done⟩))
    (opened : ∀ done, Scanner.first done opens = ⟨.between, opening :: done⟩)
    (closed : ∀ done, Scanner.first done closes = ⟨.between, closing :: done⟩)
    (parts : Scanner.Parts closes) (builds : (Part.value v).Builds (opening :: tokens ++ [closing])) :
    (Part.value v).Read (opens :: text ++ [closes]) := by
  refine ⟨opening :: tokens ++ [closing], builds, fun done => ?_⟩
  have entered : Scanner.feed ⟨.between, done⟩ opens = ⟨.between, opening :: done⟩ := opened done
  have left : Scanner.feed (text.foldl Scanner.feed ⟨.between, opening :: done⟩) closes =
      ⟨.between, closing :: (tokens.reverse ++ opening :: done)⟩ :=
    ((scanned _).feed parts).trans (closed _)
  simp only [List.cons_append, List.foldl_cons, entered, List.foldl_append, left, List.foldl_nil]
  simpa using Behind.between

theorem Spells.read {p : Part} {text : Bytes} (spells : Spells p text) : p.Read text := by
  -- Each case gives the tokens, their effect on the builder, and that the scanner finds them.
  induction spells with
  | null => exact .single .null nofun (fun _ => rfl) fun _ => .between
  | yes => exact .single (.bool true) nofun (fun _ => rfl) fun _ => .between
  | no => exact .single (.bool false) nofun (fun _ => rfl) fun _ => .between
  | number numeral =>
    exact .single (.number _) nofun (fun _ => rfl) fun _ => Scanner.behind_numeral numeral
  | string quotable =>
    refine .single (.string _) nofun (fun _ => rfl) fun done => ?_
    rw [Scanner.foldl_string quotable]
    exact .between
  | emptyArray white =>
    refine .bracket [] (fun done => Behind.between.blank white) (fun _ => rfl) (fun _ => rfl)
      (.inr (.inr (.inl rfl))) fun frames place here => ?_
    rw [List.cons_append, List.foldl_cons, Builder.feed_value .beginArray nofun frames here]
    rfl
  | array inside ih =>
    obtain ⟨tokens, built, scanned⟩ := ih
    refine .bracket tokens scanned (fun _ => rfl) (fun _ => rfl) (.inr (.inr (.inl rfl)))
      fun frames place here => ?_
    have elements := built frames [] .elementOrEnd (.inr rfl)
    rw [List.cons_append, List.foldl_cons, Builder.feed_value .beginArray nofun frames here,
      List.foldl_append, Builder.takeValue, elements]
    simp [Builder.feed, Frame.close]
  | emptyObject white =>
    refine .bracket [] (fun done => Behind.between.blank white) (fun _ => rfl) (fun _ => rfl)
      (.inr (.inr (.inr rfl))) fun frames place here => ?_
    rw [List.cons_append, List.foldl_cons, Builder.feed_value .beginObject nofun frames here]
    rfl
  | object inside ih =>
    obtain ⟨tokens, built, scanned⟩ := ih
    refine .bracket tokens scanned (fun _ => rfl) (fun _ => rfl) (.inr (.inr (.inr rfl)))
      fun frames place here => ?_
    have members := built frames [] .nameOrEnd (.inr rfl)
    rw [List.cons_append, List.foldl_cons, Builder.feed_value .beginObject nofun frames here,
      List.foldl_append, Builder.takeValue, members]
    simp [Builder.feed, Frame.close]
  | text front value back ih =>
    obtain ⟨tokens, built, scanned⟩ := ih
    refine ⟨tokens, built, fun done => ?_⟩
    rw [List.foldl_append, List.foldl_append, Scanner.foldl_blank front]
    exact (scanned done).blank back
  | lastElement value ih =>
    obtain ⟨tokens, built, scanned⟩ := ih
    exact ⟨tokens, fun outer met place here => built (.array met :: outer) place here, scanned⟩
  | element value others ih ih' =>
    refine ih.comma ih' fun tokens tokens' built built' outer met place here => ?_
    rw [List.foldl_append, List.foldl_cons, built (.array met :: outer) place here]
    refine (built' outer (_ :: met) .value (.inl rfl)).trans ?_
    simp
  | @member raw before between text v front quotable middle value ih =>
    obtain ⟨tokens, built, scanned⟩ := ih
    refine ⟨.string raw :: .colon :: tokens, fun outer met place here => ?_, fun done => ?_⟩
    · have named : Builder.feed ⟨.object met none :: outer, place⟩ (.string raw) =
          ⟨.object met (some raw) :: outer, .colon⟩ := by rcases here with rfl | rfl <;> rfl
      rw [List.foldl_cons, named, List.foldl_cons]
      exact built (.object met (some raw) :: outer) .value (.inl rfl)
    · have quoted : before ++ 0x22 :: raw ++ 0x22 :: between ++ 0x3A :: text =
          before ++ ((0x22 :: raw ++ [0x22]) ++ (between ++ 0x3A :: text)) := by simp
      have parted : Scanner.feed ⟨.between, .string raw :: done⟩ 0x3A =
          ⟨.between, .colon :: .string raw :: done⟩ := rfl
      rw [quoted, List.foldl_append, Scanner.foldl_blank front, List.foldl_append,
        Scanner.foldl_string quotable, List.foldl_append, Scanner.foldl_blank middle,
        List.foldl_cons, parted]
      simpa using scanned (.colon :: .string raw :: done)
  | lastMember one ih => exact ih
  | oneMember one others ih ih' =>
    refine ih.comma ih' fun tokens tokens' built built' outer met place here => ?_
    rw [List.foldl_append, List.foldl_cons, built outer met place here]
    refine (built' outer (_ :: met) .name (.inl rfl)).trans ?_
    simp

/-- A text that spells a value is read as that value. -/
theorem read_of_spells {v : Json} {text : Bytes} (spells : Spells (.text v) text) :
    read text = .whole v := by
  obtain ⟨tokens, built, scanned⟩ := spells.read
  have tokens_eq : Token.scan text = tokens := by
    have finished := (scanned []).finish
    rwa [List.append_nil, List.reverse_reverse] at finished
  rw [Json.read, tokens_eq, Builder.start, built [] .value (.inl rfl)]
  rfl

/-! ### Writing -/

/-- Strings that may stand between quotes, and numbers with the spelling of a number. -/
inductive Proper : Json → Prop where
  | null : Proper .null
  | bool (value : Bool) : Proper (.bool value)
  | number {sign whole fraction power : Bytes} (numeral : Numeral sign whole fraction power) :
      Proper (.number (sign ++ whole ++ fraction ++ power))
  | string {raw : Bytes} (quotable : Quotable raw) : Proper (.string raw)
  | array {values : List Json} (each : ∀ v ∈ values, Proper v) : Proper (.array values)
  | object {members : List (Bytes × Json)} (names : ∀ m ∈ members, Quotable m.1)
      (each : ∀ m ∈ members, Proper m.2) : Proper (.object members)

theorem blank_nil : Blank [] := nofun

theorem Spells.bare {v : Json} {text : Bytes} (value : Spells (.value v) text) :
    Spells (.text v) text := by
  simpa using Spells.text blank_nil value blank_nil

theorem Spells.named {raw text : Bytes} {v : Json} (quotable : Quotable raw)
    (value : Spells (.value v) text) :
    Spells (.member raw v) (0x22 :: raw ++ 0x22 :: 0x3A :: text) := by
  simpa using Spells.member blank_nil quotable blank_nil value.bare

theorem spells_renderElements {v : Json} {values : List Json}
    (each : ∀ u ∈ v :: values, Spells (.value u) u.render) :
    Spells (.elements (v :: values)) (renderElements (v :: values)) := by
  induction values generalizing v with
  | nil => exact .lastElement (each v List.mem_cons_self).bare
  | cons u rest ih =>
    obtain ⟨here, later⟩ := List.forall_mem_cons.1 each
    exact .element here.bare (ih later)

theorem spells_renderMembers {m : Bytes × Json} {members : List (Bytes × Json)}
    (names : ∀ n ∈ m :: members, Quotable n.1)
    (each : ∀ n ∈ m :: members, Spells (.value n.2) n.2.render) :
    Spells (.members (m :: members)) (renderMembers (m :: members)) := by
  induction members generalizing m with
  | nil => exact .lastMember (.named (names m List.mem_cons_self) (each m List.mem_cons_self))
  | cons n rest ih =>
    obtain ⟨name, names'⟩ := List.forall_mem_cons.1 names
    obtain ⟨here, later⟩ := List.forall_mem_cons.1 each
    have one := Spells.oneMember (.named name here) (ih names' later)
    simpa [renderMembers] using one

theorem Proper.spells {v : Json} (proper : v.Proper) : Spells (.value v) v.render := by
  induction proper with
  | null => exact .null
  | bool value => cases value with
    | true => exact .yes
    | false => exact .no
  | number numeral => exact .number numeral
  | string quotable => exact .string quotable
  | @array values _ ih => cases values with
    | nil => exact .emptyArray blank_nil
    | cons v rest => exact .array (spells_renderElements ih)
  | @object members names _ ih => cases members with
    | nil => exact .emptyObject blank_nil
    | cons m rest => exact .object (spells_renderMembers names ih)

/-- Reading a rendered value gives the value back. -/
theorem read_render {v : Json} (proper : v.Proper) : read v.render = .whole v :=
  read_of_spells proper.spells.bare

theorem printable_of_all {bytes : Bytes} (all : bytes.all (decide <| 0x20 ≤ ·) = true) :
    ∀ b ∈ bytes, 0x20 ≤ b := by
  simpa using all

theorem Quotable.printable {raw : Bytes} (quotable : Quotable raw) : ∀ b ∈ raw, 0x20 ≤ b := by
  have hex : ∀ b : UInt8, isHex b = true → 0x20 ≤ b := by
    intro b is
    simp only [isHex, Number.isDigit, Bool.or_eq_true, Bool.and_eq_true, decide_eq_true_eq] at is
    grind
  have letter : ∀ b : UInt8, isShortEscape b = true → 0x20 ≤ b := by
    intro b is
    simp only [isShortEscape, Bool.or_eq_true, beq_iff_eq] at is
    grind
  induction quotable with
  | nil => exact nofun
  | plain printable _ _ _ ih => exact List.forall_mem_cons.2 ⟨printable, ih⟩
  | short is _ ih =>
    exact List.forall_mem_cons.2 ⟨by decide, List.forall_mem_cons.2 ⟨letter _ is, ih⟩⟩
  | unicode first second third fourth _ ih =>
    simp only [List.forall_mem_cons]
    exact ⟨by decide, by decide, hex _ first, hex _ second, hex _ third, hex _ fourth, ih⟩

theorem Numeral.printable {sign whole fraction power : Bytes}
    (numeral : Numeral sign whole fraction power) :
    ∀ b ∈ sign ++ whole ++ fraction ++ power, 0x20 ≤ b := by
  have digit : ∀ figures, Figures figures → ∀ b ∈ figures, 0x20 ≤ b := by
    intro figures is b member
    have bounds : 0x30 ≤ b ∧ b ≤ 0x39 := by simpa [Number.isDigit] using is.2 b member
    grind
  simp only [List.forall_mem_append]
  refine ⟨⟨⟨?_, ?_⟩, ?_⟩, ?_⟩
  · rcases numeral.sign with rfl | rfl <;> exact printable_of_all (by decide)
  · rcases numeral.whole with rfl | ⟨figures, -⟩
    · exact printable_of_all (by decide)
    · exact digit _ figures
  · rcases numeral.fraction with rfl | ⟨figures, is, rfl⟩
    · exact nofun
    · exact List.forall_mem_cons.2 ⟨by decide, digit _ is⟩
  · rcases numeral.power with rfl | ⟨mark, sign, figures, marks, signs, is, rfl⟩
    · exact nofun
    · refine List.forall_mem_cons.2 ⟨?_, List.forall_mem_append.2 ⟨?_, digit _ is⟩⟩
      · rcases marks with rfl | rfl <;> decide
      · rcases signs with rfl | rfl | rfl <;> exact printable_of_all (by decide)

theorem mem_renderElements {b : UInt8} {values : List Json} (member : b ∈ renderElements values) :
    b = 0x2C ∨ ∃ v ∈ values, b ∈ v.render := by
  induction values with
  | nil => cases member
  | cons v rest ih =>
    cases rest with
    | nil => exact .inr ⟨v, List.mem_cons_self, member⟩
    | cons u rest =>
      rw [renderElements, List.mem_append, List.mem_cons] at member
      · rcases member with here | comma | later
        · exact .inr ⟨v, List.mem_cons_self, here⟩
        · exact .inl comma
        · exact (ih later).imp_right fun ⟨w, among, inside⟩ =>
            ⟨w, List.mem_cons_of_mem _ among, inside⟩
      · exact nofun

theorem mem_renderMembers {b : UInt8} {members : List (Bytes × Json)}
    (member : b ∈ renderMembers members) :
    (b = 0x22 ∨ b = 0x3A ∨ b = 0x2C) ∨ ∃ m ∈ members, b ∈ m.1 ∨ b ∈ m.2.render := by
  induction members with
  | nil => cases member
  | cons m rest ih =>
    cases rest with
    | nil =>
      have bytes : b = 0x22 ∨ b ∈ m.1 ∨ b = 0x22 ∨ b = 0x3A ∨ b ∈ m.2.render := by
        simpa [renderMembers] using member
      grind
    | cons n rest =>
      have bytes : b = 0x22 ∨ b ∈ m.1 ∨ b = 0x22 ∨ b = 0x3A ∨ b ∈ m.2.render ∨ b = 0x2C ∨
          b ∈ renderMembers (n :: rest) := by
        simpa [renderMembers] using member
      grind

/-- A rendered value contains no control character, and so no newline. -/
theorem Proper.printable {v : Json} (proper : v.Proper) : ∀ b ∈ v.render, 0x20 ≤ b := by
  induction proper with
  | null => exact printable_of_all (by decide)
  | bool value => cases value <;> exact printable_of_all (by decide)
  | number numeral => exact numeral.printable
  | string quotable =>
    simp only [render, List.cons_append, List.forall_mem_cons, List.forall_mem_append]
    exact ⟨by decide, quotable.printable, by decide, nofun⟩
  | array _ ih =>
    simp only [render, List.cons_append, List.forall_mem_cons, List.forall_mem_append]
    refine ⟨by decide, fun b member => ?_, by decide, nofun⟩
    rcases mem_renderElements member with rfl | ⟨v, among, inside⟩
    · decide
    · exact ih v among b inside
  | object names _ ih =>
    simp only [render, List.cons_append, List.forall_mem_cons, List.forall_mem_append]
    refine ⟨by decide, fun b member => ?_, by decide, nofun⟩
    rcases mem_renderMembers member with (rfl | rfl | rfl) | ⟨m, among, inside⟩
    · decide
    · decide
    · decide
    · exact inside.elim ((names m among).printable b) (ih m among b)

end AuditTrail.Json
