import AuditTrail.Json.Token

/-! JSON values, how they are written, and how bytes are read as one. `Json.read` returns the value
of a whole text. For a text that is not JSON it keeps the part before the first error with the open
brackets closed, so that a reader of the value can report an earlier fault of its own first. -/
namespace AuditTrail

/-- A string holds the bytes between its quotes and a number its spelling. An object keeps its members in the
order of the text, repeated names included. -/
inductive Json where
  | null
  | bool (value : Bool)
  | number (spelling : Bytes)
  | string (raw : Bytes)
  | array (elements : List Json)
  | object (members : List (Bytes × Json))
  deriving Repr

namespace Json

/-- An open bracket with its content so far, latest first; an object may hold the name of a member whose value
is still to come. -/
inductive Frame where
  | array (elements : List Json)
  | object (members : List (Bytes × Json)) (name : Option Bytes)
  deriving Repr

namespace Frame

def add (frame : Frame) (value : Json) : Frame :=
  match frame with
  | .array elements => .array (value :: elements)
  | .object members (some name) => .object ((name, value) :: members) none
  | .object members none => .object members none

def close : Frame → Json
  | .array elements => .array elements.reverse
  | .object members _ => .object members.reverse

end Frame

/-- What may come next in the text. -/
inductive Place where
  | value
  | elementOrEnd
  | nameOrEnd
  | name
  | colon
  | commaOrEnd
  | done (value : Json)
  | stopped (rest : Option Json)
  deriving Repr

/-- Open brackets, innermost first. -/
structure Builder where
  frames : List Frame
  place : Place
  deriving Repr

namespace Builder

def start : Builder := ⟨[], .value⟩

def push (frames : List Frame) (value : Json) : Builder :=
  match frames with
  | [] => ⟨[], .done value⟩
  | frame :: outer => ⟨frame.add value :: outer, .commaOrEnd⟩

/-- The value that results when all open brackets are closed at once. -/
def collapse : List Frame → Option Json
  | [] => none
  | frame :: outer => some (outer.foldl (fun value next => (next.add value).close) frame.close)

def stop (b : Builder) : Builder :=
  match b.place with
  | .done value => ⟨[], .stopped (some value)⟩
  | .stopped rest => ⟨[], .stopped rest⟩
  | _ => ⟨[], .stopped (collapse b.frames)⟩

def takeValue (b : Builder) (token : Token) : Builder :=
  match token with
  | .null => push b.frames .null
  | .bool value => push b.frames (.bool value)
  | .number spelling => push b.frames (.number spelling)
  | .string raw => push b.frames (.string raw)
  | .beginArray => ⟨.array [] :: b.frames, .elementOrEnd⟩
  | .beginObject => ⟨.object [] none :: b.frames, .nameOrEnd⟩
  | _ => b.stop

def feed (b : Builder) (token : Token) : Builder :=
  match b.place, b.frames, token with
  | .elementOrEnd, .array elements :: outer, .endArray => push outer (Frame.array elements).close
  | .elementOrEnd, _, token => takeValue b token
  | .value, _, token => takeValue b token
  | .nameOrEnd, .object members name :: outer, .endObject =>
    push outer (Frame.object members name).close
  | .nameOrEnd, .object members _ :: outer, .string raw =>
    ⟨.object members (some raw) :: outer, .colon⟩
  | .name, .object members _ :: outer, .string raw =>
    ⟨.object members (some raw) :: outer, .colon⟩
  | .colon, frames, .colon => ⟨frames, .value⟩
  | .commaOrEnd, .array elements :: outer, .comma => ⟨.array elements :: outer, .value⟩
  | .commaOrEnd, .array elements :: outer, .endArray => push outer (Frame.array elements).close
  | .commaOrEnd, .object members name :: outer, .comma => ⟨.object members name :: outer, .name⟩
  | .commaOrEnd, .object members name :: outer, .endObject =>
    push outer (Frame.object members name).close
  | _, _, _ => b.stop

end Builder

inductive Reading where
  | whole (value : Json)
  | cut (before : Option Json)
  deriving Repr

def Builder.finish (b : Builder) : Reading :=
  match b.place with
  | .done value => .whole value
  | .stopped rest => .cut rest
  | _ => .cut (collapse b.frames)

def read (bytes : Bytes) : Reading :=
  ((Token.scan bytes).foldl Builder.feed Builder.start).finish

mutual

def render : Json → Bytes
  | .null => [0x6E, 0x75, 0x6C, 0x6C]
  | .bool true => [0x74, 0x72, 0x75, 0x65]
  | .bool false => [0x66, 0x61, 0x6C, 0x73, 0x65]
  | .number spelling => spelling
  | .string raw => 0x22 :: raw ++ [0x22]
  | .array elements => 0x5B :: renderElements elements ++ [0x5D]
  | .object members => 0x7B :: renderMembers members ++ [0x7D]

def renderElements : List Json → Bytes
  | [] => []
  | [value] => render value
  | value :: rest => render value ++ 0x2C :: renderElements rest

def renderMembers : List (Bytes × Json) → Bytes
  | [] => []
  | [(name, value)] => 0x22 :: name ++ 0x22 :: 0x3A :: render value
  | (name, value) :: rest => 0x22 :: name ++ 0x22 :: 0x3A :: render value ++ 0x2C :: renderMembers rest

end

def isNull : Json → Bool
  | .null => true
  | _ => false

end Json
end AuditTrail
