import AuditTrail.Json.Layout
import AuditTrail.Record.Basic

/-! Records as JSON lines. `Record.parse` reads a line and `Record.line` writes one; empty messages
and an absent request or response are not written. -/
namespace AuditTrail
open Json (Layout Field Complaint expect)

inductive Record.Fault where
  | malformed
  | severity (unknown : Severity.Unknown)
  deriving DecidableEq, Repr

instance : Complaint Record.Fault := ⟨.malformed⟩

namespace Record.Wire

abbrev Read (α : Type) := Except Fault α

def int64? (value : Json) : Option Int64 :=
  value.integer?.bind fun n =>
    if -9223372036854775808 ≤ n ∧ n < 9223372036854775808 then some (Int64.ofInt n) else none

def text (name : String) (set : String → α → α) : Field Fault α :=
  (Field.text name set).orNull

def number (name : String) (set : Int64 → α → α) : Field Fault α :=
  Field.orNull ⟨name, fun value a => (expect (int64? value)).map (set · a)⟩

def texts : List Json → Read (List String)
  | [] => .ok []
  | value :: rest => do
    let head ← expect value.string?
    return head :: (← texts rest)

def textList : Json → Read (List String)
  | .array elements => texts elements
  | _ => .error .malformed

/-- A repeated header replaces the earlier one. -/
def headersFrom : List (Bytes × Json) → Headers → Read Headers
  | [], h => .ok h
  | (raw, value) :: rest, h => do
    let name ← expect (Json.unescape? raw)
    let values ← textList value
    headersFrom rest (h.insert name values)

def headers : Json → Read Headers
  | .object members => headersFrom members .empty
  | _ => .error .malformed

def headerField (set : Headers → α → α) : Field Fault α :=
  Field.orNull ⟨"headers", fun value a => (headers value).map (set · a)⟩

/-- A number up to 255 is a level and a string a name. -/
def severity : Json → Read Severity
  | .number spelling =>
    match Json.integerOf? spelling with
    | some (.ofNat n) =>
      if n < 256 then
        match Severity.ofLevel? n with
        | some s => .ok s
        | none => .error (.severity (.level n))
      else .error .malformed
    | _ => .error .malformed
  | .string raw =>
    match Json.unescape? raw with
    | some name =>
      match Severity.ofName name with
      | .ok s => .ok s
      | .error unknown => .error (.severity unknown)
    | none => .error .malformed
  | _ => .error .malformed

def requestLayout : Layout Fault Request := [
  text "method" fun s r => { r with method := s },
  text "protocol" fun s r => { r with protocol := s },
  text "uri" fun s r => { r with uri := s },
  text "http_version" fun s r => { r with httpVersion := s },
  headerField fun h r => { r with headers := h },
  text "body" fun s r => { r with body := s }]

def responseLayout : Layout Fault Response := [
  text "protocol" fun s r => { r with protocol := s },
  number "status" fun n r => { r with status := n },
  headerField fun h r => { r with headers := h },
  text "body" fun s r => { r with body := s }]

def transactionLayout : Layout Fault Transaction := [
  text "timestamp" fun s t => { t with timestamp := s },
  number "unix_timestamp" fun n t => { t with unixTimestamp := n },
  text "id" fun s t => { t with id := s },
  text "client_ip" fun s t => { t with clientIp := s },
  number "client_port" fun n t => { t with clientPort := n },
  text "host_ip" fun s t => { t with hostIp := s },
  number "host_port" fun n t => { t with hostPort := n },
  text "server_id" fun s t => { t with serverId := s },
  Field.orNull ⟨"request", fun value t =>
    (requestLayout.decode {} value).map fun r => { t with request := some r }⟩,
  Field.orNull ⟨"response", fun value t =>
    (responseLayout.decode {} value).map fun r => { t with response := some r }⟩]

def detailLayout : Layout Fault Detail := [
  text "file" fun s d => { d with file := s },
  number "line" fun n d => { d with line := n },
  number "id" fun n d => { d with id := n },
  text "rev" fun s d => { d with rev := s },
  text "msg" fun s d => { d with msg := s },
  text "data" fun s d => { d with data := s },
  Field.orNull ⟨"severity", fun value d => (severity value).map fun s => { d with severity := s }⟩,
  text "ver" fun s d => { d with ver := s },
  number "maturity" fun n d => { d with maturity := n },
  number "accuracy" fun n d => { d with accuracy := n },
  Field.orNull ⟨"tags", fun value d => (textList value).map fun tags => { d with tags := tags }⟩,
  text "raw" fun s d => { d with raw := s }]

def messageLayout : Layout Fault Message := [
  text "message" fun s m => { m with message := s },
  Field.orNull ⟨"data", fun value m =>
    (detailLayout.decode {} value).map fun d => { m with data := d }⟩]

def messageList : List Json → Read (List Message)
  | [] => .ok []
  | value :: rest => do
    let head ← messageLayout.decode {} value
    return head :: (← messageList rest)

def recordLayout : Layout Fault Record := [
  Field.orNull ⟨"transaction", fun value r =>
    (transactionLayout.decode {} value).map fun t => { r with transaction := t }⟩,
  Field.orNull ⟨"messages", fun value r =>
    match value with
    | .array elements => (messageList elements).map fun ms => { r with messages := ms }
    | _ => .error .malformed⟩]

def member (name : String) (value : Json) : Bytes × Json := (Json.escape name, value)

def textJson (name : String) (text : String) : Bytes × Json := member name (.ofString text)

def numberJson (name : String) (n : Int64) : Bytes × Json := member name (.ofInt n.toInt)

def listJson (values : List String) : Json := .array (values.map Json.ofString)

def headersJson (h : Headers) : Bytes × Json :=
  member "headers" (.object (h.entries.map fun (name, values) => member name (listJson values)))

def requestJson (r : Request) : Json := .object [
  textJson "method" r.method,
  textJson "protocol" r.protocol,
  textJson "uri" r.uri,
  textJson "http_version" r.httpVersion,
  headersJson r.headers,
  textJson "body" r.body]

def responseJson (r : Response) : Json := .object [
  textJson "protocol" r.protocol,
  numberJson "status" r.status,
  headersJson r.headers,
  textJson "body" r.body]

def transactionJson (t : Transaction) : Json := .object ([
  textJson "timestamp" t.timestamp,
  numberJson "unix_timestamp" t.unixTimestamp,
  textJson "id" t.id,
  textJson "client_ip" t.clientIp,
  numberJson "client_port" t.clientPort,
  textJson "host_ip" t.hostIp,
  numberJson "host_port" t.hostPort,
  textJson "server_id" t.serverId]
  ++ (t.request.map fun r => member "request" (requestJson r)).toList
  ++ (t.response.map fun r => member "response" (responseJson r)).toList)

def detailJson (d : Detail) : Json := .object [
  textJson "file" d.file,
  numberJson "line" d.line,
  numberJson "id" d.id,
  textJson "rev" d.rev,
  textJson "msg" d.msg,
  textJson "data" d.data,
  textJson "severity" d.severity.name,
  textJson "ver" d.ver,
  numberJson "maturity" d.maturity,
  numberJson "accuracy" d.accuracy,
  member "tags" (listJson d.tags),
  textJson "raw" d.raw]

def messageJson (m : Message) : Json := .object [
  textJson "message" m.message,
  member "data" (detailJson m.data)]

def recordJson (r : Record) : Json := .object (
  member "transaction" (transactionJson r.transaction)
  :: (if r.messages.isEmpty then [] else [member "messages" (.array (r.messages.map messageJson))]))

end Record.Wire

namespace Record

def ofJson (value : Json) : Except Fault Record := Wire.recordLayout.decode {} value

def parse (line : Bytes) : Except Fault Record := Json.decodeText ofJson line

def toJson (r : Record) : Json := Wire.recordJson r

def line (r : Record) : Bytes := r.toJson.render

end Record
end AuditTrail
