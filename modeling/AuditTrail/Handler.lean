import AuditTrail.Failure
import AuditTrail.Journal
import AuditTrail.Unicode.Quoted

/-! Handlers take records one at a time. A handler has a state of its own, may refuse a record, and
notes what it does. -/
namespace AuditTrail

structure Reply (σ : Type) where
  refusal : Option Failure
  state : σ
  notes : Journal

abbrev Handler (σ : Type) := σ → Record → Reply σ

namespace Violations

def describe (m : Message) : String :=
  s!"rule_id={m.data.ruleId} message={Unicode.quoted m.data.msg}"

def event (r : Record) : Event :=
  let t := r.transaction
  let request := match t.request with
    | none => []
    | some q => [("method", .text q.method), ("uri", .text q.uri), ("protocol", .text q.protocol)]
  ⟨.warn, .handler, "rule violations",
    [("id", .text t.id), ("client_ip", .text t.clientIp)] ++ request
      ++ [("rules", .text (String.intercalate ", " (r.messages.map describe)))]⟩

def seen (r : Record) : Event :=
  ⟨.debug, .handler, "processing audit record",
    [("id", .text r.transaction.id), ("messages", .number r.messages.length)]⟩

/-- A record with messages is logged once and counted once as a transaction, and once for each message. -/
def notes (r : Record) : Journal :=
  .event (seen r) :: if r.hasViolations then
    .event (event r) :: .count (.transactions r.labels r.statusLabel)
      :: r.messages.map fun m => .count (.ruleViolations r.labels m.data.ruleId)
  else []

def handler : Handler σ := fun state r => ⟨none, state, notes r⟩

end Violations

namespace Collecting

/-- The handler that collects transaction ids, latest first, and refuses those in a list. -/
def handler (refused : List String) : Handler (List String) := fun ids r =>
  let id := r.transaction.id
  if refused.contains id then ⟨some (.handler s!"rejected {id}"), ids, []⟩
  else ⟨none, id :: ids, []⟩

end Collecting
end AuditTrail
