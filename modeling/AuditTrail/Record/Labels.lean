import AuditTrail.Record.Basic
import AuditTrail.Uri.Target

/-! The labels under which records are counted. -/
namespace AuditTrail

structure Labels where
  method : String
  host : String
  path : String
  deriving DecidableEq, Repr

def Labels.unknown : String := "unknown"

namespace Record

/-- The labels of a record. Without a readable address the method is kept. -/
def labels (r : Record) : Labels :=
  match r.transaction.request with
  | none => ⟨Labels.unknown, Labels.unknown, Labels.unknown⟩
  | some request =>
    match Uri.target? request.uri with
    | some target => ⟨request.method, target.host, target.path⟩
    | none => ⟨request.method, Labels.unknown, Labels.unknown⟩

def statusLabel (r : Record) : String :=
  match r.transaction.response with
  | some response => toString response.status.toInt
  | none => Labels.unknown

end Record
end AuditTrail
