import AuditTrail.Handler
import AuditTrail.Source

/-! Reading the records of a backup and giving them to a handler. Blank lines are skipped. A line
that is too long, cannot be parsed or is refused by the handler counts as failed, and reading goes
on; a failure of the reader ends it. -/
namespace AuditTrail

structure Summary where
  processed : Nat
  blank : Nat
  deriving DecidableEq, Repr

/-- A file being read; the notes are kept latest first. -/
structure Dispatch (σ : Type) where
  state : σ
  number : Nat := 0
  processed : Nat := 0
  blank : Nat := 0
  failed : Nat := 0
  notes : Journal := []

namespace Dispatch

def isBlank (b : UInt8) : Bool := b == 0x20 || b == 0x09 || b == 0x0A || b == 0x0C || b == 0x0D

def trim (line : Bytes) : Bytes := ((line.dropWhile isBlank).reverse.dropWhile isBlank).reverse

/-- The kind of a line, before any handler sees it. -/
inductive Reading where
  | oversize
  | blank
  | fault (cause : Record.Fault)
  | record (r : Record)

def Reading.ofLine : Line → Reading
  | .oversize => .oversize
  | .text content =>
    let content := trim content
    if content.isEmpty then .blank
    else match Record.parse content with
      | .ok r => .record r
      | .error cause => .fault cause

def oversizeEvent (path : Path) (number limit : Nat) : Event :=
  ⟨.warn, .parser, "audit log line exceeds maximum length, skipping",
    [("path", .text path.display), ("line", .number number), ("max_line_bytes", .number limit)]⟩

def failureEvent (path : Path) (number : Nat) (failure : Failure) : Event :=
  ⟨.warn, .parser, "failed to process audit log line, skipping",
    [("path", .text path.display), ("line", .number number), ("error", .text failure.message)]⟩

def note (d : Dispatch σ) (notes : Journal) : Dispatch σ :=
  { d with notes := notes.reverse ++ d.notes }

def fail (d : Dispatch σ) (event : Event) : Dispatch σ :=
  { d with failed := d.failed + 1 }.note [.count .linesFailed, .event event]

def take (handler : Handler σ) (path : Path) (limit : Nat) (d : Dispatch σ) (line : Line) :
    Dispatch σ :=
  let d := { d with number := d.number + 1 }
  match Reading.ofLine line with
  | .oversize => d.fail (oversizeEvent path d.number limit)
  | .blank => { d with blank := d.blank + 1 }
  | .fault cause => d.fail (failureEvent path d.number (.line d.number cause.reason))
  | .record r =>
    let reply := handler d.state r
    let d := { d with state := reply.state }.note reply.notes
    match reply.refusal with
    | none => { d with processed := d.processed + 1 }.note [.count .recordsProcessed]
    | some failure => d.fail (failureEvent path d.number failure)

def result (path : Path) (d : Dispatch σ) (ending : Option IoError) : Except Failure Summary :=
  match ending with
  | some cause => .error (.io s!"failed to read {path.display}" cause)
  | none =>
    if d.failed > 0 then .error (.records path d.failed d.processed)
    else .ok ⟨d.processed, d.blank⟩

def run (handler : Handler σ) (path : Path) (limit : Nat) (source : Source) (state : σ) :
    Except Failure Summary × σ × Journal :=
  let lines := Lines.read limit source
  let d := lines.lines.foldl (take handler path limit) { state := state }
  (d.result path lines.ending, d.state, d.notes.reverse)

end Dispatch
end AuditTrail
