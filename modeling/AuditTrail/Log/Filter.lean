import AuditTrail.Config.Environment
import AuditTrail.Unicode.Alphanumeric

/-! Filters for log events. A filter is a list of directives, each a level threshold for targets
with some prefix; the longest matching prefix decides. -/
namespace AuditTrail.Log

/-- The most verbose level that passes; none passes nothing. -/
abbrev Threshold := Option Level

namespace Threshold

def name : Threshold → String
  | none => "off"
  | some level => level.name

def ofNumber? : Nat → Option Threshold
  | 0 => some none
  | 1 => some (some .error)
  | 2 => some (some .warn)
  | 3 => some (some .info)
  | 4 => some (some .debug)
  | 5 => some (some .trace)
  | _ => none

def lower (c : Char) : Char := if 'A' ≤ c ∧ c ≤ 'Z' then Char.ofNat (c.toNat + 32) else c

/-- A number or a name, in either case; the empty text means errors only. -/
def ofText? (text : String) : Option Threshold :=
  ((Config.whole? UInt64.size text).bind ofNumber?).or
    (match String.ofList (text.toList.map lower) with
    | "" => some (some .error)
    | "error" => some (some .error)
    | "warn" => some (some .warn)
    | "info" => some (some .info)
    | "debug" => some (some .debug)
    | "trace" => some (some .trace)
    | "off" => some none
    | _ => none)

def passes (t : Threshold) (level : Level) : Bool :=
  match t with
  | none => false
  | some least => least ≤ level

def quiet (t : Threshold) : Threshold :=
  match t with
  | none => none
  | some level => if level ≤ .warn then some .warn else some level

end Threshold

/-- A threshold for targets that begin with `target`. A directive with a span selects nothing, as this service
has no spans. -/
structure Directive where
  target : String
  threshold : Threshold
  ofSpan : Bool
  deriving DecidableEq, Repr

namespace Directive

inductive Place where
  | start
  | levelOrTarget (read : List Char)
  | span (read : List Char)
  | field (read : List Char)
  | fields
  | afterTarget
  | level (read : List Char)
  deriving DecidableEq, Repr

structure Reader where
  place : Place
  target : List Char
  ofSpan : Bool
  deriving DecidableEq, Repr

def mayBegin (c : Char) : Bool := c == '-' || c == ':' || c == '_' || Unicode.isAlphanumeric c

/-- Reads on: `c` is the next character after leading blanks were dropped, `raw` the one at that place in the
whole text. -/
def Reader.feed (r : Reader) (c raw : Char) : Option Reader :=
  match r.place with
  | .start =>
    if c = '[' then some { r with place := .span [] }
    else if mayBegin c then some { r with place := .levelOrTarget [raw] }
    else none
  | .levelOrTarget read =>
    if c = '=' then some { r with place := .level [], target := read }
    else if c = '[' then some { r with place := .span [], target := read }
    else some { r with place := .levelOrTarget (raw :: read) }
  | .span read =>
    if c = ']' then some { r with place := .afterTarget, ofSpan := true }
    else if c = '{' then some { r with place := .field [], ofSpan := true }
    else some { r with place := .span (raw :: read) }
  | .field read =>
    if c = '}' then if read.isEmpty then none else some { r with place := .fields }
    else some { r with place := .field (raw :: read) }
  | .fields => if c = ']' then some { r with place := .afterTarget } else none
  | .afterTarget => if c = '=' then some { r with place := .level [] } else none
  | .level read => some { r with place := .level (raw :: read) }

def text (read : List Char) : String := .ofList read.reverse

def Reader.finish (r : Reader) (left : List Char) : Option Directive :=
  match r.place with
  | .levelOrTarget read =>
    let word := text read ++ .ofList left
    match Threshold.ofText? word with
    | some t => some ⟨"", t, r.ofSpan⟩
    | none => some ⟨word, some .trace, r.ofSpan⟩
  | .level read =>
    let word := text read ++ .ofList left
    if word.isEmpty then some ⟨text r.target, some .trace, r.ofSpan⟩
    else (Threshold.ofText? word).map fun t => ⟨text r.target, t, r.ofSpan⟩
  | .afterTarget => some ⟨text r.target, some .trace, r.ofSpan⟩
  | _ => none

def parse? (chars : List Char) : Option Directive :=
  let trimmed := Unicode.trimChars chars
  ((trimmed.zip chars).foldlM (fun r (c, raw) => Reader.feed r c raw) ⟨.start, [], false⟩).bind
    fun r => r.finish (chars.drop trimmed.length)

end Directive

abbrev Filter := List Directive

namespace Filter

/-- Directives are separated by commas and may be empty. A filter without directives lets errors pass. -/
def parse? (text : String) : Option Filter :=
  let parts := (text.toList.splitOn ',').filter (!·.isEmpty)
  if text.isEmpty then some [⟨"", some .error, false⟩]
  else (parts.mapM Directive.parse?).map fun ds =>
    if ds.isEmpty then [⟨"", some .error, false⟩] else ds

/-- Of two directives for one name the later wins, and longer names go first. -/
def better (target : String) (best : Option Directive) (d : Directive) : Option Directive :=
  if d.ofSpan || !d.target.toList.isPrefixOf target.toList then best
  else match best with
    | none => some d
    | some b => if b.target.utf8ByteSize ≤ d.target.utf8ByteSize then some d else best

def passes (f : Filter) (e : Event) : Bool :=
  match f.foldl (better e.origin.target) none with
  | none => false
  | some d => d.threshold.passes e.level

def ownTargets : List String := ["wafaudit_core", "wafaudit_log_processor", "wafaudit_daemon"]

def quietTargets : List String := ["metrics_exporter_prometheus", "hyper", "hyper_util"]

def derived (t : Threshold) : String :=
  String.intercalate "," (t.quiet.name :: ownTargets.map (fun n => s!"{n}={t.name}")
    ++ quietTargets.map fun n => s!"{n}=warn")

end Filter
end AuditTrail.Log
