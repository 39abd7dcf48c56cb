import AuditTrail.Log.Filter

/-! Setting up the log: a format, and a filter that the environment may override. -/
namespace AuditTrail.Log

inductive Format where
  | json | pretty
  deriving DecidableEq, Repr

inductive Fault where
  | format (text : String)
  | level (text : String)
  | filter (text : String)
  deriving DecidableEq, Repr

def Fault.message : Fault → String
  | .format text => s!"unknown log format '{text}', expected 'json' or 'pretty'"
  | .level text => s!"invalid log level '{text}'"
  | .filter text => s!"invalid log filter '{text}': invalid filter directive"

def Format.ofText : String → Except Fault Format
  | "json" => .ok .json
  | "pretty" => .ok .pretty
  | text => .error (.format text)

/-- The text of the filter: that of the environment unless it is blank, else the level. -/
def filterText (level : String) (given : Option String) : Except Fault String :=
  match given.filter fun text => !(Unicode.trimChars text.toList).isEmpty with
  | some text => .ok text
  | none =>
    match Threshold.ofText? level with
    | some t => .ok (Filter.derived t)
    | none => .error (.level level)

structure Setup where
  format : Format
  text : String
  filter : Filter
  deriving DecidableEq, Repr

def setup (general : Config.General) (given : Option String) : Except Fault Setup := do
  let format ← Format.ofText general.logFormat
  let text ← filterText general.logLevel given
  match Filter.parse? text with
  | some filter => .ok ⟨format, text, filter⟩
  | none => .error (.filter text)

def Format.name : Format → String
  | .json => "Json"
  | .pretty => "Pretty"

def Setup.initialized (s : Setup) : Event :=
  ⟨.debug, .logging, "tracing initialized",
    [("format", .text s.format.name), ("filter", .text s.text)]⟩

end AuditTrail.Log
