/-! The command line of the service. Options take a value, attached or as the next argument; switches
take none; nothing may be given twice and nothing else may stand there. -/
namespace AuditTrail

structure CommandLine where
  config : Option String := none
  logLevel : Option String := none
  logFormat : Option String := none
  validate : Bool := false
  deriving DecidableEq, Repr

namespace CommandLine

def defaultConfig : String := "/etc/wafaudit/wafaudit.toml"

def configPath (c : CommandLine) : String := c.config.getD defaultConfig

inductive Opt where
  | config | logLevel | logFormat
  deriving DecidableEq, Repr

inductive Switch where
  | validate | help | version
  deriving DecidableEq, Repr

/-- Why the program does not run, also for the help and version switches. -/
inductive Refusal where
  | invalidValue | unknownArgument | argumentConflict | tooManyValues | displayHelp | displayVersion
  deriving DecidableEq, Repr

inductive Name where
  | option (o : Opt)
  | switch (s : Switch)
  deriving DecidableEq, Repr

def Name.ofLong? : String → Option Name
  | "config" => some (.option .config)
  | "log-level" => some (.option .logLevel)
  | "log-format" => some (.option .logFormat)
  | "validate" => some (.switch .validate)
  | "help" => some (.switch .help)
  | "version" => some (.switch .version)
  | _ => none

def Name.ofShort? : Char → Option Name
  | 'c' => some (.option .config)
  | 'h' => some (.switch .help)
  | 'V' => some (.switch .version)
  | _ => none

def get? (c : CommandLine) : Opt → Option String
  | .config => c.config
  | .logLevel => c.logLevel
  | .logFormat => c.logFormat

def set (c : CommandLine) (value : String) : Opt → CommandLine
  | .config => { c with config := some value }
  | .logLevel => { c with logLevel := some value }
  | .logFormat => { c with logFormat := some value }

/-- An option that has been read, with its value if that was given. -/
structure Pending where
  option : Opt
  value : Option String
  deriving DecidableEq, Repr

structure Reader where
  line : CommandLine
  pending : Option Pending
  /-- Whether the mark that ends the options was read. -/
  ended : Bool
  deriving DecidableEq, Repr

namespace Reader

def start : Reader := ⟨{}, none, false⟩

def settleAs (line : CommandLine) (o : Opt) (value : String) : Except Refusal CommandLine :=
  if (line.get? o).isSome then .error .argumentConflict
  else if o = .config ∧ value.isEmpty then .error .invalidValue
  else .ok (line.set value o)

def settle (r : Reader) : Except Refusal Reader :=
  match r.pending with
  | none => .ok r
  | some ⟨_, none⟩ => .error .invalidValue
  | some ⟨o, some value⟩ => (settleAs r.line o value).map fun line => ⟨line, none, r.ended⟩

def takeSwitch (r : Reader) (s : Switch) : Except Refusal Reader := do
  let r ← r.settle
  match s with
  | .help => .error .displayHelp
  | .version => .error .displayVersion
  | .validate =>
    if r.line.validate then .error .argumentConflict
    else .ok { r with line := { r.line with validate := true } }

def takeOption (r : Reader) (o : Opt) (attached : Option String) : Except Refusal Reader := do
  let r ← r.settle
  match attached with
  | none => .ok { r with pending := some ⟨o, none⟩ }
  | some value => (settleAs r.line o value).map fun line => { r with line := line }

def takeLong (r : Reader) (arg : List Char) : Except Refusal Reader :=
  let name := String.ofList (arg.takeWhile (· ≠ '='))
  let attached := match arg.dropWhile (· ≠ '=') with
    | [] => none
    | _ :: value => some (String.ofList value)
  match Name.ofLong? name, attached with
  | none, _ => .error .unknownArgument
  | some (.switch _), some _ => .error .tooManyValues
  | some (.switch s), none => r.takeSwitch s
  | some (.option o), attached => r.takeOption o attached

/-- Letters after one dash: switches, up to an option that takes the rest as its value. -/
def takeShort (r : Reader) : List Char → Except Refusal Reader
  | [] => .ok r
  | c :: rest =>
    match Name.ofShort? c with
    | none => .error .unknownArgument
    | some (.switch s) => (r.takeSwitch s).bind fun r => takeShort r rest
    | some (.option o) =>
      match rest with
      | [] => r.takeOption o none
      | '=' :: value => r.takeOption o (some (.ofList value))
      | value => r.takeOption o (some (.ofList value))

/-- An argument that is no option: the value of the option before it, if that needs one. -/
def takeValue (r : Reader) (arg : String) : Except Refusal Reader :=
  match r.pending with
  | some ⟨o, none⟩ => .ok { r with pending := some ⟨o, some arg⟩ }
  | _ => .error .unknownArgument

def take (r : Reader) (arg : String) : Except Refusal Reader :=
  if r.ended then .error .unknownArgument
  else match arg.toList with
    | ['-', '-'] => .ok { r with ended := true }
    | '-' :: '-' :: long => r.takeLong long
    | '-' :: c :: short => r.takeShort (c :: short)
    | _ => r.takeValue arg

end Reader

def parse (args : List String) : Except Refusal CommandLine := do
  let r ← args.foldlM Reader.take Reader.start
  return (← r.settle).line

end CommandLine
end AuditTrail
