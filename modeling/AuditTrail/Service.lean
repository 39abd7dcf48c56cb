import AuditTrail.Config.Load
import AuditTrail.Processor
import AuditTrail.StartupError

/-! The service: a processor built from a configuration, together with the directives that point an
inspection engine at its live log. `prepare` goes from the command line to a configuration. -/
namespace AuditTrail

structure Service (σ : Type) where
  config : Config
  processor : Processor σ
  engine : Directives

namespace Service

variable {σ : Type}

def version : String := "0.1.0"

def info (origin : Origin) (message : String) (fields : List (String × Value) := []) : Note :=
  .event ⟨.info, origin, message, fields⟩

/-- Sets up the configured metrics listener; `refused` is an error of the system. -/
def listen (refused : Option String) (m : Config.Metrics) : Except StartupError Unit × Journal :=
  if !m.enabled then (.ok (), [])
  else match Exporter.install refused m with
    | (.error fault, notes) => (.error (.metrics fault), notes)
    | (.ok (), notes) =>
      (.ok (), notes ++ [info .orchestrator "metrics endpoint enabled"
        [("port", .number m.port.toNat)]])

def assembled (s : Service σ) : Note :=
  info .orchestrator "audit output directives applied to engine configuration"
    [("path", .text s.processor.settings.path.display),
      ("directives", .number s.engine.lines.length)]

def ofProcessor (config : Config) (processor : Processor σ) : Service σ :=
  ⟨config, processor, processor.direct .empty⟩

def build (refused : Option String) (handler : Handler σ) (c : Config) :
    Except StartupError (Service σ) × Journal :=
  match c.validate with
  | .error e => (.error (.config e), [])
  | .ok () => match listen refused c.metrics with
    | (.error e, notes) => (.error e, notes)
    | (.ok (), notes) => match Processor.build c.settings handler with
      | .error failure => (.error (.build failure.toService), notes)
      | .ok processor =>
        let s := ofProcessor c processor
        (.ok s, notes ++ [s.assembled])

def started (p : Processor σ) : Note :=
  info .orchestrator "audit log processor started"
    [("path", .text p.settings.path.display), ("state", .text p.life.phase.name)]

def start (p : Processor σ) : Except StartupError Unit × Processor σ × Journal :=
  match p.startAll with
  | (.error failure, p, notes) => (.error (.job failure.toService), p, notes)
  | (.ok (), p, notes) => (.ok (), p, notes ++ [started p])

def stopping (deadline : Duration) : Note :=
  info .orchestrator "stopping audit log processor" [("deadline", .text deadline.brief)]

def starting (path : String) : Note :=
  info .daemon "wafaudit-daemon starting" [("version", .text version), ("config", .text path)]

def entering : Note := info .orchestrator "entering main loop"

def signalled (name : String) : Note :=
  info .orchestrator "shutdown signal received" [("signal", .text name)]

def ended : Note := info .daemon "wafaudit-daemon shut down"

/-! ### From the command line to a configuration -/

/-- What a valid command line asks for. -/
inductive Plan where
  | failed (cause : StartupError)
  | checked (path : String)
  | serve (path : String) (config : Config) (log : Log.Setup)

def prepare (line : CommandLine) (env : Environment) (content : Except IoError Bytes) : Plan :=
  let path := line.configPath
  match (Config.load env (.ofString path) content).1 with
  | .error e => .failed (.load e)
  | .ok config =>
    let config := config.applyCommandLine line
    match config.validate with
    | .error e => .failed (.config e)
    | .ok () =>
      if line.validate then .checked path
      else match Log.setup config.general (env.text? "RUST_LOG") with
        | .error fault => .failed (.log fault)
        | .ok log => .serve path config log

def complaint (e : StartupError) : String := s!"Error: {e.message}"

def approval (path : String) : String := s!"configuration OK: {path}"

/-- The answer to the version switch. -/
def versionLine : String := s!"wafaudit-daemon {version}"

/-- The exit status for invalid arguments. -/
def usageStatus : CommandLine.Refusal → Nat
  | .displayHelp | .displayVersion => 0
  | _ => 2

def usage : String := String.intercalate "\n" [
  "Usage: wafaudit-daemon [OPTIONS]",
  "",
  "Options:",
  "  -c, --config <CONFIG>          Path of the configuration file",
  s!"                                 [default: {CommandLine.defaultConfig}]",
  "      --log-level <LOG_LEVEL>    Log level (trace, debug, info, warn, error)",
  "      --log-format <LOG_FORMAT>  Log format (json, pretty)",
  "      --validate                 Check the configuration and exit",
  "  -h, --help                     Print this help",
  "  -V, --version                  Print the version"]

def reply : CommandLine.Refusal → String
  | .displayVersion => versionLine
  | _ => usage

end Service
end AuditTrail
