import AuditTrail.Json.Text
import AuditTrail.Log.Startup

/-! Events as lines of the log. -/
namespace AuditTrail

def Level.tag : Level → String
  | .trace => "TRACE"
  | .debug => "DEBUG"
  | .info => "INFO"
  | .warn => "WARN"
  | .error => "ERROR"

namespace Value

def toJson : Value → Json
  | .text s => .ofString s
  | .number n => .ofInt n

def shown : Value → String
  | .text s => s
  | .number n => toString n

end Value

namespace Log

def member (name : String) (value : Json) : Bytes × Json := (Json.escape name, value)

def line (e : Event) : Format → Bytes
  | .json => Json.render (.object [member "level" (.ofString e.level.tag),
      member "target" (.ofString e.origin.target),
      member "fields" (.object (member "message" (.ofString e.message)
        :: e.fields.map fun (name, value) => member name value.toJson))])
  | .pretty => Utf8.encode (String.intercalate " " ([e.level.tag, e.origin.target, e.message]
      ++ e.fields.map fun (name, value) => name ++ "=" ++ value.shown))

end Log
end AuditTrail
