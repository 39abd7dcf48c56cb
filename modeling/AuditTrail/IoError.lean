/-! Failures of reading and writing, by their kind, with the text that the system gives them. -/
namespace AuditTrail

inductive IoError.Kind where
  | notFound | permissionDenied | alreadyExists | notADirectory | isADirectory | directoryNotEmpty
  | invalidInput | invalidData | invalidFilename | filesystemLoop | inputOutput | interrupted | other
  deriving DecidableEq, Repr

structure IoError where
  kind : IoError.Kind
  text : String
  deriving DecidableEq, Repr

namespace IoError

def Kind.description : Kind → String
  | .notFound => "No such file or directory (os error 2)"
  | .interrupted => "Interrupted system call (os error 4)"
  | .inputOutput => "Input/output error (os error 5)"
  | .permissionDenied => "Permission denied (os error 13)"
  | .alreadyExists => "File exists (os error 17)"
  | .notADirectory => "Not a directory (os error 20)"
  | .isADirectory => "Is a directory (os error 21)"
  | .invalidInput => "Invalid argument (os error 22)"
  | .invalidFilename => "File name too long (os error 36)"
  | .directoryNotEmpty => "Directory not empty (os error 39)"
  | .filesystemLoop => "Too many levels of symbolic links (os error 40)"
  | .invalidData => "stream did not contain valid UTF-8"
  | .other => "other error"

def ofKind (kind : Kind) : IoError := ⟨kind, kind.description⟩

end IoError
end AuditTrail
