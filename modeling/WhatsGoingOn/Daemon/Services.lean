import Mathlib.Logic.Function.Basic

/-!
# Errors of services

The daemon reaches the system through services, which all fail with the errors of
one type.
-/

namespace WhatsGoingOn
namespace Daemon

/-- The errors of a service. -/
inductive ServiceError where
  | permissionDenied
  | notFound
  | alreadyExists
  | notDirectory
  | notFile
  | invalidPath
  | unsupported
  | operationFailed (message : String)
  deriving DecidableEq, Repr

/-- What the error says of itself. -/
def ServiceError.text : ServiceError → String
  | .permissionDenied => "permission denied"
  | .notFound => "not found"
  | .alreadyExists => "already exists"
  | .notDirectory => "not a directory"
  | .notFile => "not a regular file"
  | .invalidPath => "invalid path"
  | .unsupported => "unsupported operation"
  | .operationFailed message => "operation failed: " ++ message

end Daemon
end WhatsGoingOn
