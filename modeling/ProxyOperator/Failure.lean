import ProxyOperator.Json.Codec
import ProxyOperator.Text.Quoted
/-!
Failures of a pass. Each is a cause, with what is needed to describe it; the wording is in one place,
and so is the question whether trying again may help.
-/
namespace ProxyOperator

structure ApiError where
  status : String
  message : String
  reason : String
  code : Nat
  deriving DecidableEq, Repr, Inhabited

/-- Why something could not be done. -/
inductive Failure where
  | cluster (error : ApiError)
  | clusterUnreachable (detail : String)
  /-- Another writer changed the object first. -/
  | conflict (object : String)
  /-- The declaration is invalid or cannot be resolved. -/
  | invalid (detail : String)
  /-- Something referred to does not exist or is not ready. -/
  | reference (detail : String)
  /-- There is no usable credential for the remote server. -/
  | credential (detail : String)
  | remote (method path : String) (status : Nat) (body : String)
  | transport (detail : String)
  | decoding (detail : String)
  deriving DecidableEq, Repr, Inhabited

def ApiError.text (error : ApiError) : String :=
  "ApiError: " ++ error.message ++ ": " ++ error.reason ++
    " (ErrorResponse \x7b status: " ++ Quoted.quote error.status ++
    ", message: " ++ Quoted.quote error.message ++
    ", reason: " ++ Quoted.quote error.reason ++
    ", code: " ++ toString error.code ++ " \x7d)"

namespace Failure

def message : Failure → String
  | .cluster error => "kubernetes error: " ++ error.text
  | .clusterUnreachable detail => "kubernetes error: " ++ detail
  | .conflict object => "conflict writing " ++ object ++ ": resource was modified concurrently"
  | .invalid detail => "configuration error: " ++ detail
  | .reference detail => "reference error: " ++ detail
  | .credential detail => "credential error: " ++ detail
  | .remote method path status body =>
      "remote API " ++ method ++ " " ++ path ++ " failed with status " ++ toString status ++ ": " ++
        body
  | .transport detail => "remote transport error: " ++ detail
  | .decoding detail => "serialization error: " ++ detail

/-- Another writer was first. -/
def isConflict : Failure → Bool
  | .conflict _ => true
  | .cluster error => error.code = 409
  | _ => false

/-- The remote server knows no such object. -/
def isRemoteMissing : Failure → Bool
  | .remote _ _ status _ => status = 404
  | _ => false

/-- Whether the same attempt may succeed later. Invalid declarations keep failing until they are
changed, and so do requests that were turned down as wrong; all else may clear up on its own. -/
def isRetryable : Failure → Bool
  | .cluster error => !(400 ≤ error.code && error.code < 500 && error.code ≠ 409)
  | .invalid _ => false
  | .remote _ _ status _ => status ≥ 500 || status = 429
  | .decoding _ => false
  | _ => true

def ofFault (fault : Fault) : Failure := .decoding fault.message

end Failure

def Decoded.orFail {α : Type} : Decoded α → Except Failure α
  | .ok value => .ok value
  | .error fault => .error (.ofFault fault)

end ProxyOperator
