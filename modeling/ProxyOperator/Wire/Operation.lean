import ProxyOperator.Failure
import ProxyOperator.Program
import ProxyOperator.Time.Instant
import ProxyOperator.Wire.Method
/-!
What the operator asks of the machine it runs on: to exchange a request for a response, to wait, and to
tell the time. All that passes ask for comes down to these three.
-/
namespace ProxyOperator

namespace Wire

structure Part where
  name : String
  fileName : String
  text : String
  deriving DecidableEq, Repr, Inhabited

inductive Content where
  | nothing
  | json (value : Json)
  | mergePatch (changes : Json)
  | form (parts : List Part)
  deriving Repr, Inhabited

def Content.mediaType? : Content → Option String
  | .nothing => none
  | .json _ => some "application/json"
  | .mergePatch _ => some "application/merge-patch+json"
  | .form _ => some "multipart/form-data"

inductive Server where
  /-- The API of the cluster, reached with the account of the operator. -/
  | cluster
  /-- A remote server at an address, which knows the sender by a bearer token. -/
  | remote (address : String) (bearer : Option String)
  deriving DecidableEq, Repr, Inhabited

structure Request where
  server : Server
  method : Method
  path : String
  /-- Names and values, not yet in form encoding. -/
  query : List (String × String)
  content : Content
  deriving Repr, Inhabited

structure Response where
  status : Nat
  body : String
  deriving DecidableEq, Repr, Inhabited

inductive Operation where
  | send (request : Request)
  /-- Wait for a time that is spread around the one given, in milliseconds. -/
  | pause (wait : Rat)
  | readClock

/-- What the machine answers. A request that gets no response is answered with the reason why. -/
@[reducible] def Operation.Answer : Operation → Type
  | .send _ => Except String Response
  | .pause _ => Unit
  | .readClock => Instant

@[reducible] def Operations : Interface := ⟨Operation, Operation.Answer⟩

abbrev Exchange (α : Type) := ExceptT Failure (Program Operations) α

def Operation.ask (operation : Operation) : Program Operations operation.Answer :=
  @Program.request Operations operation

end Wire

end ProxyOperator
