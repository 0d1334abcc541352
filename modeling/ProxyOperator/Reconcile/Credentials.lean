import ProxyOperator.Reconcile.Basic
/-!
Where a pass gets its credentials from: texts from Secrets, and the bearer token of a session with the
remote server from the status of a Token.
-/
namespace ProxyOperator

namespace Reconcile

/-- A result that may be a failure, as a part of a pass. -/
def orFail {α : Type} : Except Failure α → Pass α
  | .ok value => pure value
  | .error failure => throw failure

def secret (key : ObjectKey) : Pass Secret := do
  Pass.demand (.reference ("secret " ++ key.text ++ " not found")) (← Pass.secret key)

def secretText (key : ObjectKey) (field : String) : Pass String := do
  let text ← orFail ((← secret key).text? field)
  Pass.demand (.reference ("secret " ++ key.text ++ " has no key " ++ field)) text

def firstByName : List Token → Option Token
  | [] => none
  | token :: rest =>
      match firstByName rest with
      | none => some token
      | some other =>
          if other.metadata.spokenName < token.metadata.spokenName then some other else some token

/-- The Token for a resource of a namespace: the one it refers to; without a reference the first in
its namespace, or else in the namespace of the operator. -/
def findToken (context : Context) (reference : Option ResourceRef) («namespace» : String) :
    Pass Token := do
  match reference with
  | some reference =>
      let key := reference.resolve «namespace»
      Pass.demand (.reference ("Token " ++ key.text ++ " not found")) (← Pass.read .token key)
  | none =>
      let shared := context.settings.operatorNamespace
      let own ← Pass.listIn .token «namespace»
      let candidates ←
        if own.isEmpty ∧ «namespace» ≠ shared then Pass.listIn .token shared else pure own
      Pass.demand (.credential ("no Token in namespace " ++ «namespace» ++ " or " ++ shared))
        (firstByName candidates)

def connect (context : Context) (reference : Option ResourceRef) («namespace» : String) :
    Pass Remote.Session := do
  let token ← findToken context reference «namespace»
  let bearer ← Pass.demand
    (.credential ("Token " ++ token.metadata.spokenKey.text ++ " has no valid bearer token yet"))
    (token.usableBearer? context.now)
  let session : Remote.Session := ⟨token.spec.endpoint, bearer⟩
  Pass.connect session
  return session

/-- Delete a remote object; it is as well if there is none. -/
def deleteRemote (session : Remote.Session) (collection : Remote.Collection) (id : UInt32) :
    Pass String := do
  match ← ExceptT.lift (session.delete collection id).run with
  | .ok _ => return Event.deleted
  | .error failure => if failure.isRemoteMissing then return Event.deleted else throw failure

def deleteOwned (context : Context) (reference : Option ResourceRef) («namespace» : String)
    (collection : Remote.Collection) (id : UInt32) : Pass String := do
  deleteRemote (← connect context reference «namespace») collection id

end Reconcile

end ProxyOperator
