import ProxyOperator.Reconcile.Credentials
/-!
Passes on access lists. The remote list belongs to the resource: it is made in the first pass, replaced
in every other, and deleted with the resource.
-/
namespace ProxyOperator

namespace Reconcile.AccessLists

structure Converged where
  id : UInt32
  /-- Whether the remote list was made in this pass. -/
  isNew : Bool
  deriving DecidableEq, Repr

/-- A user with the password that the Secret holds. -/
def login («namespace» : String) (authorization : AccessList.Authorization) :
    Pass Remote.Login := do
  let password := authorization.password
  return ⟨authorization.username, ← secretText ⟨«namespace», password.name⟩ password.key⟩

def rule (client : AccessList.Client) : Remote.Rule := ⟨client.address, client.directive.name⟩

def payload (name : String) (spec : AccessList.Spec) (logins : List Remote.Login) :
    Remote.AccessList.Payload :=
  ⟨name, spec.satisfyAny, spec.passAuth, logins, spec.clients.map rule⟩

/-- Make the remote list, or replace the one on record. -/
def write (session : Remote.Session) (recorded : Option UInt32)
    (payload : Remote.AccessList.Payload) : Pass Converged := do
  match recorded with
  | some id => return ⟨(← session.update .accessLists id payload).id, false⟩
  | none => return ⟨(← session.create .accessLists payload).id, true⟩

def converge (context : Context) (list : AccessList) : Staged Converged := do
  let spec := list.spec
  let own := list.metadata.spokenKey
  Stage.check spec.check
  let logins ← Stage.secret.run (spec.authorizations.mapM (login own.namespace))
  let session ← Stage.token.run (connect context spec.token own.namespace)
  Stage.remote.run (write session (list.status.bind (·.id)) (payload own.name spec logins))

def synced (context : Context) (outcome : Converged) (status : AccessList.Status) :
    AccessList.Status :=
  { status with
    id := some outcome.id
    conditions :=
      Condition.markReady context.stamp "remote access list is in sync" status.conditions }

def cleanup (context : Context) (list : AccessList) : Option (Pass String) :=
  (list.status.bind (·.id)).map <|
    deleteOwned context list.spec.token list.metadata.spokenKey.namespace .accessLists

def reconcile (context : Context) (list : AccessList) : Pass Action := do
  if list.metadata.isDeleting then dismiss list (cleanup context list)
  else
    hold list
    finish context list (converge context list) fun outcome => do
      if outcome.isNew then
        announceDone list Event.created ("remote access list " ++ toString outcome.id.toNat)
      updateStatus context .accessList list.metadata.spokenKey (synced context outcome)
      return .resync context

end Reconcile.AccessLists

end ProxyOperator
