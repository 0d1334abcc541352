import ProxyOperator.Reconcile.Basic
/-!
The access list of a proxy host: given by its remote id, or by the resource that made it.
-/
namespace ProxyOperator

namespace HostAccess

def ofResource (key : ObjectKey) : Pass UInt32 := do
  let name := "AccessList " ++ key.text
  let list ← Pass.demand (.reference (name ++ " not found")) (← Pass.read .accessList key)
  Pass.demand (.reference (name ++ " has no remote access list yet")) (list.status.bind (·.id))

def confirm (session : Remote.Session) (id : UInt32) : Pass (Option UInt32) := do
  return some (← session.get .accessLists id).id

def resolve (session : Remote.Session) (reference : Option ProxyHost.AccessRef)
    («namespace» : String) : Pass (Option UInt32) :=
  match reference with
  | none => return none
  | some reference =>
      match reference.id, reference.name with
      | some id, _ => confirm session id
      | none, some name => do
          confirm session (← ofResource ⟨reference.namespace.getD «namespace», name⟩)
      | none, none => return none

end HostAccess

end ProxyOperator
