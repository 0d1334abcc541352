import ProxyOperator.Retry
/-!
The settings of the operator.
-/
namespace ProxyOperator

structure Settings where
  /-- The namespace of the operator. Tokens in it serve resources whose own namespace has none. -/
  operatorNamespace : String
  /-- The address to give when a certificate is requested and none is declared. -/
  defaultEmail : Option String
  /-- Seconds until a pass that failed is repeated. -/
  requeueSeconds : UInt64
  /-- Seconds until a pass that succeeded is repeated. -/
  resyncSeconds : UInt64
  /-- Seconds before a bearer token expires that a new one is asked for. -/
  refreshMarginSeconds : UInt64
  /-- Attempts to write a status while other writers interfere. -/
  statusWriteAttempts : UInt32
  deriving DecidableEq, Repr

namespace Settings

/-- What holds unless it is set otherwise. -/
def standard : Settings := ⟨"npm-operator", none, 60, 300, 3600, 5⟩

instance : Inhabited Settings := ⟨standard⟩

/-- The longest margin that is kept, a year. -/
def maxRefreshMargin : Nat := 365 * 24 * 60 * 60

def refreshMargin (settings : Settings) : Nat :=
  min settings.refreshMarginSeconds.toNat maxRefreshMargin

/-- How to try to write a status: at least once. -/
def statusRetry (settings : Settings) : Retry :=
  .limited (max settings.statusWriteAttempts.toNat 1)

end Settings

end ProxyOperator
