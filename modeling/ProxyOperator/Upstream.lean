import ProxyOperator.Encoding.Digest
import ProxyOperator.Resource.Forward
/-!
Upstream blocks: several backends under one symbolic name. The name carries a digest of the backends in
the order given, so the same backends always give the same name and the same block, and another order
gives another name. A pass collects its blocks by name and sends them in the order of their names.
-/
namespace ProxyOperator

structure Upstream where
  /-- The name, which stands for the backends where a host is asked for. -/
  name : String
  block : String
  deriving DecidableEq, Repr, Inhabited

namespace Upstream

def family : String := "npm-upstream"

/-- The text the digest is taken of: the addresses one after the other. -/
def digestText (backends : List Backend) : String := String.join (backends.map Backend.address)

/-- The name of a block of backends that belongs to an owner. -/
def nameFor (owner : ObjectKey) (backends : List Backend) : String :=
  family ++ "-" ++ owner.name ++ "-" ++ owner.namespace ++ "-" ++ Digest.ofText (digestText backends)

def serverLine (backend : Backend) : String := "    server " ++ backend.address ++ ";\n"

def blockText (name : String) (backends : List Backend) : String :=
  "upstream " ++ name ++ " \x7b\n    least_conn;\n" ++
    String.join (backends.map serverLine) ++ "\x7d"

def synthesize (owner : ObjectKey) (backends : List Backend) : Upstream :=
  let name := nameFor owner backends
  ⟨name, blockText name backends⟩

end Upstream

/-- The blocks collected in a pass, by name. -/
structure UpstreamSet where
  blocks : Dictionary String
  deriving Inhabited

namespace UpstreamSet

def empty : UpstreamSet := ⟨.empty⟩

/-- Add a block, in place of one of the same name. -/
def insert (set : UpstreamSet) (upstream : Upstream) : UpstreamSet :=
  ⟨set.blocks.insert upstream.name upstream.block⟩

def insertAny (set : UpstreamSet) : Option Upstream → UpstreamSet
  | none => set
  | some upstream => set.insert upstream

def size (set : UpstreamSet) : Nat := set.blocks.size

def isEmpty (set : UpstreamSet) : Bool := set.blocks.isEmpty

/-- All blocks in the order of their names, a line break between them. -/
def render (set : UpstreamSet) : String := "\n".intercalate set.blocks.values

end UpstreamSet

end ProxyOperator
