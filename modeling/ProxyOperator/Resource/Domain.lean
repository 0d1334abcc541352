import ProxyOperator.Resource.Problem
import ProxyOperator.Text.Blank
/-!
Domain names as they are declared and compared. Two spellings name the same domain if they agree after
trimming blanks and lowering ASCII letters; a declared list has one to ten domains, none of them empty
and no two the same.
-/
namespace ProxyOperator

namespace Domain

/-- The spelling in which domains are compared. -/
def normalize (domain : String) : String := (trimText domain).toLower

/-- Check declared domains one after the other against those already seen. -/
def checkEach (seen : List String) : List String → Except Problem Unit
  | [] => .ok ()
  | domain :: rest =>
      let name := normalize domain
      if name.isEmpty then .error .emptyDomain
      else if name ∈ seen then .error (.repeatedDomain domain)
      else checkEach (name :: seen) rest

def check (domains : List String) : Except Problem Unit :=
  if domains.isEmpty then .error .noDomains
  else if domains.length > 10 then .error (.tooManyDomains domains.length)
  else checkEach [] domains

/-- Whether two lists name the same set of domains. -/
def sameSet (first second : List String) : Bool :=
  let first := first.map normalize
  let second := second.map normalize
  first.all (· ∈ second) && second.all (· ∈ first)

def overlap (first second : List String) : Bool :=
  let second := second.map normalize
  (first.map normalize).any (· ∈ second)

/-- The wildcard name that covers a domain one label below it: what follows the first dot, behind an
asterisk. A zone of a single label has none. -/
def wildcard? (domain : String) : Option String :=
  match (normalize domain).toList.dropWhile (· ≠ '.') with
  | '.' :: zone => if '.' ∈ zone then some (String.ofList ('*' :: '.' :: zone)) else none
  | _ => none

end Domain

end ProxyOperator
