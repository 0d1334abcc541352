import ProxyOperator.Json.Basic
/-!
Merge patches. A patch that is an object is merged member by member into what is there: null removes a
member, an object is merged in turn, and any other value takes the member's place. A patch of any other
form replaces the whole value.
-/
namespace ProxyOperator

namespace Json

mutual
def mergePatch (target : Json) : Json → Json
  | .object patch => .object (mergeMembers target.members patch)
  | patch => patch

/-- The members of an object after the members of a patch, one by one. -/
def mergeMembers (target : List (String × Json)) : List (String × Json) → List (String × Json)
  | [] => target
  | (name, patch) :: rest =>
      mergeMembers
        (match patch with
        | .null => target.filter fun entry => entry.1 ≠ name
        | patch => putMember name (mergePatch ((target.lookup name).getD .null) patch) target)
        rest
end

end Json

end ProxyOperator
