import ProxyOperator.Time.Codec
/-!
Conditions: what a resource's status says about the last pass. There is at most one condition of a
type that the operator reports; its transition time moves only when its status changes.
-/
namespace ProxyOperator

inductive ConditionStatus where
  | true
  | false
  | unknown
  deriving DecidableEq, Repr, Inhabited

namespace ConditionStatus

def name : ConditionStatus → String
  | .true => "True"
  | .false => "False"
  | .unknown => "Unknown"

def codec : Codec ConditionStatus :=
  .choice [("True", .true), ("False", .false), ("Unknown", .unknown)] name

end ConditionStatus

structure Condition where
  type : String
  status : ConditionStatus
  reason : String
  message : String
  lastTransition : Instant
  /-- The generation of the declaration that the condition was recorded against. -/
  generation : Option Int64
  deriving DecidableEq, Inhabited

namespace Condition

def ready : String := "Ready"

def reconciling : String := "Reconciling"

def error : String := "Error"

def record : Record Condition Condition :=
  Condition.mk
    <$> .required "type" (·.type) .string
    <*> .required "status" (·.status) ConditionStatus.codec
    <*> .required "reason" (·.reason) .string
    <*> .required "message" (·.message) .string
    <*> .required "lastTransitionTime" (·.lastTransition) .instant
    <*> .optional "observedGeneration" (·.generation) .int64

def codec : Codec Condition := record.codec .strict

def isTrue (conditions : List Condition) (type : String) : Bool :=
  conditions.any fun condition => condition.type = type && condition.status = .true

/-- Put a condition in place of the one of its type, or at the end. The transition time of the old one
is kept if the status did not change. -/
def set (conditions : List Condition) (condition : Condition) : List Condition :=
  match conditions with
  | [] => [condition]
  | old :: rest =>
      if old.type = condition.type then
        (if old.status = condition.status then
          { condition with lastTransition := old.lastTransition }
        else condition) :: rest
      else old :: set rest condition

/-- Report that a pass over a generation has begun. -/
def markReconciling (now : Instant) (generation : Option Int64) (message : String)
    (conditions : List Condition) : List Condition :=
  set conditions ⟨reconciling, .true, "Reconciling", message, now, generation⟩

def markReady (now : Instant) (message : String) (conditions : List Condition) : List Condition :=
  let report (type : String) (status : ConditionStatus) (conditions : List Condition) :=
    set conditions ⟨type, status, "Synced", message, now, none⟩
  conditions |> report ready .true |> report reconciling .false |> report error .false

def markError (now : Instant) (generation : Option Int64) (reason message : String)
    (conditions : List Condition) : List Condition :=
  let failed := set conditions ⟨error, .true, reason, message, now, generation⟩
  let notReady := set failed ⟨ready, .false, reason, message, now, none⟩
  set notReady ⟨reconciling, .false, reason, message, now, none⟩

/-- Whether a pass over a generation first reports that it has begun: the generation has not been
converged, and neither its beginning nor its failure has been reported. -/
def shouldMarkReconciling (conditions : List Condition) (observed generation : Option Int64) : Bool :=
  if observed = generation then false
  else
    !(conditions.any fun condition =>
      (condition.type = reconciling || condition.type = error) && condition.status = .true &&
        condition.generation = generation)

end Condition

end ProxyOperator
