import ProxyOperator.Proofs.Requests
import ProxyOperator.Proofs.Standstill
/-!
Attempts that own up to failures: whenever a request fails they end with a failure. If such an attempt
succeeds where requests either fail or are answered by a world that stands still, it comes to what it comes
to in that world.
-/
namespace ProxyOperator

/-- The failure that a request was answered with. -/
def Effect.failure? : (effect : Effect) → effect.Answer → Option Failure
  | .read _ _, .error failure => some failure
  | .list _ _, .error failure => some failure
  | .writeStatus _ _ _ _, .error failure => some failure
  | .addFinalizer _ _, .error failure => some failure
  | .removeFinalizer _ _, .error failure => some failure
  | .secret _, .error failure => some failure
  | .service _, .error failure => some failure
  | .pods _ _, .error failure => some failure
  | .node _, .error failure => some failure
  | .connect _, .error failure => some failure
  | .requestToken _ _ _, .error failure => some failure
  | .remote _ _, .error failure => some failure
  | _, _ => none

/-- A request was answered as a world answers it, or it failed. -/
def Exchange.Agrees (world : Standstill) (exchange : Exchange Effects) : Prop :=
  exchange.request.failure? exchange.answer = none → exchange.answer = world exchange.request

namespace Program

variable {ε ε' α β : Type}

/-- Where a request fails, the program ends with a failure. -/
def Candid : Program Effects (Except ε α) → Prop
  | .done _ => True
  | .ask effect next => ∀ answer : effect.Answer, Candid (next answer) ∧
      ((effect.failure? answer).isSome → ∃ failure, next answer = .done (.error failure))

/-- What follows a candid program is candid with it if it goes on only after a success. -/
theorem Candid.bind {program : Program Effects (Except ε α)}
    {next : Except ε α → Program Effects (Except ε' β)} (candid : Candid program)
    (further : ∀ value, Candid (next (.ok value)))
    (stops : ∀ failure, ∃ other, next (.error failure) = .done (.error other)) :
    Candid (program >>= next) := by
  induction program with
  | done outcome =>
      cases outcome with
      | ok value => exact further value
      | error failure =>
          obtain ⟨other, ends⟩ := stops failure
          change Candid (next (.error failure))
          rw [ends]
          trivial
  | ask effect others induction =>
      intro answer
      refine ⟨induction answer (candid answer).1, fun failed => ?_⟩
      obtain ⟨failure, ends⟩ := (candid answer).2 failed
      obtain ⟨other, stopped⟩ := stops failure
      exact ⟨other, (congrArg (· >>= next) ends).trans stopped⟩

end Program

namespace Attempt

variable {ε α β σ : Type}

def Candid (attempt : Attempt ε α) : Prop := Program.Candid attempt.run

namespace Candid

theorem pure {value : α} : Candid (Pure.pure value : Attempt ε α) := trivial

theorem throw {failure : ε} : Candid (MonadExcept.throw failure : Attempt ε α) := trivial

theorem bind {attempt : Attempt ε α} {next : α → Attempt ε β} (first : Candid attempt)
    (further : ∀ value, Candid (next value)) : Candid (attempt >>= next) :=
  Program.Candid.bind first further fun failure => ⟨failure, rfl⟩

theorem demand {failure : Failure} {value : Option α} : Candid (Pass.demand failure value) := by
  cases value with
  | none => trivial
  | some value => trivial

theorem targetOrFail {result : Except Target.Problem α} : Candid (Target.orFail result) := by
  cases result with
  | ok value => trivial
  | error problem => trivial

theorem mapM {item : α → Attempt ε β} (each : ∀ value, Candid (item value)) (values : List α) :
    Candid (values.mapM item) := by
  induction values with
  | nil => exact .pure
  | cons value rest induction =>
      rw [List.mapM_cons]
      exact .bind (each value) fun _ => .bind induction fun _ => .pure

theorem doIf {condition : Prop} [Decidable condition] {first : Attempt ε Unit}
    {next : Unit → Attempt ε β} (candid : Candid first) (rest : ∀ done, Candid (next done)) :
    Candid (if condition then first >>= next else next ()) := by
  split
  · exact bind candid rest
  · exact rest ()

/-! ### Requests -/

theorem read (kind : Kind) (key : ObjectKey) : Candid (Pass.read kind key)
  | .ok _ => ⟨trivial, nofun⟩
  | .error failure => ⟨trivial, fun _ => ⟨failure, rfl⟩⟩

theorem list (kind : Kind) («namespace» : Option String) :
    Candid ((Effect.list kind «namespace»).ask : Pass (List (Resource kind)))
  | .ok _ => ⟨trivial, nofun⟩
  | .error failure => ⟨trivial, fun _ => ⟨failure, rfl⟩⟩

theorem service (key : ObjectKey) : Candid (Pass.service key)
  | .ok _ => ⟨trivial, nofun⟩
  | .error failure => ⟨trivial, fun _ => ⟨failure, rfl⟩⟩

theorem pods («namespace» selector : String) : Candid (Pass.pods «namespace» selector)
  | .ok _ => ⟨trivial, nofun⟩
  | .error failure => ⟨trivial, fun _ => ⟨failure, rfl⟩⟩

theorem node (name : String) : Candid (Pass.node name)
  | .ok _ => ⟨trivial, nofun⟩
  | .error failure => ⟨trivial, fun _ => ⟨failure, rfl⟩⟩

theorem connect (session : Remote.Session) : Candid (Pass.connect session)
  | .ok _ => ⟨trivial, nofun⟩
  | .error failure => ⟨trivial, fun _ => ⟨failure, rfl⟩⟩

theorem remote (session : Remote.Session) (request : Remote.Request) :
    Candid ((Effect.remote session request).ask : Pass request.Result)
  | .ok _ => ⟨trivial, nofun⟩
  | .error failure => ⟨trivial, fun _ => ⟨failure, rfl⟩⟩

end Candid

/-- A candid attempt that succeeds where its requests either fail or are answered by a world that stands still
comes to what it comes to in that world; and what each request keeps is kept. -/
theorem Meets.survey {world : Standstill} {conduct : Conduct Effects σ}
    {step : σ → Exchange Effects → σ → Prop} {allowed : Effect → Prop} {stays : σ → Prop}
    {attempt : Attempt ε α} {state : σ} (candid : Candid attempt) (asks : Asks allowed attempt)
    (keeps : ∀ before exchange after, allowed exchange.request → stays before →
      conduct before exchange after →
      step before exchange after ∧ stays after ∧ exchange.Agrees world)
    (start : stays state) :
    Meets conduct step (fun value after => under world attempt = .ok value ∧ stays after)
      (fun _ after => stays after) attempt state := by
  have rest : ∀ program : Program Effects (Except ε α), ∀ state, Program.Candid program →
      Program.Asks allowed program → stays state →
      Program.Meets conduct step
        (Ends (fun value after => Program.run (m := Id) world program = .ok value ∧ stays after)
          fun _ after => stays after) program state := by
    intro program
    induction program with
    | done outcome =>
        intro state _ _ stays
        cases outcome with
        | ok value => exact ⟨rfl, stays⟩
        | error failure => exact stays
    | ask effect next induction =>
        intro state candid asks stays answer after answered
        have ⟨kept, stayed, agrees⟩ := keeps state _ after asks.1 stays answered
        refine ⟨kept, ?_⟩
        cases failed : effect.failure? answer with
        | some failure =>
            obtain ⟨_, ends⟩ := (candid answer).2 (by rw [failed]; rfl)
            rw [ends]
            exact stayed
        | none =>
            obtain rfl : answer = world effect := agrees failed
            exact induction _ after (candid _).1 (asks.2 _) stayed
  exact rest attempt.run state candid asks start

end Attempt

/-! ## Forward targets -/

namespace Target

open Attempt

theorem nodeIps_candid («namespace» : String) (labels : Dictionary String) :
    Candid (nodeIps «namespace» labels) := by
  refine .bind (.pods _ _) fun pods => ?_
  refine .bind (.mapM (fun name => ?_) _) fun _ => .pure
  exact .bind (.node name) fun _ => .pure

theorem ofService_candid (owner : ObjectKey) (unscoped : Bool) (scheme : Scheme)
    («namespace» : String) (explicit : Option UInt16) (service : Service) :
    Candid (ofService owner unscoped scheme «namespace» explicit service) := by
  unfold ofService
  dsimp only
  split
  · exact .throw
  · split
    · exact .bind .targetOrFail fun _ => .pure
    · refine .bind .targetOrFail fun port => .doIf .throw fun _ => ?_
      exact .bind (nodeIps_candid _ _) fun addresses => .doIf .throw fun _ => .targetOrFail
    · exact .bind .targetOrFail fun _ => .bind .targetOrFail fun _ => .pure

theorem resolve_candid (owner : ObjectKey) (unscoped : Bool) (forward : Forward) :
    Candid (resolve owner unscoped forward) := by
  have found : Candid (coordinates owner unscoped forward) := by
    unfold coordinates
    split
    · exact .throw
    · exact .throw
    · exact .targetOrFail
    · refine .bind ?_ fun service => ofService_candid _ _ _ _ _ _
      exact .bind (.service _) fun _ => .demand
  exact .bind found fun _ => .doIf .throw fun _ => .doIf .throw fun _ => .pure

end Target

theorem Reconcile.ProxyHosts.resolveTargets_candid (host : ProxyHost) (unscoped : Bool) :
    Attempt.Candid (resolveTargets host unscoped) := by
  refine .bind (Target.resolve_candid _ _ _) fun _ => ?_
  refine .bind (.mapM (fun location => ?_) _) fun _ => .pure
  exact .bind (Target.resolve_candid _ _ _) fun _ => .pure

/-! ## Sessions, certificates and access lists -/

namespace Reconcile

open Attempt

theorem findToken_candid (context : Context) (reference : Option ResourceRef)
    («namespace» : String) : Candid (findToken context reference «namespace») := by
  unfold findToken
  cases reference with
  | some given => exact .bind (.read _ _) fun _ => .demand
  | none =>
      refine .bind (.list _ _) fun tokens => ?_
      dsimp only
      split
      · exact .bind (.list _ _) fun _ => .demand
      · exact .bind .pure fun _ => .demand

theorem connect_candid (context : Context) (reference : Option ResourceRef) («namespace» : String) :
    Candid (connect context reference «namespace») :=
  .bind (findToken_candid _ _ _) fun _ => .bind .demand fun _ => .bind (.connect _) fun _ => .pure

end Reconcile

theorem HostCertificate.resolve_candid (session : Remote.Session) (ssl : Option ProxyHost.Ssl)
    (domains : List String) («namespace» : String) (defaultEmail : Option String) :
    Attempt.Candid (resolve session ssl domains «namespace» defaultEmail) := by
  have confirms (id : UInt32) : Attempt.Candid (confirm session id) :=
    .bind (.remote _ _) fun _ => .pure
  have reads (kind : Kind) (idOf : kind.Status → Option UInt32) (key : ObjectKey) :
      Attempt.Candid (ofResource kind idOf key) :=
    .bind (.read _ _) fun _ => .bind .demand fun _ => .demand
  unfold resolve
  cases ssl with
  | none => exact .pure
  | some given =>
      dsimp only
      split
      · exact .bind (reads _ _ _) fun _ => confirms _
      · exact .bind (reads _ _ _) fun _ => confirms _
      · exact confirms _
      · split
        · refine .bind (.remote _ _) fun certificates => ?_
          split
          · exact .pure
          · exact .bind .demand fun _ => .bind (.remote _ _) fun _ => .pure
        · exact .pure

theorem HostAccess.resolve_candid (session : Remote.Session)
    (reference : Option ProxyHost.AccessRef) («namespace» : String) :
    Attempt.Candid (resolve session reference «namespace») := by
  have confirms (id : UInt32) : Attempt.Candid (confirm session id) :=
    .bind (.remote _ _) fun _ => .pure
  unfold resolve
  cases reference with
  | none => exact .pure
  | some given =>
      dsimp only
      split
      · exact confirms _
      · refine .bind ?_ fun _ => confirms _
        exact .bind (.read _ _) fun _ => .bind .demand fun _ => .demand
      · exact .pure

end ProxyOperator
