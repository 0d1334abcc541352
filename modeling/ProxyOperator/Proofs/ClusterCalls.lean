import ProxyOperator.Proofs.Records
import ProxyOperator.Proofs.Ways
import ProxyOperator.Wire.ClusterApi
/-!
Calls to the API of the cluster: what they ask, what the answers come to, and what a call that holds an
object back or releases it has asked and was answered when it succeeds.
-/
namespace ProxyOperator

namespace Wire

namespace ClusterApi

variable {α : Type} {codec : Codec α} {answer : Except String Response}

/-! ## Answers -/

/-- What the answer to a request comes to. -/
def received : Except String Response → Except Failure String
  | .error reason => .error (.clusterUnreachable reason)
  | .ok response =>
      if Status.isError response.status then .error (.cluster (errorOf response))
      else .ok response.body

/-- What the text of an answer comes to. -/
def understood (codec : Codec α) (body : String) : Except Failure α :=
  match codec.ofText body with
  | .ok value => .ok value
  | .error fault => .error (.clusterUnreachable fault.message)

/-- What the answer to a request comes to whose text is read. -/
def reading (codec : Codec α) (answer : Except String Response) : Except Failure α :=
  received answer >>= understood codec

/-- What the outcome of asking for one object comes to. -/
def sought : Except Failure α → Except Failure (Option α)
  | .ok object => .ok (some object)
  | .error (.cluster error) =>
      if error.reason = "NotFound" then .ok none else .error (.cluster error)
  | .error failure => .error failure

theorem received_passed {response : Response} (passed : Status.isError response.status = false) :
    received (.ok response) = .ok response.body := by
  unfold received
  dsimp only
  rw [if_neg (ne_true_of_eq_false passed)]

theorem received_failed {response : Response} (failed : Status.isError response.status = true) :
    received (.ok response) = .error (.cluster (errorOf response)) := by
  unfold received
  dsimp only
  rw [if_pos failed]

theorem understood_eq_ok {body : String} {value : α} :
    understood codec body = .ok value ↔ codec.ofText body = .ok value := by
  unfold understood
  cases codec.ofText body with
  | ok found => exact (Except.ok.injEq ..).to_iff.trans (Except.ok.injEq ..).to_iff.symm
  | error _ => exact iff_of_false nofun nofun

theorem reading_eq_ok {value : α} : reading codec answer = .ok value ↔
    ∃ response, answer = .ok response ∧ Status.isError response.status = false ∧
      codec.ofText response.body = .ok value := by
  constructor
  · intro succeeds
    have ⟨body, passed, reads⟩ := Except.bind_eq_ok.mp succeeds
    cases answer with
    | error _ => cases passed
    | ok response =>
        cases status : Status.isError response.status with
        | true => cases (received_failed status).symm.trans passed
        | false =>
            obtain rfl := Except.ok.inj ((received_passed status).symm.trans passed)
            exact ⟨response, rfl, status, understood_eq_ok.mp reads⟩
  · rintro ⟨response, rfl, passed, reads⟩
    exact Except.bind_eq_ok.mpr ⟨_, received_passed passed, understood_eq_ok.mpr reads⟩

theorem reading_cluster {error : ApiError} (fails : reading codec answer = .error (.cluster error)) :
    ∃ response, answer = .ok response ∧ Status.isError response.status = true ∧
      errorOf response = error := by
  cases answer with
  | error _ => cases fails
  | ok response =>
      unfold reading at fails
      cases status : Status.isError response.status with
      | true =>
          rw [received_failed status] at fails
          injection fails with fails
          injection fails with fails
          exact ⟨response, rfl, status, fails⟩
      | false =>
          rw [received_passed status] at fails
          change understood codec response.body = _ at fails
          unfold understood at fails
          split at fails <;> cases fails

theorem sought_eq_some {outcome : Except Failure α} {value : α} :
    sought outcome = .ok (some value) ↔ outcome = .ok value := by
  constructor
  · intro succeeds
    unfold sought at succeeds
    split at succeeds
    · obtain rfl := Option.some.inj (Except.ok.inj succeeds)
      rfl
    · split at succeeds <;> cases succeeds
    · cases succeeds
  · rintro rfl
    rfl

theorem sought_none {outcome : Except Failure α} (succeeds : sought outcome = .ok none) :
    ∃ error : ApiError, outcome = .error (.cluster error) ∧ error.reason = "NotFound" := by
  unfold sought at succeeds
  split at succeeds
  · cases succeeds
  · rename_i error
    split at succeeds
    · rename_i missing
      exact ⟨error, rfl, missing⟩
    · cases succeeds
  · cases succeeds

/-! ## Single requests -/

section

variable {method : Method} {path : String} {query : List (String × String)} {content : Content}

theorem send_run : (send method path query content).run =
    .ask (.send ⟨.cluster, method, path, query, content⟩) fun answer => .done (received answer) := by
  refine congrArg (Program.ask _) (funext fun answer => ?_)
  cases answer with
  | error _ => rfl
  | ok response =>
      change (if Status.isError response.status = true then Program.done _ else .done _) =
        .done (if Status.isError response.status = true then _ else _)
      split <;> rfl

theorem read_run {body : String} : (read codec body).run = .done (understood codec body) := by
  unfold read understood
  cases codec.ofText body <;> rfl

/-- A request whose answer is read. -/
theorem send_read_run : (send method path query content >>= read codec).run =
    .ask (.send ⟨.cluster, method, path, query, content⟩) fun answer =>
      .done (reading codec answer) := by
  change Program.bind (send method path query content).run _ = _
  rw [send_run]
  refine congrArg (Program.ask _) (funext fun answer => ?_)
  change Program.bind (.done (received answer)) _ = .done (received answer >>= understood codec)
  cases received answer with
  | error failure => rfl
  | ok body => exact read_run

end

/-! ## Holding objects back -/

variable {kind : Kind} {key : ObjectKey} {held : Bool}

def pathOf (kind : Kind) (key : ObjectKey) : String :=
  resourcesPath kind key.namespace ++ "/" ++ key.name

def fetching (kind : Kind) (key : ObjectKey) : Request :=
  ⟨.cluster, .get, pathOf kind key, [], .nothing⟩

def listing (kind : Kind) (key : ObjectKey) (finalizers : List String) : Request :=
  ⟨.cluster, .patch, pathOf kind key, [("fieldManager", manager)],
    .mergePatch (.object [("metadata", .object [("finalizers", .strings finalizers)])])⟩

theorem resource?_run (named : key.name.isEmpty = false) : (resource? kind key).run =
    .ask (.send (fetching kind key)) fun answer =>
      .done (sought (reading (Resource.codec kind) answer)) := by
  unfold resource? find? get objectPath
  rw [named]
  change Program.bind (send .get (pathOf kind key) [] .nothing >>= read _).run _ = _
  rw [send_read_run]
  refine congrArg (Program.ask _) (funext fun answer => ?_)
  change Program.bind (.done (reading (Resource.codec kind) answer)) _ = _
  cases reading (Resource.codec kind) answer with
  | ok object => rfl
  | error failure =>
      cases failure with
      | cluster error => exact (apply_ite Program.done (error.reason = "NotFound") _ _).symm
      | _ => rfl

theorem write_run {finalizers : List String} (named : key.name.isEmpty = false) :
    (merge kind key "" (.object [("metadata", .object [("finalizers", .strings finalizers)])])).run =
      .ask (.send (listing kind key finalizers)) fun answer =>
        .done ((fun _ => ()) <$> reading (Resource.codec kind) answer) := by
  unfold merge objectPath
  rw [named]
  change (send .patch (pathOf kind key ++ "") _ _ >>= fun body =>
    read (Resource.codec kind) body >>= fun _ => pure ()).run = _
  rw [← bind_assoc, String.append_empty]
  change Program.bind (send .patch (pathOf kind key) _ _ >>= read (Resource.codec kind)).run _ = _
  rw [send_read_run]
  refine congrArg (Program.ask _) (funext fun answer => ?_)
  change Program.bind (.done (reading (Resource.codec kind) answer)) _ = _
  cases reading (Resource.codec kind) answer <;> rfl

/-- What is still to be done when the outcome of asking for the object is there. -/
def settling (kind : Kind) (key : ObjectKey) (held : Bool) :
    Except Failure (Option (Resource kind)) → Program Operations (Except Failure Unit)
  | .error failure => .done (.error failure)
  | .ok none => .done (.ok ())
  | .ok (some resource) =>
      if resource.isHeld = held then .done (.ok ())
      else .ask (.send (listing kind key
          (finalizersWhen held (resource.metadata.finalizers.getD [])))) fun answer =>
        .done ((fun _ => ()) <$> reading (Resource.codec kind) answer)

theorem setHeld_run (named : key.name.isEmpty = false) : (setHeld kind key held).run =
    .ask (.send (fetching kind key)) fun answer =>
      settling kind key held (sought (reading (Resource.codec kind) answer)) := by
  unfold setHeld
  change Program.bind (resource? kind key).run _ = _
  rw [resource?_run named]
  refine congrArg (Program.ask _) (funext fun answer => ?_)
  change Program.bind (.done (sought (reading (Resource.codec kind) answer))) _ = _
  cases sought (reading (Resource.codec kind) answer) with
  | error failure => rfl
  | ok looked =>
      cases looked with
      | none => rfl
      | some resource =>
          change (if resource.isHeld = held then pure () else _ : Exchange Unit).run =
            if resource.isHeld = held then _ else _
          split
          · rfl
          · exact write_run named

variable {σ : Type} {conduct : Conduct Operations σ} {state after : σ}
  {log : List (ProxyOperator.Exchange Operations)}

/-- What a call that succeeds came to: the object is gone, or held back or released already, or its list of
finalizers was written. -/
inductive Settles (conduct : Conduct Operations σ) (kind : Kind) (key : ObjectKey) (held : Bool)
    (state : σ) : List (ProxyOperator.Exchange Operations) → σ → Prop
  | gone {response : Response} {after : σ}
      (answered : conduct state ⟨.send (fetching kind key), .ok response⟩ after)
      (failed : Status.isError response.status = true)
      (missing : (errorOf response).reason = "NotFound") :
      Settles conduct kind key held state [⟨.send (fetching kind key), .ok response⟩] after
  | already {response : Response} {resource : Resource kind} {after : σ}
      (answered : conduct state ⟨.send (fetching kind key), .ok response⟩ after)
      (passed : Status.isError response.status = false)
      (reads : (Resource.codec kind).ofText response.body = .ok resource)
      (same : resource.isHeld = held) :
      Settles conduct kind key held state [⟨.send (fetching kind key), .ok response⟩] after
  | listed {response other : Response} {resource : Resource kind} {between after : σ}
      (answered : conduct state ⟨.send (fetching kind key), .ok response⟩ between)
      (passed : Status.isError response.status = false)
      (reads : (Resource.codec kind).ofText response.body = .ok resource)
      (written : conduct between ⟨.send (listing kind key
        (finalizersWhen held (resource.metadata.finalizers.getD []))), .ok other⟩ after)
      (accepted : Status.isError other.status = false) :
      Settles conduct kind key held state [⟨.send (fetching kind key), .ok response⟩,
        ⟨.send (listing kind key (finalizersWhen held (resource.metadata.finalizers.getD []))),
          .ok other⟩] after

theorem settles_of_settling {between : σ}
    (answered : conduct state ⟨.send (fetching kind key), answer⟩ between)
    (further : Program.Goes conduct
      (settling kind key held (sought (reading (Resource.codec kind) answer))) between log
      (.done (.ok ())) after) :
    Settles conduct kind key held state (⟨.send (fetching kind key), answer⟩ :: log) after := by
  cases looked : sought (reading (Resource.codec kind) answer) with
  | error failure =>
      rw [looked] at further
      cases further.of_done.2.1
  | ok outcome =>
      rw [looked] at further
      cases outcome with
      | none =>
          obtain ⟨rfl, -, rfl⟩ := further.of_done
          have ⟨error, fails, missing⟩ := sought_none looked
          obtain ⟨response, rfl, failed, rfl⟩ := reading_cluster fails
          exact .gone answered failed missing
      | some resource =>
          obtain ⟨response, rfl, passed, reads⟩ := reading_eq_ok.mp (sought_eq_some.mp looked)
          unfold settling at further
          dsimp only at further
          split at further
          · rename_i same
            obtain ⟨rfl, -, rfl⟩ := further.of_done
            exact .already answered passed reads same
          · cases further with
            | ask written ended =>
                obtain ⟨rfl, ends, rfl⟩ := ended.of_done
                have ⟨_, succeeds, _⟩ := Except.functor_map_eq_ok.mp ends.symm
                obtain ⟨_, rfl, accepted, _⟩ := reading_eq_ok.mp succeeds
                exact .listed answered passed reads written accepted

theorem settles_of_goes
    (goes : Program.Goes conduct (setHeld kind key held).run state log (.done (.ok ())) after) :
    Settles conduct kind key held state log after := by
  cases named : key.name.isEmpty with
  | true =>
      unfold setHeld resource? find? get objectPath at goes
      rw [named] at goes
      cases (Program.Goes.of_done goes).2.1
  | false =>
      rw [setHeld_run named] at goes
      cases goes with
      | ask answered further => exact settles_of_settling answered further

/-- A call that is shown an object that is not yet as it should be succeeds when its list is taken. -/
theorem goes_of_listing {response other : Response} {resource again : Resource kind} {between : σ}
    (named : key.name.isEmpty = false)
    (answered : conduct state ⟨.send (fetching kind key), .ok response⟩ between)
    (passed : Status.isError response.status = false)
    (reads : (Resource.codec kind).ofText response.body = .ok resource)
    (different : resource.isHeld ≠ held)
    (written : conduct between ⟨.send (listing kind key
      (finalizersWhen held (resource.metadata.finalizers.getD []))), .ok other⟩ after)
    (accepted : Status.isError other.status = false)
    (understands : (Resource.codec kind).ofText other.body = .ok again) :
    Program.Goes conduct (setHeld kind key held).run state
      [⟨.send (fetching kind key), .ok response⟩, ⟨.send (listing kind key
        (finalizersWhen held (resource.metadata.finalizers.getD []))), .ok other⟩]
      (.done (.ok ())) after := by
  have shown := sought_eq_some.mpr (reading_eq_ok.mpr ⟨response, rfl, passed, reads⟩)
  rw [setHeld_run named]
  refine .ask answered ?_
  rw [shown]
  change Program.Goes conduct (if resource.isHeld = held then _ else _) _ _ _ _
  rw [if_neg different]
  refine .ask written ?_
  rw [reading_eq_ok.mpr ⟨other, rfl, accepted, understands⟩]
  exact .here _ _

end ClusterApi

end Wire

end ProxyOperator
