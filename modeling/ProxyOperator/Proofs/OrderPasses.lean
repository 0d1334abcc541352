import ProxyOperator.Proofs.Orders
import ProxyOperator.Proofs.Refusals
import ProxyOperator.Proofs.Standstill
/-!
Passes on hosts and streams in worlds that list in different orders. Every part of a pass goes the same way in
both, but for one: of several older claims the first that is listed is told of.
-/
namespace ProxyOperator

open Attempt Reconcile

variable {ρ : Type} {here there : Respondent ρ} {context : Context}

/-! ## Tokens, sessions and targets -/

namespace Reconcile

theorem findToken_tracks (shuffled : Shuffled here there) (reference : Option ResourceRef)
    («namespace» : String) : Tracks here there Eq (findToken context reference «namespace») := by
  have known {«namespace» : String} {one other : List Token}
      (listed : one.Perm other ∧ ∃ state, (here state (.list .token (some «namespace»))).1 = .ok one) :
      firstByName one = firstByName other := by
    rcases listed with ⟨same, state, known⟩
    exact firstByName_perm same (shuffled.distinct state «namespace» one known)
  unfold findToken
  cases reference with
  | some given => exact .of_asks shuffled (.bind ⟨trivial, fun _ => trivial⟩ fun _ => .demand)
  | none =>
      refine .listing (shuffled.list .token (some «namespace»)) (fun one other listed => ?_)
        fun own => ?_
      · dsimp only
        rw [listed.1.isEmpty_eq, pure_bind, pure_bind, known listed]
      · dsimp only
        split
        · refine .listing (shuffled.list .token (some _)) (fun one other listed => ?_) fun _ => ?_
          · rw [known listed]
          · exact .of_asks shuffled .demand
        · exact .of_asks shuffled (.bind .pure fun _ => .demand)

theorem connect_tracks (shuffled : Shuffled here there) (reference : Option ResourceRef)
    («namespace» : String) : Tracks here there Eq (connect context reference «namespace») :=
  .bind (findToken_tracks shuffled reference «namespace») fun _ =>
    .of_asks shuffled <| .bind .demand fun _ => .bind ⟨trivial, fun _ => trivial⟩ fun _ => .pure

end Reconcile

namespace Target

theorem nodeIps_tracks (shuffled : Shuffled here there) («namespace» : String)
    (labels : Dictionary String) : Tracks here there Eq (nodeIps «namespace» labels) := by
  refine .listing (shuffled.pods «namespace» _) (fun one other same => ?_) fun pods => ?_
  · rw [liveNodes_perm same]
  · refine .of_asks shuffled (.bind (.mapM (fun name => ?_) _) fun _ => .pure)
    exact .bind ⟨trivial, fun _ => trivial⟩ fun _ => .pure

theorem ofService_tracks (shuffled : Shuffled here there) (owner : ObjectKey) (unscoped : Bool)
    (scheme : Scheme) («namespace» : String) (explicit : Option UInt16) (service : Service) :
    Tracks here there Eq (ofService owner unscoped scheme «namespace» explicit service) := by
  unfold ofService
  dsimp only
  split
  · exact .throw
  · split
    · exact .of_asks shuffled (.bind .targetOrFail fun _ => .pure)
    · refine .bind (.of_asks shuffled .targetOrFail) fun port => .doIf .throw fun _ => ?_
      refine .bind (nodeIps_tracks shuffled _ _) fun addresses => .doIf .throw fun _ => ?_
      exact .of_asks shuffled .targetOrFail
    · exact .of_asks shuffled (.bind .targetOrFail fun _ => .bind .targetOrFail fun _ => .pure)

theorem resolve_tracks (shuffled : Shuffled here there) (owner : ObjectKey) (unscoped : Bool)
    (forward : Forward) : Tracks here there Eq (resolve owner unscoped forward) := by
  have found : Tracks here there Eq (coordinates owner unscoped forward) := by
    unfold coordinates
    split
    · exact .throw
    · exact .throw
    · exact .of_asks shuffled .targetOrFail
    · refine .bind (.of_asks shuffled ?_) fun service => ofService_tracks shuffled _ _ _ _ _ _
      exact .bind ⟨trivial, fun _ => trivial⟩ fun _ => .demand
  exact .bind found fun _ => .doIf .throw fun _ => .doIf .throw fun _ => .pure

end Target

/-! ## Parts of passes -/

namespace Reconcile

theorem ProxyHosts.resolveTargets_tracks (shuffled : Shuffled here there) (host : ProxyHost)
    (unscoped : Bool) : Tracks here there Eq (resolveTargets host unscoped) := by
  refine .bind (Target.resolve_tracks shuffled _ _ _) fun _ => ?_
  refine .bind (.mapM (fun location => ?_) _) fun _ => .pure
  exact .bind (Target.resolve_tracks shuffled _ _ _) fun _ => .pure

theorem upkeep_unlisted {kind : Kind} {key : ObjectKey} : Upkeep Effect.Unlisted kind key :=
  ⟨trivial, fun _ _ => trivial, fun _ => trivial, fun _ => trivial⟩

variable {kind : Kind} {resource : Resource kind}

theorem dismiss_tracks {cleanup : Option (Pass String)} (shuffled : Shuffled here there)
    (cleans : ∀ pass ∈ cleanup, Tracks here there Eq pass) :
    Tracks here there Eq (dismiss resource cleanup) := by
  have tells (event : Event) : Effect.Unlisted (.publish event) := trivial
  unfold dismiss
  split
  · unfold release
    cases cleanup with
    | none => exact .of_asks shuffled (farewell_asks trivial)
    | some pass =>
        refine .bind (.outcome (cleans pass rfl)) fun outcome => .of_asks shuffled ?_
        cases outcome with
        | ok reason => exact .bind (announce_asks tells _ _ _ _ _) fun _ => farewell_asks trivial
        | error failure =>
            exact .bind (announce_asks tells _ _ _ _ _) fun _ => farewell_asks trivial
  · exact .pure

end Reconcile

theorem Adopting.cleanup_tracks {kind : Kind} {adopting : Adopting kind} {resource : Resource kind}
    (shuffled : Shuffled here there) :
    ∀ pass ∈ adopting.cleanup context resource, Tracks here there Eq pass := by
  intro pass member
  obtain rfl := Adopting.eq_of_cleanup member
  refine .bind (connect_tracks shuffled _ _) fun session => .of_asks shuffled ?_
  exact cleanUp_asks (fun _ _ _ => trivial) (fun _ _ => trivial) (fun _ _ => trivial)
    fun _ _ => trivial

/-! ## Claims that come too late -/

/-- What a resource may be told: that another one, which is listed, claimed first what it wants. -/
inductive Refusal (respond : Respondent ρ) : {kind : Kind} → Resource kind → String → Prop
  | domain {state : ρ} {hosts : List ProxyHost} {host rival : ProxyHost} {domain : String}
      (listed : (respond state (.list .proxyHost none)).1 = .ok hosts) (inside : rival ∈ hosts)
      (older : rival.precedes host = true) (contested : host.contestedDomain? rival = some domain) :
      Refusal respond host
        ("domain " ++ domain ++ " is already claimed by ProxyHost " ++ rival.metadata.spokenKey.text)
  | port {state : ρ} {streams : List Stream} {stream rival : Stream}
      (listed : (respond state (.list .stream none)).1 = .ok streams) (inside : rival ∈ streams)
      (older : rival.precedes stream = true) (contests : stream.Contests rival) :
      Refusal respond stream
        ("incoming port " ++ toString stream.spec.incomingPort.toNat ++
          " is already claimed by Stream " ++ rival.metadata.spokenKey.text)

namespace Reconcile

/-- Whether a claim comes too late does not depend on the order of the list of all others, but what is told
then may. -/
theorem claims_track {kind : Kind} {β : Type} {words : String → Prop}
    {check : List (Resource kind) → Pass Unit} (shuffled : Shuffled here there)
    (rival? : List (Resource kind) → Option β) (text : β → String)
    (decides : ∀ one other, one.Perm other → ((rival? one).isSome = true ↔ (rival? other).isSome = true))
    (accepts : ∀ listed, rival? listed = none → check listed = pure ())
    (refuses : ∀ listed rival, rival? listed = some rival → check listed = throw (.invalid (text rival)))
    (tells : ∀ state listed others rival, (here state (.list kind none)).1 = .ok listed →
      listed.Perm others → rival? others = some rival → words (text rival)) :
    Tracks here there (Failure.Reworded words) (Pass.listAll kind >>= check) := by
  intro state
  refine Respondent.alike_bind (shuffled.list kind none state) ?_
  rintro _ _ after _ (⟨same, moment, known⟩ | ⟨⟨⟩⟩) rfl
  · rename_i one other
    change Stay.Alike _ _ _ (here.stay (check one).run after) (there.stay (check other).run after)
    have decided := decides one other same
    cases first : rival? one with
    | none =>
        have second : rival? other = none := by simpa [first] using decided
        rw [accepts one first, accepts other second]
        exact Respondent.alike_done rfl (.ok rfl)
    | some rival =>
        obtain ⟨rivalElse, second⟩ : ∃ rival, rival? other = some rival := by
          simpa [first, Option.isSome_iff_exists] using decided
        rw [refuses one _ first, refuses other _ second]
        have told := tells moment one one rival known (.refl _) first
        have toldElse := tells moment one other rivalElse known same second
        exact Respondent.alike_done rfl (.error (.refused told toldElse))
  · exact Respondent.alike_done rfl (.error (.same _))

theorem ProxyHosts.checkClaims_tracks (shuffled : Shuffled here there) (host : ProxyHost) :
    Tracks here there (Failure.Reworded (Refusal here host)) (checkClaims host) := by
  apply claims_track shuffled host.rival? fun found =>
    "domain " ++ found.2 ++ " is already claimed by ProxyHost " ++ found.1.metadata.spokenKey.text
  case decides =>
    intro one other same
    rw [host.rival?_isSome, host.rival?_isSome]
    simp only [same.mem_iff]
  case accepts =>
    intro listed none
    rw [none]
  case refuses =>
    intro listed found some
    rw [some]
  case tells =>
    intro state listed others found known same some
    have ⟨inside, older, contested⟩ := ProxyHost.of_rival? some
    exact .domain known (same.mem_iff.mpr inside) older contested

theorem Streams.checkClaims_tracks (shuffled : Shuffled here there) (stream : Stream) :
    Tracks here there (Failure.Reworded (Refusal here stream)) (checkClaims stream) := by
  apply claims_track shuffled stream.rival? fun rival =>
    "incoming port " ++ toString stream.spec.incomingPort.toNat ++ " is already claimed by Stream " ++
      rival.metadata.spokenKey.text
  case decides =>
    intro one other same
    rw [stream.rival?_isSome, stream.rival?_isSome]
    simp only [same.mem_iff]
  case accepts =>
    intro listed none
    rw [none]
  case refuses =>
    intro listed rival some
    rw [some]
  case tells =>
    intro state listed others rival known same some
    have ⟨inside, older, contests⟩ := Stream.of_rival? some
    exact .port known (same.mem_iff.mpr inside) older contests

/-- Failures to get a claim differ in words as what is told of them does. -/
theorem stage_reworded {words : String → Prop} {one other : Failure}
    (reworded : one.Reworded words other) :
    StageFailure.Reworded words ⟨.claim, one⟩ ⟨.claim, other⟩ := by
  cases reworded with
  | same => exact .same _
  | refused told toldElse => exact .refused told toldElse

theorem ProxyHosts.converge_tracks (shuffled : Shuffled here there) (host : ProxyHost) :
    Tracks here there (StageFailure.Reworded (Refusal here host)) (converge context host) := by
  have certifies (session : Remote.Session) :
      Asks Effect.Unlisted (HostCertificate.resolve session host.spec.ssl host.spec.domains
        host.metadata.spokenKey.namespace context.settings.defaultEmail) :=
    HostCertificate.resolve_permitted session _ _ _ _ (fun _ _ => trivial)
      (fun _ _ _ _ => trivial) fun _ _ _ _ => trivial
  have guards (session : Remote.Session) :
      Asks Effect.Unlisted
        (HostAccess.resolve session host.spec.accessList host.metadata.spokenKey.namespace) :=
    HostAccess.resolve_permitted session _ _ (fun _ _ => trivial) fun _ _ _ _ => trivial
  unfold converge
  refine .bind (.of_asks shuffled .check) fun _ => ?_
  refine .bind (.staged (connect_tracks shuffled _ _)) fun session => ?_
  refine .bind (.staged_of (checkClaims_tracks shuffled host) fun _ _ => stage_reworded) fun _ => ?_
  refine .bind (.of_asks shuffled (Adopting.findRemote_asks upkeep_unlisted trivial
    fun _ => trivial)) fun found => ?_
  refine .bind (.of_asks shuffled (.staged (certifies session))) fun certificate => ?_
  refine .bind (.of_asks shuffled (.staged (guards session))) fun accessListId => ?_
  refine .bind (.staged (resolveTargets_tracks shuffled host _)) fun targets => ?_
  refine .bind (.of_asks shuffled (.staged (Adopting.write_asks upkeep_unlisted (fun _ => trivial)
    trivial))) fun first => ?_
  have enables (remote : Remote.Host) :
      Tracks here there (StageFailure.Reworded (Refusal here host)) (do
        unless remote.enabled do
          Stage.remote.run (session.enable .proxyHosts remote.id)
        return ⟨remote.id, found.2, remote.health.online, certificate⟩ : Staged Converged) :=
    .of_asks shuffled (.doUnless (.staged ⟨trivial, fun _ => trivial⟩) fun _ => .pure)
  dsimp only
  split
  · refine .bind ?_ enables
    refine .bind (.staged (resolveTargets_tracks shuffled host true)) fun targets => ?_
    refine .of_asks shuffled ?_
    split
    · exact .pure
    · exact .staged ⟨trivial, fun _ => trivial⟩
  · exact enables first

theorem Streams.converge_tracks (shuffled : Shuffled here there) (stream : Stream) :
    Tracks here there (StageFailure.Reworded (Refusal here stream)) (converge context stream) := by
  unfold converge
  refine .bind (.of_asks shuffled .check) fun _ => ?_
  refine .bind (.staged (connect_tracks shuffled _ _)) fun session => ?_
  refine .bind (.staged_of (checkClaims_tracks shuffled stream) fun _ _ => stage_reworded)
    fun _ => ?_
  refine .bind (.of_asks shuffled (Adopting.findRemote_asks upkeep_unlisted trivial
    fun _ => trivial)) fun found => ?_
  refine .bind (.staged (Target.resolve_tracks shuffled _ _ _)) fun target => .of_asks shuffled ?_
  refine .bind (.staged (Adopting.write_asks upkeep_unlisted (fun _ => trivial) trivial))
    fun remote => ?_
  exact .doUnless (.staged ⟨trivial, fun _ => trivial⟩) fun _ => .pure

end Reconcile

/-! ## Passes -/

/-- Passes come to the same in two worlds; or their claims are refused in both, and then they come to the same
but for the words of the refusal. -/
def Stay.Agree {α : Type} (words : String → Prop) (alike : ρ → ρ → Prop)
    (one other : Stay ρ (Except Failure α)) : Prop :=
  one.Alike Eq Eq Eq other ∨ one.Alike (Effect.Reworded words) alike (BothRefused words) other

namespace Stay.Agree

variable {α β : Type} {words : String → Prop} {alike : ρ → ρ → Prop}

/-- What is asked of the remote server is the same. -/
theorem remote {one other : Stay ρ (Except Failure α)} (agree : one.Agree words alike other) :
    one.requests.filter (·.isRemote) = other.requests.filter (·.isRemote) := by
  have filtered {asked askedElse : List Effect}
      (reworded : List.Forall₂ (Effect.Reworded words) asked askedElse) :
      asked.filter (·.isRemote) = askedElse.filter (·.isRemote) := by
    induction reworded with
    | nil => rfl
    | cons head _ induction =>
        cases head with
        | same effect => rw [List.filter_cons, List.filter_cons, induction]
        | publish | write => exact induction
  rcases agree with same | refused
  · exact filtered same.reworded.requests
  · exact filtered refused.requests

theorem of_tracks {pass : Pass α} (tracks : Tracks here there Eq pass) (state : ρ) :
    Agree words alike (here.stay pass.run state) (there.stay pass.run state) :=
  .inl ((tracks state).mono (fun _ _ => id) (fun _ _ => id) fun _ _ => matches_eq_iff.mp)

/-- Programs that are the same so far, and go on so from where they are. -/
theorem append {program : Program Effects β} {next : β → Program Effects (Except Failure α)}
    {state : ρ}
    (begun : Stay.Alike Eq Eq Eq (here.stay program state) (there.stay program state))
    (rest : ∀ value after,
      Agree words alike (here.stay (next value) after) (there.stay (next value) after)) :
    Agree words alike (here.stay (program >>= next) state) (there.stay (program >>= next) state) := by
  have further := rest (here.stay program state).outcome (here.stay program state).after
  rcases further with same | refused
  · refine .inl (Respondent.alike_append begun ?_)
    rw [← begun.outcome, ← begun.after]
    exact same
  · refine .inr (Respondent.alike_append begun.reworded ?_)
    rw [← begun.outcome, ← begun.after]
    exact refused

theorem bind {pass : Pass β} {next : β → Pass α} (shuffled : Shuffled here there)
    (asks : Asks Effect.Unlisted pass)
    (rest : ∀ value state,
      Agree words alike (here.stay (next value).run state) (there.stay (next value).run state))
    (state : ρ) :
    Agree words alike (here.stay (pass >>= next).run state)
      (there.stay (pass >>= next).run state) := by
  refine append (shuffled.stay_eq asks state ▸ .refl _) fun outcome after => ?_
  cases outcome with
  | ok value => exact rest value after
  | error failure => exact .inl (.refl _)

/-- A pass is finished in the same way, unless its claim is refused. -/
theorem finish {kind : Kind} {resource : Resource kind} {converge : Staged β}
    {succeed : β → Pass Action} (shuffled : Shuffled here there)
    (heedless : Heedless words alike here)
    (tracks : Tracks here there (StageFailure.Reworded words) converge)
    (succeeds : ∀ outcome, Asks Effect.Unlisted (succeed outcome)) (state : ρ) :
    Agree words alike (here.stay (finish context resource converge succeed).run state)
      (there.stay (finish context resource converge succeed).run state) := by
  have ends := (tracks state).outcome
  rw [finish_run]
  rcases ends.eq_or_refused with same | ⟨one, other, told, toldElse, refused, refusedElse⟩
  · refine append ⟨(tracks state).requests, (tracks state).after, same⟩ fun outcome after => ?_
    cases outcome with
    | ok value => exact .inl (shuffled.stay_eq (succeeds value) after ▸ .refl _)
    | error stopped =>
        exact .inl (shuffled.stay_eq (abandon_asks stopped upkeep_unlisted) after ▸ .refl _)
  · refine .inr (Respondent.alike_append (tracks state).reworded ?_)
    rw [refused, refusedElse, ← (tracks state).after]
    have asks : Asks Effect.Unlisted (abandon context resource ⟨.claim, .invalid other⟩) :=
      abandon_asks _ upkeep_unlisted
    dsimp only
    rw [← shuffled.stay_eq asks]
    exact heedless.abandon told toldElse (heedless.same _)

end Stay.Agree

namespace Reconcile

variable {alike : ρ → ρ → Prop} (context)

theorem ProxyHosts.reconcile_agree (shuffled : Shuffled here there) {host : ProxyHost}
    (heedless : Heedless (Refusal here host) alike here) (state : ρ) :
    Stay.Agree (Refusal here host) alike (here.stay (reconcile context host).run state)
      (there.stay (reconcile context host).run state) := by
  unfold reconcile
  split
  · exact .of_tracks (dismiss_tracks shuffled (Adopting.cleanup_tracks shuffled)) state
  · refine .bind shuffled (hold_asks host trivial) (fun _ => ?_) state
    refine .bind shuffled (begin_asks trivial (fun _ _ => trivial) fun _ => trivial) fun _ => ?_
    refine .finish shuffled heedless (converge_tracks shuffled host) fun outcome => ?_
    exact .bind upkeep_unlisted.updateStatus fun _ => .pure

theorem Streams.reconcile_agree (shuffled : Shuffled here there) {stream : Stream}
    (heedless : Heedless (Refusal here stream) alike here) (state : ρ) :
    Stay.Agree (Refusal here stream) alike (here.stay (reconcile context stream).run state)
      (there.stay (reconcile context stream).run state) := by
  unfold reconcile
  split
  · exact .of_tracks (dismiss_tracks shuffled (Adopting.cleanup_tracks shuffled)) state
  · refine .bind shuffled (hold_asks stream trivial) (fun _ => ?_) state
    refine .bind shuffled (begin_asks trivial (fun _ _ => trivial) fun _ => trivial) fun _ => ?_
    refine .finish shuffled heedless (converge_tracks shuffled stream) fun outcome => ?_
    exact .bind upkeep_unlisted.updateStatus fun _ => .pure

end Reconcile

/-- In which order the cluster lists what there is makes no difference to a pass on a host or a stream: it asks
the same of the remote server, writes the same to the cluster and ends in the same way. Only of several who
claimed first what is wanted another one may be named, where the claim is refused. -/
theorem order_irrelevant (context : Context) (alike : ρ → ρ → Prop)
    (shuffled : Shuffled here there) :
    (∀ host : ProxyHost, Heedless (Refusal here host) alike here → ∀ state,
      let one := here.stay (reconcile context .proxyHost host).run state
      let other := there.stay (reconcile context .proxyHost host).run state
      one.requests.filter (·.isRemote) = other.requests.filter (·.isRemote) ∧
        one.Agree (Refusal here host) alike other) ∧
    (∀ stream : Stream, Heedless (Refusal here stream) alike here → ∀ state,
      let one := here.stay (reconcile context .stream stream).run state
      let other := there.stay (reconcile context .stream stream).run state
      one.requests.filter (·.isRemote) = other.requests.filter (·.isRemote) ∧
        one.Agree (Refusal here stream) alike other) := by
  constructor
  · intro host heedless state
    have agree := ProxyHosts.reconcile_agree context shuffled heedless state
    exact ⟨agree.remote, agree⟩
  · intro stream heedless state
    have agree := Streams.reconcile_agree context shuffled heedless state
    exact ⟨agree.remote, agree⟩

namespace Sample

/-- A cluster with some Tokens and hosts, where a host is stored. -/
def cluster (tokens : List Token) (hosts : List ProxyHost) : Respondent ProxyHost
  | stored, .list .token _ => (.ok tokens, stored)
  | stored, .list .proxyHost _ => (.ok hosts, stored)
  | stored, .read .proxyHost _ => (.ok (some stored), stored)
  | stored, .writeStatus .proxyHost _ _ status => (.ok (), { stored with status := some status })
  | stored, .connect _ => (.ok (), stored)
  | stored, effect => (Standstill.barren effect, stored)

theorem cluster_heedless (words : String → Prop) (tokens : List Token) (hosts : List ProxyHost) :
    Heedless words (Resource.Reworded words) (cluster tokens hosts) := by
  constructor
  case same => exact .refl
  case told => exact fun alike _ => alike
  case waited => exact fun _ alike => alike
  case read =>
    intro one other kind key alike
    cases kind with
    | proxyHost => exact ⟨.ok (.some alike), alike⟩
    | _ => exact ⟨.error rfl, alike⟩
  case written =>
    intro one other kind status statusElse key revision alike reworded
    cases kind with
    | proxyHost => exact ⟨rfl, alike.metadata, alike.spec, .some reworded⟩
    | _ => exact ⟨rfl, alike⟩

end Sample

/-- Two hosts claimed a domain first, and two Tokens may be used. Which ones come first in a list is told in
the refusal, and makes no other difference. -/
theorem order_irrelevant_rivals :
    let host := Sample.host "web" false [⟨"10.0.0.1", 80⟩]
    let first := Sample.host "alpha" false [⟨"10.0.0.2", 80⟩]
    let second := Sample.host "beta" false [⟨"10.0.0.3", 80⟩]
    let token := Sample.token
    let spare : Token := { token with metadata.name := some "spare" }
    let here := Sample.cluster [token, spare] [first, second, host]
    let there := Sample.cluster [spare, token] [second, first, host]
    let one := here.stay (reconcile Sample.context .proxyHost host).run host
    let other := there.stay (reconcile Sample.context .proxyHost host).run host
    Shuffled here there ∧
      one.outcome = .error (.invalid "domain a.example is already claimed by ProxyHost apps/alpha") ∧
      other.outcome = .error (.invalid "domain a.example is already claimed by ProxyHost apps/beta") ∧
      one.Agree (Refusal here host) (Resource.Reworded (Refusal here host)) other := by
  intro host first second token spare here there one other
  have shuffled : Shuffled here there := by
    constructor
    case answers =>
      intro _ effect
      cases effect with
      | list kind scope =>
          cases kind with
          | token => exact .ok (.swap _ _ _)
          | proxyHost => exact .ok (.swap _ _ _)
          | _ => exact .error rfl
      | pods => exact .error rfl
      | read kind key => cases kind <;> rfl
      | writeStatus kind => cases kind <;> rfl
      | _ => rfl
    case states =>
      intro _ effect
      cases effect with
      | list kind | read kind | writeStatus kind => cases kind <;> rfl
      | _ => rfl
    case distinct =>
      rintro _ _ _ ⟨⟩
      decide
  have refused : one.outcome =
      .error (.invalid "domain a.example is already claimed by ProxyHost apps/alpha") := by
    decide +kernel
  have refusedElse : other.outcome =
      .error (.invalid "domain a.example is already claimed by ProxyHost apps/beta") := by
    decide +kernel
  have irrelevant := order_irrelevant Sample.context (Resource.Reworded (Refusal here host)) shuffled
  exact ⟨shuffled, refused, refusedElse,
    (irrelevant.1 host (Sample.cluster_heedless _ _ _) host).2⟩

end ProxyOperator
