import ProxyOperator.Proofs.Attaining
import ProxyOperator.Proofs.Errands
import ProxyOperator.Proofs.Refusals
import ProxyOperator.Proofs.Servers
import ProxyOperator.Proofs.StatusPatches
/-!
Places where only one operator is at work: a host is stored there, a server keeps what it is sent, and all else
stays as it is. Requests are served, or they fail, and then nobody knows whether they were served.
-/
namespace ProxyOperator

open Attempt Reconcile

/-- What stays as it is: the cluster, the other hosts in it, and whether the server accepts blocks. -/
structure Backdrop where
  cluster : Standstill
  others : List ProxyHost
  exposes : Bool

/-- What passes on a host may change. -/
structure Site where
  stored : ProxyHost
  server : Remote.Server

/-- Two versions of a host of which the declaration is the same. -/
structure ProxyHost.Restates (host other : ProxyHost) : Prop where
  spec : other.spec = host.spec
  key : other.key = host.key
  called : other.metadata.spokenKey = host.metadata.spokenKey
  creation : other.metadata.creation = host.metadata.creation
  deletion : other.metadata.deletion = host.metadata.deletion

namespace ProxyHost.Restates

theorem refl (host : ProxyHost) : host.Restates host := ⟨rfl, rfl, rfl, rfl, rfl⟩

theorem status (host : ProxyHost) (status : ProxyHost.Status) :
    host.Restates { host with status := some status } :=
  ⟨rfl, rfl, rfl, rfl, rfl⟩

theorem trans {first second third : ProxyHost} (start : first.Restates second)
    (further : second.Restates third) : first.Restates third where
  spec := further.spec.trans start.spec
  key := further.key.trans start.key
  called := further.called.trans start.called
  creation := further.creation.trans start.creation
  deletion := further.deletion.trans start.deletion

end ProxyHost.Restates

namespace Effect

/-- A question about the cluster, other than about hosts. -/
def OfCluster : Effect → Prop
  | .read kind _ => kind ≠ .proxyHost
  | .list kind _ => kind ≠ .proxyHost
  | .secret _ => True
  | .service _ => True
  | .pods _ _ => True
  | .node _ => True
  | .connect _ => True
  | _ => False

/-- A question that changes nothing. -/
def Inquires : Effect → Prop
  | .remote _ request => request.Reads
  | effect => effect.OfCluster

/-- What the status of a host is kept with, and told about. -/
def Minds (key : ObjectKey) : Effect → Prop
  | .read kind other => kind = .proxyHost ∧ other = key
  | .writeStatus kind other _ _ => kind = .proxyHost ∧ other = key
  | .addFinalizer kind other => kind = .proxyHost ∧ other = key
  | .publish _ => True
  | .pause _ => True
  | _ => False

theorem Inquires.of_cluster {effect : Effect} (inquires : effect.OfCluster) : effect.Inquires := by
  cases effect with
  | remote => exact inquires.elim
  | _ => exact inquires

end Effect

namespace Backdrop

variable (backdrop : Backdrop)

/-- A request is served. What is written of the host is a finalizer or a status, which is laid over the one that
it has; otherwise only its revision and the like may change. -/
inductive Serves : Site → Exchange Effects → Site → Prop
  | read (site : Site) :
      Serves site ⟨.read .proxyHost site.stored.metadata.spokenKey, .ok (some site.stored)⟩ site
  | list {site : Site} {hosts : List ProxyHost}
      (others : hosts.filter (·.key ≠ site.stored.key) = backdrop.others) :
      Serves site ⟨.list .proxyHost none, .ok hosts⟩ site
  | write {site : Site} {revision : Option String} {status : ProxyHost.Status} {stored : ProxyHost}
      (restates : site.stored.Restates stored)
      (written : stored.status =
        some (Kind.proxyHost.overlaid site.stored.statusOrEmpty status)) :
      Serves site ⟨.writeStatus .proxyHost site.stored.metadata.spokenKey revision status, .ok ()⟩
        { site with stored }
  | hold {site : Site} {stored : ProxyHost} (restates : site.stored.Restates stored)
      (kept : stored.status = site.stored.status) :
      Serves site ⟨.addFinalizer .proxyHost site.stored.metadata.spokenKey, .ok ()⟩
        { site with stored }
  | cluster {site : Site} {effect : Effect} {answer : effect.Answer} (own : effect.OfCluster)
      (known : answer = backdrop.cluster effect) (succeeds : effect.failure? answer = none) :
      Serves site ⟨effect, answer⟩ site
  | remote {site : Site} {session : Remote.Session} {request : Remote.Request}
      {value : request.Result} {server : Remote.Server}
      (serves : site.server.Serves backdrop.exposes request value server) :
      Serves site ⟨.remote session request, .ok value⟩ { site with server }
  | tell (site : Site) (event : Event) : Serves site ⟨.publish event, ()⟩ site
  | wait (site : Site) (time : Rat) : Serves site ⟨.pause time, ()⟩ site

/-- A request is served, or it fails, and may have been served all the same. -/
def Wavers : Conduct Effects Site := fun before exchange after =>
  backdrop.Serves before exchange after ∨
    (exchange.request.failure? exchange.answer).isSome ∧
      (after = before ∨ ∃ answer, backdrop.Serves before ⟨exchange.request, answer⟩ after)

/-- What is answered as long as nothing is written to the server. -/
def facing (site : Site) : Standstill := backdrop.cluster.facing site.server

variable {backdrop} {site after : Site} {exchange : Exchange Effects}

/-! ## Questions and the upkeep of the status -/

/-- A question is answered as it stands, and changes nothing. -/
theorem Serves.inquiry (serves : backdrop.Serves site exchange after)
    (inquires : exchange.request.Inquires) :
    exchange.answer = backdrop.facing site exchange.request ∧ after = site := by
  cases serves with
  | read | list => exact absurd rfl inquires
  | write | hold | tell | wait => exact inquires.elim
  | @cluster effect _ own known =>
      refine ⟨known.trans ?_, rfl⟩
      cases effect with
      | remote => exact own.elim
      | _ => rfl
  | remote serves =>
      obtain ⟨known, rfl⟩ := Standstill.ofServer_of_serves inquires serves
      exact ⟨known.symm, rfl⟩

theorem Wavers.inquiry (wavers : backdrop.Wavers site exchange after)
    (inquires : exchange.request.Inquires) :
    exchange.Agrees (backdrop.facing site) ∧ after = site := by
  rcases wavers with serves | ⟨fails, rfl | ⟨_, serves⟩⟩
  · obtain ⟨known, same⟩ := serves.inquiry inquires
    exact ⟨fun _ => known, same⟩
  · refine ⟨fun succeeds => ?_, rfl⟩
    rw [succeeds] at fails
    cases fails
  · refine ⟨fun succeeds => ?_, (serves.inquiry inquires).2⟩
    rw [succeeds] at fails
    cases fails

/-- The same declaration is stored, and the server is as it was. -/
structure Minded (before after : Site) : Prop where
  restates : before.stored.Restates after.stored
  server : after.server = before.server

theorem Minded.refl (site : Site) : Minded site site := ⟨.refl _, rfl⟩

theorem Minded.trans {first second third : Site} (start : Minded first second)
    (further : Minded second third) : Minded first third :=
  ⟨start.restates.trans further.restates, further.server.trans start.server⟩

theorem Serves.minded {key : ObjectKey} (serves : backdrop.Serves site exchange after)
    (minds : exchange.request.Minds key) : Minded site after := by
  cases serves with
  | read | tell | wait => exact .refl _
  | write restates | hold restates => exact ⟨restates, rfl⟩
  | list | remote => exact minds.elim
  | @cluster effect _ own =>
      cases effect with
      | read => exact absurd minds.1 own
      | writeStatus | addFinalizer | publish | pause => exact own.elim
      | _ => exact minds.elim

theorem Wavers.minded {key : ObjectKey} (wavers : backdrop.Wavers site exchange after)
    (minds : exchange.request.Minds key) : Minded site after := by
  rcases wavers with serves | ⟨_, rfl | ⟨_, serves⟩⟩
  · exact serves.minded minds
  · exact .refl _
  · exact serves.minded minds

/-- What is served did not fail. -/
theorem Serves.succeeds (serves : backdrop.Serves site exchange after) :
    exchange.request.failure? exchange.answer = none := by
  cases serves with
  | cluster _ _ succeeds => exact succeeds
  | _ => rfl

theorem Wavers.serves (wavers : backdrop.Wavers site exchange after)
    (succeeds : exchange.request.failure? exchange.answer = none) :
    backdrop.Serves site exchange after := by
  rcases wavers with serves | ⟨fails, _⟩
  · exact serves
  · rw [succeeds] at fails
    cases fails

/-! ## What is served -/

theorem Serves.read_ok {key : ObjectKey} {found : Option ProxyHost}
    (serves : backdrop.Serves site ⟨.read .proxyHost key, .ok found⟩ after) :
    found = some site.stored ∧ after = site := by
  cases serves with
  | read => exact ⟨rfl, rfl⟩
  | cluster own => exact absurd rfl own

theorem Serves.write_ok {key : ObjectKey} {revision : Option String} {status : ProxyHost.Status}
    (serves : backdrop.Serves site ⟨.writeStatus .proxyHost key revision status, .ok ()⟩ after) :
    Minded site after ∧
      after.stored.statusOrEmpty = Kind.proxyHost.overlaid site.stored.statusOrEmpty status := by
  cases serves with
  | write restates written =>
      refine ⟨⟨restates, rfl⟩, ?_⟩
      rw [Resource.statusOrEmpty, written, Option.getD_some]
  | cluster own => exact own.elim

theorem Serves.list_ok {hosts : List ProxyHost}
    (serves : backdrop.Serves site ⟨.list .proxyHost none, .ok hosts⟩ after) :
    hosts.filter (·.key ≠ site.stored.key) = backdrop.others ∧ after = site := by
  cases serves with
  | list others => exact ⟨others, rfl⟩
  | cluster own => exact absurd rfl own

theorem Serves.remote_ok {session : Remote.Session} {request : Remote.Request}
    {value : request.Result}
    (serves : backdrop.Serves site ⟨.remote session request, .ok value⟩ after) :
    ∃ server, site.server.Serves backdrop.exposes request value server ∧
      after = { site with server } := by
  cases serves with
  | cluster own => exact own.elim
  | remote serves => exact ⟨_, serves, rfl⟩

/-! ## Passes that may fail -/

section

variable (backdrop) in
/-- If an attempt succeeds where requests may fail, it does so with this. -/
abbrev Yields {ε α : Type} (ok : α → Site → Prop) (attempt : Attempt ε α) (site : Site) : Prop :=
  Meets backdrop.Wavers (fun _ _ _ => True) ok (fun _ _ => True) attempt site

variable {ε α β : Type} {key : ObjectKey} {session : Remote.Session} {request : Remote.Request}

theorem yields_survey {attempt : Attempt ε α} {ok : α → Site → Prop} (candid : Candid attempt)
    (asks : Asks Effect.Inquires attempt)
    (comes : ∀ value, under (backdrop.facing site) attempt = .ok value → ok value site) :
    backdrop.Yields ok attempt site := by
  have keeps (before : Site) (exchange : Exchange Effects) (after : Site)
      (inquires : exchange.request.Inquires) (same : before = site)
      (wavers : backdrop.Wavers before exchange after) :
      True ∧ after = site ∧ exchange.Agrees (backdrop.facing site) := by
    subst same
    obtain ⟨agrees, same⟩ := wavers.inquiry inquires
    exact ⟨trivial, same, agrees⟩
  refine (Meets.survey candid asks keeps rfl).mono ?_ fun _ _ _ => trivial
  rintro value after ⟨known, rfl⟩
  exact comes value known

theorem yields_minded {attempt : Attempt ε α} (asks : Asks (Effect.Minds key) attempt) :
    backdrop.Yields (fun _ after => Minded site after) attempt site := by
  have keeps (before : Site) (exchange : Exchange Effects) (after : Site)
      (minds : exchange.request.Minds key) (minded : Minded site before)
      (wavers : backdrop.Wavers before exchange after) : True ∧ Minded site after :=
    ⟨trivial, minded.trans (wavers.minded minds)⟩
  exact (Meets.of_asks asks keeps (.refl site)).mono (fun _ _ minded => minded) fun _ _ _ => trivial

/-- What minds the status comes first. -/
theorem yields_aside {attempt : Attempt ε α} {next : α → Attempt ε β} {ok : β → Site → Prop}
    (asks : Asks (Effect.Minds key) attempt)
    (further : ∀ value after, Minded site after → backdrop.Yields ok (next value) after) :
    backdrop.Yields ok (attempt >>= next) site :=
  .bind ((yields_minded asks).mono further fun _ _ _ => trivial)

theorem yields_remote {ok : request.Result → Site → Prop}
    (answers : ∀ value server, site.server.Serves backdrop.exposes request value server →
      ok value { site with server }) :
    backdrop.Yields ok ((Effect.remote session request).ask : Pass request.Result) site := by
  refine Meets.remote (fun value after wavers => ⟨trivial, ?_⟩) fun _ _ _ => ⟨trivial, trivial⟩
  obtain ⟨server, serves, rfl⟩ := (wavers.serves rfl).remote_ok
  exact answers value server serves

/-- A status that was changed is what the change made of some status, laid over that one. -/
theorem yields_updateStatus {context : Context} {change : ProxyHost.Status → ProxyHost.Status} :
    backdrop.Yields
      (fun _ after => Minded site after ∧
        ∃ older, after.stored.statusOrEmpty = Kind.proxyHost.overlaid older (change older))
      (updateStatus context .proxyHost key change) site := by
  have start : Minded site site := .refl site
  refine Meets.updateStatus (fun latest after => Minded site after ∧ after.stored = latest)
    ?_ ?_ ?_ start
  · intro time before after minded wavers
    exact ⟨trivial, minded.trans (wavers.minded (show Effect.Minds key (.pause time) from trivial))⟩
  · intro found before after minded wavers
    have read := minded.trans (wavers.minded ⟨rfl, rfl⟩)
    apply And.intro trivial
    cases found with
    | error failure => exact ⟨trivial, read⟩
    | ok found =>
        obtain ⟨rfl, rfl⟩ := (wavers.serves rfl).read_ok
        exact ⟨read, rfl⟩
  · rintro latest revision done before after ⟨minded, rfl⟩ wavers
    have written := minded.trans (wavers.minded ⟨rfl, rfl⟩)
    apply And.intro trivial
    cases done with
    | error failure => exact ⟨trivial, written⟩
    | ok => exact ⟨written, _, (wavers.serves rfl).write_ok.2⟩

end

/-! ## Passes that are served -/

section

variable (backdrop) in
/-- An attempt is sure to succeed with this where requests are served, and makes nothing. -/
abbrev Secures {ε α : Type} (ok : α → Site → Prop) (attempt : Attempt ε α) (site : Site) : Prop :=
  Attains backdrop.Serves (fun effect => ∀ collection, effect.creates collection = false) ok attempt
    site

variable {ε α : Type} {session : Remote.Session} {request : Remote.Request}

/-- An attempt comes to what it comes to as things stand, if there it asks only what is answered. -/
theorem secures_survey {attempt : Attempt ε α} {ok : α → Site → Prop} {value : α}
    (candid : Candid attempt)
    (asks : Asks (fun effect => effect.OfCluster ∨ effect.isRemote = true) attempt)
    (comes : under (backdrop.facing site) attempt = .ok value) (holds : ok value site) :
    backdrop.Secures ok attempt site := by
  refine .survey candid asks (fun effect asked succeeds => ?_) comes holds
  have only (inquires : effect.Inquires) (answer : effect.Answer) (after : Site)
      (serves : backdrop.Serves site ⟨effect, answer⟩ after) :
      answer = backdrop.facing site effect ∧ after = site :=
    serves.inquiry inquires
  rcases asked with own | remote
  · have served : backdrop.facing site effect = backdrop.cluster effect := by
      cases effect with
      | remote => exact own.elim
      | _ => rfl
    refine ⟨fun collection => ?_, .cluster own served succeeds, only (.of_cluster own)⟩
    cases effect with
    | remote => exact own.elim
    | _ => rfl
  · cases effect with
    | remote session request =>
        cases known : Standstill.ofServer site.server request with
        | error failure =>
            have faced : backdrop.facing site (.remote session request) = Except.error failure := known
            rw [faced] at succeeds
            cases succeeds
        | ok value =>
            have faced : backdrop.facing site (.remote session request) = Except.ok value := known
            obtain ⟨reads, serves⟩ := Standstill.serves_of_ofServer backdrop.exposes known
            refine ⟨fun collection => ?_, ?_, only reads⟩
            · cases request with
              | create => exact reads.elim
              | _ => rfl
            · rw [faced]
              exact .remote serves
    | _ => cases remote

theorem secures_updateStatus {context : Context} {key : ObjectKey}
    {change : ProxyHost.Status → ProxyHost.Status}
    (called : site.stored.metadata.spokenKey = key) :
    backdrop.Secures
      (fun _ after => Minded site after ∧
        after.stored.statusOrEmpty =
          Kind.proxyHost.overlaid site.stored.statusOrEmpty (change site.stored.statusOrEmpty))
      (updateStatus context .proxyHost key change) site := by
  subst called
  apply Attains.retry
  apply Attains.bind
  refine ⟨fun _ => rfl, ⟨_, _, .read site⟩, fun found after serves => ?_⟩
  cases found with
  | error => cases serves.succeeds
  | ok found =>
      obtain ⟨rfl, rfl⟩ := serves.read_ok
      refine ⟨fun _ => rfl, ⟨_, _, Serves.write (.status _ _) rfl⟩, fun done after serves => ?_⟩
      cases done with
      | error => cases serves.succeeds
      | ok => exact serves.write_ok

theorem secures_hold {host : ProxyHost}
    (called : site.stored.metadata.spokenKey = host.metadata.spokenKey) :
    backdrop.Secures
      (fun _ after => Minded site after ∧ after.stored.status = site.stored.status)
      (hold host) site := by
  unfold hold
  split
  · exact .pure ⟨.refl site, rfl⟩
  · rw [← called]
    refine ⟨fun _ => rfl, ⟨_, _, .hold (.refl _) rfl⟩, fun done after serves => ?_⟩
    cases serves with
    | hold restates kept => exact ⟨⟨restates, rfl⟩, kept⟩
    | cluster own => exact own.elim

end

end Backdrop

end ProxyOperator
