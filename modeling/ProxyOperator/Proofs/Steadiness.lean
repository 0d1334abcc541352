import ProxyOperator.Proofs.Settling
/-!
Passes on hosts that are settled. Where requests are served, such a pass is sure to succeed; it makes nothing,
writes what is there already, and records what is on record.
-/
namespace ProxyOperator

open Attempt Reconcile

/-- Two states of a server that read the same. -/
structure Remote.Server.Alike (before after : Remote.Server) : Prop where
  hosts : after.hosts.map (·.reading) = before.hosts.map (·.reading)
  certificates : after.certificates = before.certificates
  accessLists : after.accessLists = before.accessLists

/-- What is sent to a host that has it reads the same afterwards. -/
theorem Remote.Server.Alike.of_sent {server : Remote.Server} {id : UInt32} {body : Remote.Host.Payload}
    (sent : ∀ other ∈ server.hosts, other.id = id →
      (other.overwritten body).reading = other.reading) :
    server.Alike (server.changeHost id (·.overwritten body)) where
  hosts := by
    unfold changeHost
    rw [List.map_map]
    refine List.map_congr_left fun other member => ?_
    rw [Function.comp]
    split
    · next own => exact sent other member own
    · rfl
  certificates := rfl
  accessLists := rfl

/-- Two versions of a host of which the status says the same about its remote host and its certificate. -/
structure ProxyHost.Records (before after : ProxyHost) : Prop where
  footing : Adopting.proxyHosts.footingOf after = Adopting.proxyHosts.footingOf before
  certificateId : after.statusOrEmpty.certificateId = before.statusOrEmpty.certificateId

namespace ProxyHost

variable {before after host other : ProxyHost}

theorem Records.of_status (same : after.status = before.status) : before.Records after := by
  constructor
  · unfold Adopting.footingOf Resource.statusOrEmpty
    rw [same]
  · unfold Resource.statusOrEmpty
    rw [same]

/-- A status that says the same makes no difference once it is laid over the one that is stored. -/
theorem Records.of_written {status : Status}
    (written : after.statusOrEmpty = Kind.proxyHost.overlaid before.statusOrEmpty status)
    (footing : Adopting.proxyHosts.footing status = Adopting.proxyHosts.footingOf before)
    (certificateId : status.certificateId.or before.statusOrEmpty.certificateId =
      before.statusOrEmpty.certificateId) :
    before.Records after := by
  have id : status.id.or before.statusOrEmpty.id = before.statusOrEmpty.id :=
    congrArg (·.or before.statusOrEmpty.id) (congrArg (·.id) footing) |>.trans Option.or_self
  have bound : status.bound = before.statusOrEmpty.bound := congrArg (·.bound) footing
  have initial : Record.partOver Snapshot.overlaid before.statusOrEmpty.initial status.initial =
      before.statusOrEmpty.initial :=
    calc
      Record.partOver Snapshot.overlaid before.statusOrEmpty.initial status.initial
        = Record.partOver Snapshot.overlaid before.statusOrEmpty.initial
            before.statusOrEmpty.initial := congrArg _ (congrArg (·.initial) footing)
      _ = before.statusOrEmpty.initial :=
          congrArg (·.initial) (Kind.proxyHost.overlaid_self before.statusOrEmpty)
  constructor
  · change Footing.mk after.statusOrEmpty.id after.statusOrEmpty.bound after.statusOrEmpty.initial = _
    rw [written]
    exact congr (congrArg₂ Footing.mk id bound) initial
  · rw [written]
    exact certificateId

theorem Records.trans {third : ProxyHost} (start : before.Records after)
    (further : after.Records third) : before.Records third where
  footing := further.footing.trans start.footing
  certificateId := further.certificateId.trans start.certificateId

/-! ## The same declaration once more -/

namespace Restates

variable (restates : host.Restates other)

include restates

theorem rival? (hosts : List ProxyHost) : other.rival? hosts = host.rival? hosts := by
  unfold ProxyHost.rival?
  have precedes (rival : ProxyHost) : rival.precedes other = rival.precedes host := by
    have claim : other.claimKey = host.claimKey := by
      unfold Resource.claimKey
      exact congrArg₂ ClaimKey.mk restates.creation restates.key
    unfold Resource.precedes
    rw [restates.key, claim]
  have contested (rival : ProxyHost) : other.contestedDomain? rival = host.contestedDomain? rival := by
    unfold contestedDomain?
    rw [restates.spec]
  simp only [precedes, contested]

theorem resolveTargets (unscoped : Bool) :
    ProxyHosts.resolveTargets other unscoped = ProxyHosts.resolveTargets host unscoped := by
  unfold ProxyHosts.resolveTargets
  rw [restates.spec, restates.called]

theorem payload (targets : ProxyHosts.Targets) (certificate : HostCertificate)
    (accessListId : Option UInt32) (unscoped : Bool) :
    ProxyHosts.payload other targets certificate accessListId unscoped =
      ProxyHosts.payload host targets certificate accessListId unscoped := by
  unfold ProxyHosts.payload
  rw [restates.spec]

end Restates

end ProxyHost

/-- Blocks are sent only if they are accepted. -/
theorem Reconcile.ProxyHosts.payload_accepted {host : ProxyHost} {targets : Targets}
    {certificate : HostCertificate} {accessListId : Option UInt32} {exposes : Bool} :
    (payload host targets certificate accessListId exposes).Accepted exposes := by
  cases exposes with
  | true => exact fun _ => rfl
  | false => exact nofun

namespace Effect

theorem Refers.ofCluster_or_isRemote {effect : Effect} (refers : effect.Refers) :
    effect.OfCluster ∨ effect.isRemote = true := by
  rcases refers with own | consults | consults
  · exact .inl own
  all_goals
    cases effect with
    | remote => exact .inr rfl
    | _ => exact consults.elim

end Effect

namespace Backdrop

variable {backdrop : Backdrop} {context : Context} {host other : ProxyHost}
  {session : Remote.Session} {certificate : HostCertificate} {accessListId : Option UInt32}
  {remote : Remote.Host} {settings : Settings} {site : Site} {id : UInt32}
  {certificateId : Option UInt32}

section

variable (restates : host.Restates other)

include restates

theorem Ready.restated
    (ready : backdrop.Ready settings host session certificate accessListId site) :
    backdrop.Ready settings other session certificate accessListId site where
  checked := by
    rw [restates.spec]
    exact ready.checked
  apart := by
    rw [restates.key]
    exact ready.apart
  unclaimed := (restates.rival? _).trans ready.unclaimed
  connects := by
    unfold BearerLasts
    rw [restates.spec, restates.called]
    exact ready.connects
  certified := by
    rw [restates.spec, restates.called]
    exact ready.certified
  guarded := by
    rw [restates.spec, restates.called]
    exact ready.guarded

theorem Delivered.restated {server : Remote.Server}
    (delivered : backdrop.Delivered host certificate accessListId server remote) :
    backdrop.Delivered other certificate accessListId server remote := by
  obtain ⟨found, targets, resolved, sent⟩ := delivered
  rw [← restates.resolveTargets] at resolved
  simp only [← restates.payload] at sent
  exact ⟨found, targets, resolved, sent⟩

theorem Settled.restated (settled : backdrop.Settled settings host id certificateId site) :
    backdrop.Settled settings other id certificateId site := by
  obtain ⟨ready, recorded, delivered, named, enabled⟩ := settled
  exact .intro (ready.restated restates) recorded (delivered.restated restates) named enabled

end

/-! ## Parts of a pass -/

theorem secures_remote {request : Remote.Request} {value : request.Result} {server : Remote.Server}
    {ok : request.Result → Site → Prop}
    (makes : ∀ collection, (Effect.remote session request).creates collection = false)
    (served : site.server.Serves backdrop.exposes request value server)
    (answers : ∀ value server, site.server.Serves backdrop.exposes request value server →
      ok value { site with server }) :
    backdrop.Secures ok ((Effect.remote session request).ask : Pass request.Result) site := by
  refine ⟨makes, ⟨_, _, .remote served⟩, fun answer after serves => ?_⟩
  cases answer with
  | error failure => cases serves.succeeds
  | ok value =>
      obtain ⟨server, given, rfl⟩ := serves.remote_ok
      exact answers value server given

theorem check_secures {result : Except Problem Unit} {ok : Unit → Site → Prop}
    (passes : result = .ok ()) (holds : ok () site) :
    backdrop.Secures ok (Stage.check result) site := by
  subst passes
  exact .pure holds

theorem checkClaims_secures (restates : host.Restates site.stored)
    (apart : ∀ other ∈ backdrop.others, other.key ≠ host.key)
    (unclaimed : host.rival? backdrop.others = none) :
    backdrop.Secures (fun _ after => after = site) (ProxyHosts.checkClaims host) site := by
  have listed : backdrop.others.filter (·.key ≠ site.stored.key) = backdrop.others := by
    rw [List.filter_eq_self, restates.key]
    exact fun other member => decide_eq_true (apart other member)
  apply Attains.bind
  refine ⟨fun _ => rfl, ⟨_, _, .list listed⟩, fun answer after serves => ?_⟩
  cases answer with
  | error failure => cases serves.succeeds
  | ok hosts =>
      obtain ⟨others, rfl⟩ := serves.list_ok
      rw [restates.key] at others
      unfold Program.Attains Ends
      dsimp only
      rw [← host.rival?_filter hosts, others, unclaimed]
      exact .pure rfl

/-- The host on record is looked for by its id. -/
theorem findRemote_secures (known : (Adopting.proxyHosts.footingOf host).id = some id)
    (found : site.server.host? id = some remote) :
    backdrop.Secures
      (fun given after => given = (some remote, (Adopting.proxyHosts.footingOf host).bound) ∧
        after = site)
      (Adopting.proxyHosts.findRemote context session host) site := by
  unfold Adopting.findRemote
  dsimp only
  split
  · next other given =>
    obtain rfl := Option.some.inj (given.symm.trans known)
    apply Attains.bind
    apply Attains.staged
    refine secures_remote (fun _ => rfl) (.getHost found) fun remote server serves => .pure ?_
    cases serves with
    | getHost again =>
        obtain rfl := Option.some.inj (found.symm.trans again)
        exact ⟨rfl, rfl⟩
  · next missing =>
    rw [known] at missing
    cases missing

/-! ## Whole passes -/

theorem converge_secures (lasts : BearerLasts backdrop.cluster context host)
    (fits : backdrop.Fits host site)
    (settled : backdrop.Settled context.settings host id certificateId site)
    (known : (Adopting.proxyHosts.footingOf host).id = some id) :
    backdrop.Secures
      (fun outcome after => (outcome.id = id ∧
          outcome.bound = (Adopting.proxyHosts.footingOf host).bound ∧
          outcome.certificate.id = certificateId) ∧
        after.stored = site.stored ∧ site.server.Alike after.server)
      (ProxyHosts.converge context host) site := by
  obtain @⟨session, certificate, accessListId, remote, ready, recorded, delivered, rfl, enabled⟩ :=
    settled
  obtain ⟨found, targets, resolved, sent⟩ := delivered
  have shows := fits.uniform _ (Remote.Server.mem_of_host? found).1
  rw [← shows] at resolved sent
  unfold ProxyHosts.converge
  refine .bind (check_secures ready.checked (.bind (.staged ?_)))
  refine secures_survey (connect_candid _ _ _) ((connect_ofCluster _ _ _).mono fun _ => .inl)
    ((under_facing (connect_ofCluster _ _ _)).trans (ready.connects context rfl lasts)) ?_
  refine .bind (.staged ((checkClaims_secures fits.restates ready.apart ready.unclaimed).mono ?_))
  rintro _ _ rfl
  refine .bind ((findRemote_secures known found).mono ?_)
  rintro _ _ ⟨rfl, rfl⟩
  refine .bind (.staged (secures_survey (HostCertificate.resolve_candid _ _ _ _ _)
    ((HostCertificate.resolve_refers _ _ _ _ _).mono fun _ refers => refers.ofCluster_or_isRemote)
    ready.certified ?_))
  refine .bind (.staged (secures_survey (HostAccess.resolve_candid _ _ _)
    ((HostAccess.resolve_refers _ _ _).mono fun _ refers => refers.ofCluster_or_isRemote)
    ready.guarded ?_))
  refine .bind (.staged (secures_survey (ProxyHosts.resolveTargets_candid _ _)
    ((ProxyHosts.resolveTargets_ofCluster _ _).mono fun _ => .inl)
    ((under_facing (ProxyHosts.resolveTargets_ofCluster _ _)).trans resolved) ?_))
  refine .bind (.staged (secures_remote (fun _ => rfl)
    (.updateHost found (shows ▸ ProxyHosts.payload_accepted)) ?_))
  intro first server serves
  cases serves with
  | updateHost again accepted =>
      obtain rfl := Option.some.inj (found.symm.trans again)
      split
      · next shown =>
        obtain ⟨unknown, exposed⟩ := (Bool.and_eq_true _ _).mp shown
        rw [Remote.Host.overwritten_shows accepted shows, ← shows] at exposed
        rw [Option.any_some, exposed] at unknown
        cases unknown
      · apply Attains.bind
        apply Attains.pure
        dsimp only
        split
        · exact .pure ⟨⟨rfl, rfl, recorded⟩, rfl, .of_sent sent⟩
        · next disabled => exact absurd enabled disabled

theorem begin_secures (called : site.stored.metadata.spokenKey = host.metadata.spokenKey) :
    backdrop.Secures (fun _ after => Minded site after ∧ site.stored.Records after.stored)
      (ProxyHosts.begin context host) site := by
  unfold ProxyHosts.begin
  dsimp only
  split
  · refine (secures_updateStatus called).mono ?_
    rintro _ _ ⟨minded, written⟩
    exact ⟨minded, .of_written written (Adopting.footing_mapConditions _ _ _) Option.or_self⟩
  · exact .pure ⟨.refl site, .of_status rfl⟩

/-- An outcome that is on record already makes no difference to it. -/
theorem synced_secures {outcome : ProxyHosts.Converged} {generation : Option Int64} {key : ObjectKey}
    (called : site.stored.metadata.spokenKey = key)
    (named : some outcome.id = (Adopting.proxyHosts.footingOf site.stored).id)
    (bound : outcome.bound = (Adopting.proxyHosts.footingOf site.stored).bound)
    (certified : outcome.certificate.id.or site.stored.statusOrEmpty.certificateId =
      site.stored.statusOrEmpty.certificateId) :
    backdrop.Secures (fun _ after => Minded site after ∧ site.stored.Records after.stored)
      (updateStatus context .proxyHost key (ProxyHosts.synced context generation outcome)) site := by
  refine (secures_updateStatus called).mono ?_
  rintro _ _ ⟨minded, written⟩
  refine ⟨minded, .of_written written ?_ certified⟩
  calc
    Adopting.proxyHosts.footing _
      = ⟨some outcome.id, outcome.bound, (Adopting.proxyHosts.footingOf site.stored).initial⟩ := rfl
    _ = Adopting.proxyHosts.footingOf site.stored := by rw [named, bound]

theorem reconcile_secures (live : host.metadata.isDeleting = false)
    (lasts : BearerLasts backdrop.cluster context site.stored)
    (recorded : backdrop.Recorded context.settings host site) :
    backdrop.Secures
      (fun _ after => site.server.Alike after.server ∧ site.stored.Records after.stored)
      (ProxyHosts.reconcile context site.stored) site := by
  obtain ⟨⟨restates, uniform⟩, id, certificateId, known, covered, settled⟩ := recorded
  have staying : site.stored.metadata.isDeleting = false := by
    unfold Metadata.isDeleting
    rw [restates.deletion]
    exact live
  unfold ProxyHosts.reconcile
  rw [if_neg (Bool.eq_false_iff.mp staying)]
  refine .bind ((secures_hold rfl).mono ?_)
  rintro _ held ⟨holding, kept⟩
  refine .bind ((begin_secures holding.restates.called).mono ?_)
  rintro _ begun ⟨beginning, records⟩
  replace beginning := holding.trans beginning
  replace records := (ProxyHost.Records.of_status kept).trans records
  have fits : backdrop.Fits site.stored begun :=
    ⟨beginning.restates, beginning.server ▸ uniform⟩
  refine .finish ((converge_secures lasts fits ((settled.restated restates).minded beginning)
    known).mono ?_)
  rintro outcome after ⟨⟨named, bound, certified⟩, stored, alike⟩
  replace records : site.stored.Records after.stored := stored.symm ▸ records
  have called : after.stored.metadata.spokenKey = site.stored.metadata.spokenKey := by
    rw [stored]
    exact beginning.restates.called
  refine .bind ((synced_secures called ?_ ?_ ?_).mono ?_)
  · rw [records.footing, named]
    exact known.symm
  · rw [records.footing]
    exact bound
  · rw [records.certificateId, certified]
    exact covered
  · rintro _ last ⟨minded, again⟩
    refine .pure ⟨?_, records.trans again⟩
    rw [minded.server, ← beginning.server]
    exact alike

end Backdrop

/-- A pass on a host succeeds, whatever fails on its way. If nobody else is at work from its start on, a pass on
the host that is stored then, in which no request fails, never gets stuck and succeeds in the end. It makes
nothing, and afterwards the server reads as before, and the status says the same about the remote host and its
certificate. -/
theorem second_pass_steady {backdrop : Backdrop} {context later : Context} {host : ProxyHost}
    {site between reached : Site} {first second : List (Exchange Effects)} {action : Action}
    {rest : Running} (live : host.metadata.isDeleting = false) (fits : backdrop.Fits host site)
    (passed : Program.Goes backdrop.Wavers (reconcile context .proxyHost host).run site first
      (.done (.ok action)) between)
    (same : later.settings = context.settings)
    (lasts : BearerLasts backdrop.cluster later between.stored)
    (goes : Program.Goes backdrop.Serves (reconcile later .proxyHost between.stored).run between second
      rest reached) :
    (∃ further action last,
      Program.Goes backdrop.Serves rest reached further (.done (.ok action)) last) ∧
    ∀ further outcome last, Program.Goes backdrop.Serves rest reached further (.done outcome) last →
      (∃ action, outcome = .ok action) ∧
      (∀ exchange ∈ second ++ further, ∀ collection, exchange.request.creates collection = false) ∧
      between.server.Alike last.server ∧ between.stored.Records last.stored := by
  have recorded : backdrop.Recorded later.settings host between :=
    same ▸ (Backdrop.reconcile_yields live fits).goes passed
  have secures := Backdrop.reconcile_secures live lasts recorded
  obtain ⟨attains, modest⟩ := Program.Attains.goes secures goes
  constructor
  · obtain ⟨further, outcome, last, ends, wanted⟩ := attains.exists_end
    cases outcome with
    | ok action => exact ⟨further, action, last, ends⟩
    | error failure => exact wanted.elim
  · intro further outcome last ends
    obtain ⟨ended, others⟩ := attains.goes ends
    cases outcome with
    | ok action =>
        exact ⟨⟨action, rfl⟩, List.forall_mem_append.mpr ⟨modest, others⟩, ended.1, ended.2⟩
    | error failure => exact ended.elim

namespace Sample

/-- A cluster with a token and no other hosts, and a server that accepts blocks. -/
def quiet : Backdrop where
  cluster
    | .list .token _ => .ok [token]
    | .connect _ => .ok ()
    | effect => Standstill.barren effect
  others := []
  exposes := true

def untouched : Site :=
  ⟨host "web" false [⟨"10.0.0.1", 80⟩, ⟨"10.0.0.2", 80⟩], ⟨[], [], []⟩⟩

/-- What a server makes of a body at first: a host that is not enabled yet. -/
def dormant (body : Remote.Host.Payload) : Remote.Host :=
  ({ remote none with enabled := false } : Remote.Host).overwritten body

/-- A place where the requests of passes on a host with its own token are served. -/
def tended : Responder Effects Site := fun site request =>
  match request with
  | .read .proxyHost key =>
      if key = site.stored.metadata.spokenKey then some (.ok (some site.stored), site) else none
  | .writeStatus .proxyHost key _ status =>
      if key = site.stored.metadata.spokenKey then
        let written := Kind.proxyHost.overlaid site.stored.statusOrEmpty status
        some (.ok (), { site with stored := { site.stored with status := some written } })
      else none
  | .list .proxyHost none => some (.ok [site.stored], site)
  | .list .token _ => some (.ok [token], site)
  | .connect _ => some (.ok (), site)
  | .publish _ => some ((), site)
  | .remote _ (.create .proxyHosts body) =>
      if site.server.host? 99 = none then
        some (.ok (dormant body),
          { site with server.hosts := [] ++ dormant body :: site.server.hosts })
      else none
  | .remote _ (.update .proxyHosts id body) =>
      (site.server.host? id).map fun host =>
        (.ok (host.overwritten body), { site with server := site.server.changeHost id (·.overwritten body) })
  | .remote _ (.enable .proxyHosts id) =>
      (site.server.host? id).map fun _ =>
        (.ok (), { site with server := site.server.changeHost id (·.switchedOn) })
  | _ => none

theorem tended_served : Program.Allowed quiet.Serves tended := by
  intro site request answer after answered
  unfold tended at answered
  split at answered
  · split at answered
    · next same =>
      obtain ⟨rfl, rfl⟩ := Prod.mk.inj (Option.some.inj answered)
      subst same
      exact .read site
    · cases answered
  · split at answered
    · next same =>
      obtain ⟨rfl, rfl⟩ := Prod.mk.inj (Option.some.inj answered)
      subst same
      exact .write (.status _ _) rfl
    · cases answered
  · obtain ⟨rfl, rfl⟩ := Prod.mk.inj (Option.some.inj answered)
    refine .list (List.filter_eq_nil_iff.mpr fun other member away => of_decide_eq_true away ?_)
    rw [List.mem_singleton.mp member]
  · obtain ⟨rfl, rfl⟩ := Prod.mk.inj (Option.some.inj answered)
    exact .cluster nofun rfl rfl
  · obtain ⟨rfl, rfl⟩ := Prod.mk.inj (Option.some.inj answered)
    exact .cluster trivial rfl rfl
  · obtain ⟨rfl, rfl⟩ := Prod.mk.inj (Option.some.inj answered)
    exact .tell _ _
  · split at answered
    · next fresh =>
      obtain ⟨rfl, rfl⟩ := Prod.mk.inj (Option.some.inj answered)
      exact .remote (.createHost rfl fresh ⟨rfl, by decide⟩ fun _ => rfl)
    · cases answered
  · obtain ⟨_, found, answers⟩ := Option.map_eq_some_iff.mp answered
    obtain ⟨rfl, rfl⟩ := Prod.mk.inj answers
    exact .remote (.updateHost found fun _ => rfl)
  · obtain ⟨_, found, answers⟩ := Option.map_eq_some_iff.mp answered
    obtain ⟨rfl, rfl⟩ := Prod.mk.inj answers
    exact .remote (.enableHost found)
  · cases answered

end Sample

/-- The first pass makes the host, sends the blocks once it sees that they are accepted, and enables the host; the
second one finds all that in place. -/
theorem second_pass_steady_pooled :
    ∃ first action between,
      Program.Goes Sample.quiet.Wavers
        (reconcile Sample.context .proxyHost Sample.untouched.stored).run Sample.untouched first
        (.done (.ok action)) between ∧
      between.server.hosts.map (fun host => (host.id, host.enabled)) = [(99, true)] ∧
      first.countP (·.request.creates .proxyHosts) = 1 ∧
      ∃ second further last,
        Program.Goes Sample.quiet.Serves
          (reconcile Sample.context .proxyHost between.stored).run between second
          (.done (.ok further)) last ∧
        (∀ exchange ∈ second, ∀ collection, exchange.request.creates collection = false) ∧
        between.server.Alike last.server ∧ between.stored.Records last.stored := by
  let pass := (reconcile Sample.context .proxyHost Sample.untouched.stored).run
  have allowed : Program.Allowed Sample.quiet.Wavers Sample.tended :=
    fun _ _ _ _ answered => .inl (Sample.tended_served _ _ _ _ answered)
  obtain ⟨action, ended⟩ : ∃ action, (pass.play Sample.tended Sample.untouched).1 = .done (.ok action) :=
    Program.eq_done_ok_of_succeeds (by decide +kernel)
  have passed := allowed.goes_heard pass Sample.untouched
  rw [ended] at passed
  have made : (pass.heard Sample.tended Sample.untouched).countP
      (·.request.creates .proxyHosts) = 1 := by decide +kernel
  have hosts : (pass.play Sample.tended Sample.untouched).2.server.hosts.map
      (fun host => (host.id, host.enabled)) = [(99, true)] := by decide +kernel
  have usable : (under Sample.quiet.cluster (findToken Sample.context
      (pass.play Sample.tended Sample.untouched).2.stored.spec.token
      (pass.play Sample.tended Sample.untouched).2.stored.metadata.spokenKey.namespace)).toOption.all
      (fun token => (token.usableBearer? Sample.context.now).isSome) = true := by decide +kernel
  generalize pass.heard Sample.tended Sample.untouched = first at passed made
  generalize (pass.play Sample.tended Sample.untouched).2 = between at passed hosts usable
  have lasts : BearerLasts Sample.quiet.cluster Sample.context between.stored := by
    intro token found
    rw [found] at usable
    exact usable
  have steady {second : List (Exchange Effects)} {rest : Running} {reached : Site}
      (goes : Program.Goes Sample.quiet.Serves
        (reconcile Sample.context .proxyHost between.stored).run between second rest reached) :=
    second_pass_steady (by decide +kernel) ⟨.refl _, fun _ member => absurd member List.not_mem_nil⟩ passed rfl lasts goes
  obtain ⟨second, further, last, goes⟩ := (steady (.here _ _)).1
  obtain ⟨-, modest, alike, records⟩ := (steady (.here _ _)).2 _ _ _ goes
  exact ⟨first, action, between, passed, hosts, made, second, further, last, goes, modest, alike,
    records⟩

end ProxyOperator
