import Mathlib.Data.List.Induction
import ProxyOperator.Proofs.Candour
import ProxyOperator.Proofs.Frames
import ProxyOperator.Proofs.Playing
import ProxyOperator.Proofs.PoolNames
/-!
What passes on hosts send to servers that may or may not accept upstream blocks. A server shows that it does
with every host that it reports; nothing is sent that takes it for granted before it was shown, and what could
not be sent at first is sent as soon as it was.
-/
namespace ProxyOperator

open Attempt Reconcile

/-! ## What is written and what was shown -/

/-- A remote host is made or replaced. -/
structure HostWrite where
  /-- The host that is replaced; there is none if one is made. -/
  target : Option UInt32
  body : Remote.Host.Payload
  answer : Except Failure Remote.Host

namespace Exchange

def hostWrite? : Exchange Effects → Option HostWrite
  | ⟨.remote _ (.create .proxyHosts body), answer⟩ => some ⟨none, body, answer⟩
  | ⟨.remote _ (.update .proxyHosts id body), answer⟩ => some ⟨some id, body, answer⟩
  | _ => none

/-- The remote hosts that an answer reports. -/
def hosts : Exchange Effects → List Remote.Host
  | ⟨.remote _ (.list .proxyHosts), .ok hosts⟩ => hosts
  | ⟨.remote _ (.get .proxyHosts _), .ok host⟩ => [host]
  | ⟨.remote _ (.create .proxyHosts _), .ok host⟩ => [host]
  | ⟨.remote _ (.update .proxyHosts _ _), .ok host⟩ => [host]
  | _ => []

/-- The remote host that a pass finds with an answer: the one on record, or one of those listed that answers
for a domain of its own. -/
def foundHost? (domains : List String) : Exchange Effects → Option Remote.Host
  | ⟨.remote _ (.get .proxyHosts _), .ok host⟩ => some host
  | ⟨.remote _ (.list .proxyHosts), .ok hosts⟩ => Remote.findHost domains hosts
  | _ => none

theorem mem_hosts_of_foundHost? {domains : List String} {exchange : Exchange Effects}
    {host : Remote.Host} (found : exchange.foundHost? domains = some host) :
    host ∈ exchange.hosts := by
  unfold foundHost? at found
  split at found
  · obtain rfl := Option.some.inj found
    exact .head _
  · exact List.mem_of_find?_eq_some found
  · cases found

theorem mem_hosts_of_hostWrite? {exchange : Exchange Effects} {write : HostWrite}
    {host : Remote.Host} (written : exchange.hostWrite? = some write)
    (answered : write.answer = .ok host) : host ∈ exchange.hosts := by
  unfold hostWrite? at written
  split at written
  · obtain rfl := Option.some.inj written
    obtain rfl := answered
    exact .head _
  · obtain rfl := Option.some.inj written
    obtain rfl := answered
    exact .head _
  · cases written

end Exchange

def hostWrites (log : List (Exchange Effects)) : List HostWrite :=
  log.filterMap (·.hostWrite?)

def foundHosts (domains : List String) (log : List (Exchange Effects)) : List Remote.Host :=
  log.filterMap (·.foundHost? domains)

/-! ## What a body says -/

/-- All hosts that a body forwards to: its own, and those of its locations. -/
def Remote.Host.Payload.destinations (body : Remote.Host.Payload) : List String :=
  body.host :: body.locations.map (·.host)

/-- A body brings a block of this name. -/
def Remote.Host.Payload.Brings (body : Remote.Host.Payload) (name : String) : Prop :=
  ∃ blocks backends, body.unscopedConfig = some ("\n".intercalate blocks) ∧
    Upstream.blockText name backends ∈ blocks

namespace Capability

section

variable (cluster : Standstill) (host : ProxyHost)

/-- A forward comes down to backends. -/
def LeadsTo (forward : Forward) (backends : List Backend) : Prop :=
  under cluster (Target.backends host.metadata.spokenKey.namespace forward) = .ok backends

/-- A forward is sent to its first backend, or to the name of all of them if there are several and they may be
sent as one. -/
def SentTo (pooled : Bool) (forward : Forward) (destination : String) : Prop :=
  ∃ first others, LeadsTo cluster host forward (first :: others) ∧
    destination = if pooled && !others.isEmpty then
      Upstream.nameFor host.metadata.spokenKey (first :: others) else first.host

/-- All forwards of a host are sent in this way, each to its own destination. -/
def AllSentTo (pooled : Bool) (body : Remote.Host.Payload) : Prop :=
  List.Forall₂ (SentTo cluster host pooled) (ProxyHosts.forwards host) body.destinations

/-- A host has a forward to several backends. -/
def HasPool : Prop :=
  ∃ forward ∈ ProxyHosts.forwards host, ∃ backends, LeadsTo cluster host forward backends ∧
    2 ≤ backends.length

/-- A body that takes nothing for granted. -/
structure Plain (body : Remote.Host.Payload) : Prop where
  silent : body.unscopedConfig = none
  sent : AllSentTo cluster host false body

/-- A body that names all pools, and brings a block for each name. -/
structure Pooled (body : Remote.Host.Payload) : Prop where
  sent : AllSentTo cluster host true body
  brings : ∀ forward ∈ ProxyHosts.forwards host, ∀ backends, LeadsTo cluster host forward backends →
    2 ≤ backends.length → body.Brings (Upstream.nameFor host.metadata.spokenKey backends)

/-- A write befits what was seen before: its body is plain unless some host showed that blocks are accepted;
and it is the first one, or it replaces the host that the first one was answered with, since that one showed
so and the one that was found, if any, did not, and there is a block to send. -/
structure BefitsSeen (seen : List (Exchange Effects)) (write : HostWrite) : Prop where
  plain : (∃ exchange ∈ seen, ∃ remote ∈ exchange.hosts, remote.showsUnscopedConfig = true) ∨
    Plain cluster host write.body
  turn : hostWrites seen = [] ∨ ∃ first remote, hostWrites seen = [first] ∧
    first.answer = .ok remote ∧ write.target = some remote.id ∧
    remote.showsUnscopedConfig = true ∧
    (∀ found ∈ foundHosts host.spec.domains seen, found.showsUnscopedConfig = false) ∧
    HasPool cluster host

end

end Capability

/-! ## The bodies of a host -/

namespace Target

theorem ofBackends_host {owner : ObjectKey} {unscoped : Bool} {backends : List Backend}
    {found : Coordinates} (given : ofBackends owner unscoped backends = .ok found) :
    ∃ first others, backends = first :: others ∧
      found.host = if unscoped && !others.isEmpty then Upstream.nameFor owner (first :: others)
        else first.host := by
  match backends with
  | [] => cases given
  | [backend] =>
      cases given
      refine ⟨backend, [], rfl, ?_⟩
      rw [List.isEmpty_nil, Bool.not_true, Bool.and_false]
      rfl
  | first :: second :: others =>
      refine ⟨first, second :: others, rfl, ?_⟩
      cases unscoped <;> cases given <;> rfl

end Target

namespace Capability

section

variable {cluster : Standstill} {host : ProxyHost} {targets : ProxyHosts.Targets}
  {certificate : HostCertificate} {accessListId : Option UInt32}

theorem hasPool_iff (resolved : under cluster (ProxyHosts.resolveTargets host true) = .ok targets) :
    HasPool cluster host ↔ targets.upstreams.isEmpty = false := by
  constructor
  · rintro ⟨forward, declared, backends, leads, several⟩
    obtain ⟨name, pool⟩ := ProxyHosts.exists_pool resolved declared leads several
    obtain ⟨_, block, member⟩ := pool.named resolved
    exact List.isEmpty_eq_false_iff.mpr (List.ne_nil_of_mem member)
  · intro some
    obtain ⟨⟨name, block⟩, member⟩ := List.exists_mem_of_ne_nil _ (List.isEmpty_eq_false_iff.mp some)
    obtain ⟨backends, ⟨several, forward, sent, leads⟩, _⟩ := ProxyHosts.pool_of_mem resolved member
    exact ⟨forward, (List.of_mem_zip sent).1, backends, leads, several⟩

theorem allSentTo_payload {unscoped : Bool}
    (resolved : under cluster (ProxyHosts.resolveTargets host unscoped) = .ok targets) :
    AllSentTo cluster host unscoped
      (ProxyHosts.payload host targets certificate accessListId unscoped) := by
  obtain ⟨found, resolves, destinations, _⟩ := ProxyHosts.under_resolveTargets resolved
  have same : (ProxyHosts.payload host targets certificate accessListId unscoped).destinations =
      found.map (·.host) := destinations
  rw [AllSentTo, same, List.forall₂_map_right_iff]
  refine resolves.imp fun forward target ends => ?_
  obtain ⟨_, coordinates, leads, given, sends, _⟩ := Target.under_resolve ends
  obtain ⟨first, others, rfl, placed⟩ := Target.ofBackends_host given
  exact ⟨first, others, leads, sends.trans placed⟩

theorem plain_payload
    (resolved : under cluster (ProxyHosts.resolveTargets host false) = .ok targets) :
    Plain cluster host (ProxyHosts.payload host targets certificate accessListId false) :=
  ⟨rfl, allSentTo_payload resolved⟩

theorem pooled_payload
    (resolved : under cluster (ProxyHosts.resolveTargets host true) = .ok targets) :
    Pooled cluster host (ProxyHosts.payload host targets certificate accessListId true) := by
  refine ⟨allSentTo_payload resolved, fun forward declared backends leads several => ?_⟩
  obtain ⟨name, pool⟩ := ProxyHosts.exists_pool resolved declared leads several
  obtain ⟨rfl, block, member⟩ := pool.named resolved
  obtain ⟨others, _, rfl⟩ := ProxyHosts.pool_of_mem resolved member
  exact ⟨targets.upstreams.blocks.values, others, rfl, List.mem_map.mpr ⟨_, member, rfl⟩⟩

end

end Capability

/-! ## Passes in a cluster that stays as it is -/

namespace Effect

/-- A question about the cluster outside the operator's own resources. -/
def Surveys : Effect → Prop
  | .service _ => True
  | .pods _ _ => True
  | .node _ => True
  | _ => False

/-- Neither is a remote host asked for with a request nor is one written. -/
def LeavesHosts : Effect → Prop
  | .remote _ (.list collection) => collection ≠ .proxyHosts
  | .remote _ (.get collection _) => collection ≠ .proxyHosts
  | .remote _ (.create collection _) => collection ≠ .proxyHosts
  | .remote _ (.update collection _ _) => collection ≠ .proxyHosts
  | _ => True

theorem LeavesHosts.hostWrite? {exchange : Exchange Effects}
    (leaves : exchange.request.LeavesHosts) : exchange.hostWrite? = none := by
  unfold Exchange.hostWrite?
  split
  · exact absurd rfl leaves
  · exact absurd rfl leaves
  · rfl

theorem LeavesHosts.foundHost? {domains : List String} {exchange : Exchange Effects}
    (leaves : exchange.request.LeavesHosts) : exchange.foundHost? domains = none := by
  unfold Exchange.foundHost?
  split
  · exact absurd rfl leaves
  · exact absurd rfl leaves
  · rfl

theorem LeavesHosts.of_looks {effect : Effect} (looks : effect.Looks) : effect.LeavesHosts := by
  cases effect <;> trivial

theorem Surveys.looks {effect : Effect} (surveys : effect.Surveys) : effect.Looks := by
  cases effect <;> trivial

theorem LeavesHosts.of_connects {effect : Effect} (connects : effect.Connects) :
    effect.LeavesHosts := by
  cases effect <;> trivial

theorem LeavesHosts.of_consults {collection : Remote.Collection} {effect : Effect}
    (other : collection ≠ .proxyHosts) (consults : effect.Consults collection) :
    effect.LeavesHosts := by
  cases effect with
  | remote session request =>
      cases request with
      | list | get | create =>
          obtain rfl := consults
          exact other
      | _ => exact consults.elim
  | _ => exact consults.elim

end Effect

theorem Reconcile.ProxyHosts.resolveTargets_surveys (host : ProxyHost) (unscoped : Bool) :
    Asks Effect.Surveys (resolveTargets host unscoped) :=
  have permits (forward : Forward) :
      Target.Permits Effect.Surveys host.metadata.spokenKey forward :=
    ⟨fun _ _ => trivial, fun _ => trivial, fun _ _ => trivial⟩
  resolveTargets_permitted host unscoped (permits _) fun _ _ => permits _

namespace Capability

/-- What is asked about the cluster is always answered in the same way, unless it fails; all else is answered
in any way. -/
def Frozen (cluster : Standstill) : Conduct Effects Unit :=
  fun _ exchange _ => exchange.request.Surveys → exchange.Agrees cluster

section

variable (cluster : Standstill) (host : ProxyHost)

/-- If a host that was found or the answer to the first write showed that blocks are accepted, and there is a pool,
then the last body names all pools and brings their blocks. -/
def Fulfils (found : List Remote.Host) (writes : List HostWrite) : Prop :=
  ((∃ remote ∈ found, remote.showsUnscopedConfig = true) ∨
    ∃ first ∈ writes.head?, ∃ remote, first.answer = .ok remote ∧
      remote.showsUnscopedConfig = true) →
  HasPool cluster host → ∃ last ∈ writes.getLast?, Pooled cluster host last.body

/-- What was found and written so far. -/
structure Stands (found : List Remote.Host) (writes : List HostWrite)
    (world : Unit × List (Exchange Effects)) : Prop where
  found : foundHosts host.spec.domains world.2 = found
  writes : hostWrites world.2 = writes

/-- Every write of a pass befits what was seen before it. -/
def Step (before : Unit × List (Exchange Effects)) (exchange : Exchange Effects)
    (_ : Unit × List (Exchange Effects)) : Prop :=
  ∀ write, exchange.hostWrite? = some write → BefitsSeen cluster host before.2 write

end

section

variable {cluster : Standstill} {host : ProxyHost} {found : List Remote.Host}
  {writes : List HostWrite} {world : Unit × List (Exchange Effects)}

private theorem filterMap_append_singleton {α β : Type} (choose : α → Option β) (values : List α)
    (last : α) :
    (values ++ [last]).filterMap choose = values.filterMap choose ++ (choose last).toList := by
  rw [List.filterMap_append]
  cases chosen : choose last with
  | none => rw [List.filterMap_cons_none chosen, List.filterMap_nil, Option.toList_none]
  | some value => rw [List.filterMap_cons_some chosen, List.filterMap_nil, Option.toList_some]

theorem Stands.logged {exchange : Exchange Effects} {after : Unit × List (Exchange Effects)}
    (stands : Stands host found writes world)
    (answered : (Frozen cluster).logged world exchange after) :
    Stands host (found ++ (exchange.foundHost? host.spec.domains).toList)
      (writes ++ exchange.hostWrite?.toList) after := by
  constructor
  · rw [answered.2, foundHosts, filterMap_append_singleton, ← stands.found]
    rfl
  · rw [answered.2, hostWrites, filterMap_append_singleton, ← stands.writes]
    rfl

theorem Stands.aside {exchange : Exchange Effects} {after : Unit × List (Exchange Effects)}
    (leaves : exchange.request.LeavesHosts) (stands : Stands host found writes world)
    (answered : (Frozen cluster).logged world exchange after) :
    Step cluster host world exchange after ∧ Stands host found writes after := by
  have stood := stands.logged answered
  rw [leaves.foundHost?, leaves.hostWrite?, Option.toList_none, Option.toList_none,
    List.append_nil, List.append_nil] at stood
  refine ⟨fun write written => ?_, stood⟩
  rw [leaves.hostWrite?] at written
  cases written

/-- What a part of a pass does that neither finds nor writes a host. -/
theorem Stands.bind {ε α β : Type} {attempt : Attempt ε α} {next : α → Attempt ε β}
    {ok : β → Unit × List (Exchange Effects) → Prop} (stands : Stands host found writes world)
    (asks : Asks Effect.LeavesHosts attempt)
    (further : ∀ value after, Stands host found writes after →
      Meets (Frozen cluster).logged (Step cluster host) ok (fun _ _ => True) (next value) after) :
    Meets (Frozen cluster).logged (Step cluster host) ok (fun _ _ => True) (attempt >>= next) world :=
  Meets.bind_asks (fun _ _ _ leaves stands answered => stands.aside leaves answered)
    (fun _ _ _ => trivial) asks stands further

/-! ### Parts of a pass on a host -/

section

variable {context : Context} {session : Remote.Session} {certificate : HostCertificate}
  {accessListId : Option UInt32} {targets : ProxyHosts.Targets}

theorem upkeep_leaves :
    Upkeep Effect.LeavesHosts .proxyHost host.metadata.spokenKey :=
  ⟨trivial, fun _ _ => trivial, fun _ => trivial, fun _ => trivial⟩

/-- A host is found: the one on record, one that is adopted, or none. -/
theorem findRemote_meets (stands : Stands host [] [] world) :
    Meets (Frozen cluster).logged (Step cluster host)
      (fun existing => Stands host existing.1.toList []) (fun _ _ => True)
      (Adopting.proxyHosts.findRemote context session host) world := by
  have silent {exchange : Exchange Effects} {before after : Unit × List (Exchange Effects)}
      (no : exchange.hostWrite? = none) : Step cluster host before exchange after := by
    intro write written
    rw [no] at written
    cases written
  unfold Adopting.findRemote
  dsimp only
  split
  · apply Meets.bind
    apply Meets.staged
    refine Meets.remote (fun remote after answered => ?_) fun _ _ _ => ⟨silent rfl, trivial⟩
    exact ⟨silent rfl, stands.logged answered⟩
  · split
    · apply Meets.bind
      apply Meets.staged
      apply Meets.bind
      refine Meets.remote (fun listed after answered => ?_) fun _ _ _ => ⟨silent rfl, trivial⟩
      have stood : Stands host (Remote.findHost host.spec.domains listed).toList [] after :=
        stands.logged answered
      refine ⟨silent rfl, ?_⟩
      dsimp only
      cases found : Remote.findHost host.spec.domains listed with
      | none =>
          rw [found] at stood
          exact .pure stood
      | some remote =>
          rw [found] at stood
          exact stood.bind (Adopting.recordRemote_asks upkeep_leaves) fun _ _ stood => .pure stood
    · exact .pure stands

/-- The write that a body is sent with. -/
def written (existing : Option Remote.Host) (body : Remote.Host.Payload)
    (answer : Except Failure Remote.Host) : HostWrite :=
  ⟨existing.map (·.id), body, answer⟩

/-- A body is written, and an object that was made for it is recorded. -/
theorem write_meets {existing : Option Remote.Host} {body : Remote.Host.Payload}
    (stands : Stands host found writes world)
    (befits : ∀ answer, BefitsSeen cluster host world.2 (written existing body answer)) :
    Meets (Frozen cluster).logged (Step cluster host)
      (fun first => Stands host found (writes ++ [written existing body (.ok first)]))
      (fun _ _ => True)
      (Adopting.proxyHosts.write context session host existing body) world := by
  have same {answer : Except Failure Remote.Host} {exchange : Exchange Effects}
      {after : Unit × List (Exchange Effects)}
      (writes : exchange.hostWrite? = some (written existing body answer)) :
      Step cluster host world exchange after := by
    intro write is
    obtain rfl := Option.some.inj (writes.symm.trans is)
    exact befits answer
  have stood {exchange : Exchange Effects} {first : Remote.Host}
      {after : Unit × List (Exchange Effects)}
      (finds : exchange.foundHost? host.spec.domains = none)
      (is : exchange.hostWrite? = some (written existing body (.ok first)))
      (answered : (Frozen cluster).logged world exchange after) :
      Stands host found (writes ++ [written existing body (.ok first)]) after := by
    have stood := stands.logged answered
    rw [finds, is, Option.toList_none, List.append_nil] at stood
    exact stood
  cases existing with
  | some remote =>
      refine Meets.remote (fun first after answered => ?_) fun failure after answered => ?_
      · exact ⟨same rfl, stood rfl rfl answered⟩
      · exact ⟨same rfl, trivial⟩
  | none =>
      apply Meets.bind
      refine Meets.remote (fun first after answered => ?_) fun failure after answered => ?_
      · refine ⟨same rfl, ?_⟩
        exact (stood rfl rfl answered).bind (Adopting.recordRemote_asks upkeep_leaves)
          fun _ _ stood => .pure stood
      · exact ⟨same rfl, trivial⟩

/-- Targets are resolved to what they come down to in the cluster. -/
theorem resolveTargets_meets {unscoped : Bool} (stands : Stands host found writes world) :
    Meets (Frozen cluster).logged (Step cluster host)
      (fun targets after =>
        under cluster (ProxyHosts.resolveTargets host unscoped) = .ok targets ∧
          Stands host found writes after) (fun _ _ => True)
      (ProxyHosts.resolveTargets host unscoped) world := by
  refine (Meets.survey (ProxyHosts.resolveTargets_candid host unscoped)
    (ProxyHosts.resolveTargets_surveys host unscoped)
    (fun before exchange after surveys stands answered => ?_) stands).mono
    (fun _ _ ends => ends) fun _ _ _ => trivial
  obtain ⟨kept, stood⟩ := stands.aside (.of_looks surveys.looks) answered
  exact ⟨kept, stood, answered.1 surveys⟩

theorem unshown_of_any {existing : Option Remote.Host}
    (unknown : existing.any (·.showsUnscopedConfig) = false) :
    ∀ remote ∈ existing.toList, remote.showsUnscopedConfig = false :=
  fun remote member =>
    (Option.any_eq_false _ _).mp unknown remote (Option.mem_toList.mp member)

theorem Fulfils.of_unshown {first : HostWrite}
    (unfound : ∀ remote ∈ found, remote.showsUnscopedConfig = false)
    (unanswered : ∀ remote, first.answer = .ok remote → remote.showsUnscopedConfig = false) :
    Fulfils cluster host found [first] := by
  rintro (⟨remote, member, shows⟩ | ⟨other, member, remote, known, shows⟩) _
  · rw [unfound remote member] at shows
    cases shows
  · obtain rfl := Option.some.inj member
    rw [unanswered remote known] at shows
    cases shows

theorem Fulfils.of_pooled (writes : List HostWrite) {last : HostWrite} (pooled : Pooled cluster host last.body) :
    Fulfils cluster host found (writes ++ [last]) :=
  fun _ _ => ⟨last, List.getLast?_concat, pooled⟩

/-- What was found and written in the end, and that it is all that was called for. -/
def Concluded (cluster : Standstill) (host : ProxyHost) (world : Unit × List (Exchange Effects)) :
    Prop :=
  ∃ found writes, Stands host found writes world ∧ Fulfils cluster host found writes

theorem Stands.shown_found {remote : Remote.Host} (stands : Stands host found writes world)
    (member : remote ∈ found) : ∃ exchange ∈ world.2, remote ∈ exchange.hosts := by
  rw [← stands.found] at member
  obtain ⟨exchange, heard, finds⟩ := List.mem_filterMap.mp member
  exact ⟨exchange, heard, Exchange.mem_hosts_of_foundHost? finds⟩

theorem Stands.shown_written {remote : Remote.Host} {write : HostWrite}
    (stands : Stands host found writes world) (member : write ∈ writes)
    (answered : write.answer = .ok remote) : ∃ exchange ∈ world.2, remote ∈ exchange.hosts := by
  rw [← stands.writes] at member
  obtain ⟨exchange, heard, written⟩ := List.mem_filterMap.mp member
  exact ⟨exchange, heard, Exchange.mem_hosts_of_hostWrite? written answered⟩

/-- What could not be sent at first is sent after the answer showed that it is accepted. -/
theorem upgrade_meets {first : HostWrite} {remote : Remote.Host}
    (stands : Stands host found [first] world)
    (unfound : ∀ remote ∈ found, remote.showsUnscopedConfig = false)
    (answered : first.answer = .ok remote) (shows : remote.showsUnscopedConfig = true) :
    Meets (Frozen cluster).logged (Step cluster host)
      (fun _ => Concluded cluster host) (fun _ _ => True)
      (ProxyHosts.upgrade session host certificate accessListId remote) world := by
  apply Meets.bind
  apply Meets.staged
  refine (resolveTargets_meets stands).mono ?_ fun _ _ _ => trivial
  rintro targets after ⟨resolved, stands⟩
  split
  · next empty =>
    refine .pure ⟨found, [first], stands, fun _ pool => ?_⟩
    rw [(hasPool_iff resolved).mp pool] at empty
    cases empty
  · next some =>
    have pool := (hasPool_iff resolved).mpr (Bool.eq_false_iff.mpr some)
    apply Meets.staged
    have step {answer : Except Failure Remote.Host} {later : Unit × List (Exchange Effects)} :
        Step cluster host after ⟨.remote session (.update .proxyHosts remote.id
          (ProxyHosts.payload host targets certificate accessListId true)), answer⟩ later := by
      intro write is
      obtain rfl := Option.some.inj is
      obtain ⟨exchange, heard, reported⟩ := stands.shown_written (.head _) answered
      refine ⟨.inl ⟨exchange, heard, remote, reported, shows⟩, .inr ⟨first, remote, stands.writes,
        answered, rfl, shows, ?_, pool⟩⟩
      rw [stands.found]
      exact unfound
    refine Meets.remote (fun last later answered => ⟨step, ?_⟩) fun _ _ _ => ⟨step, trivial⟩
    have stood := stands.logged answered
    rw [show Exchange.foundHost? host.spec.domains _ = none from rfl, Option.toList_none,
      List.append_nil] at stood
    exact ⟨_, _, stood, .of_pooled _ (pooled_payload resolved)⟩

/-- After the first write all that was called for is sent if it named the pools, or if nothing showed that they
are accepted. -/
theorem Stands.concluded {existing : Option Remote.Host} {first : Remote.Host}
    (resolved : under cluster (ProxyHosts.resolveTargets host
      (existing.any (·.showsUnscopedConfig))) = .ok targets)
    (stands : Stands host existing.toList [written existing (ProxyHosts.payload host targets
      certificate accessListId (existing.any (·.showsUnscopedConfig))) (.ok first)] world)
    (settled : (!existing.any (·.showsUnscopedConfig) && first.showsUnscopedConfig) = false) :
    Concluded cluster host world := by
  refine ⟨_, _, stands, ?_⟩
  cases known : existing.any (·.showsUnscopedConfig) with
  | true =>
      rw [known] at resolved
      exact Fulfils.of_pooled [] (pooled_payload resolved)
  | false =>
      rw [known, Bool.not_false, Bool.true_and] at settled
      refine .of_unshown (unshown_of_any known) fun remote answered => ?_
      obtain rfl := Except.ok.inj answered
      exact settled

/-- A host is enabled if need be, and the outcome of a pass is settled. -/
theorem enable_meets {remote : Remote.Host} {outcome : ProxyHosts.Converged}
    (concluded : Concluded cluster host world) :
    Meets (Frozen cluster).logged (Step cluster host) (fun _ => Concluded cluster host)
      (fun _ _ => True)
      (do
        unless remote.enabled do
          Stage.remote.run (session.enable .proxyHosts remote.id)
        return outcome) world := by
  obtain ⟨found, writes, stands, fulfils⟩ := concluded
  split
  · exact .pure ⟨found, writes, stands, fulfils⟩
  · exact stands.bind (.staged ⟨trivial, fun _ => trivial⟩) fun _ after stands =>
      .pure ⟨found, writes, stands, fulfils⟩

theorem converge_meets (stands : Stands host [] [] world) :
    Meets (Frozen cluster).logged (Step cluster host) (fun _ => Concluded cluster host)
      (fun _ _ => True) (ProxyHosts.converge context host) world := by
  unfold ProxyHosts.converge
  refine stands.bind .check fun _ world stands => ?_
  refine stands.bind (.staged ((connect_asks _ _ _).mono fun _ => Or.rec .of_looks .of_connects))
    fun session world stands => ?_
  refine stands.bind (.staged ((ProxyHosts.checkClaims_asks host).mono fun _ => .of_looks))
    fun _ world stands => ?_
  refine .bind ((findRemote_meets stands).mono ?_ fun _ _ _ => trivial)
  rintro ⟨existing, bound⟩ world stands
  refine stands.bind (.staged ((HostCertificate.resolve_asks _ _ _ _ _).mono
    fun _ => Or.rec .of_looks (.of_consults nofun))) fun certificate world stands => ?_
  refine stands.bind (.staged ((HostAccess.resolve_asks _ _ _).mono
    fun _ => Or.rec .of_looks (.of_consults nofun))) fun accessListId world stands => ?_
  apply Meets.bind
  apply Meets.staged
  refine (resolveTargets_meets stands).mono ?_ fun _ _ _ => trivial
  rintro targets world ⟨resolved, stands⟩
  apply Meets.bind
  apply Meets.staged
  refine (write_meets stands fun answer => ⟨?_, .inl stands.writes⟩).mono ?_ fun _ _ _ => trivial
  · cases known : existing.any (·.showsUnscopedConfig) with
    | true =>
        obtain ⟨remote, present, shows⟩ := (Option.any_eq_true _ _).mp known
        obtain ⟨exchange, heard, reported⟩ := stands.shown_found (Option.mem_toList.mpr present)
        exact .inl ⟨exchange, heard, remote, reported, shows⟩
    | false =>
        rw [known] at resolved
        exact .inr (plain_payload resolved)
  rintro first world stands
  dsimp only
  split
  · next shown =>
    obtain ⟨unknown, shows⟩ := (Bool.and_eq_true _ _).mp shown
    apply Meets.bind
    exact (upgrade_meets stands (unshown_of_any ((Bool.not_eq_true' _).mp unknown)) rfl shows).mono
      (fun _ _ concluded => enable_meets concluded) fun _ _ _ => trivial
  · next settled =>
    exact enable_meets (stands.concluded resolved (Bool.eq_false_iff.mpr settled))

theorem reconcile_meets (live : host.metadata.isDeleting = false) (stands : Stands host [] [] world) :
    Meets (Frozen cluster).logged (Step cluster host) (fun _ => Concluded cluster host)
      (fun _ _ => True) (ProxyHosts.reconcile context host) world := by
  have keeps : ∀ before exchange after, Effect.LeavesHosts exchange.request →
      True → (Frozen cluster).logged before exchange after →
      Step cluster host before exchange after ∧ True := by
    refine fun before exchange after leaves _ _ => ⟨fun write written => ?_, trivial⟩
    rw [leaves.hostWrite?] at written
    cases written
  unfold ProxyHosts.reconcile
  rw [if_neg (Bool.eq_false_iff.mp live)]
  refine stands.bind (hold_asks host trivial) fun _ world stands => ?_
  refine stands.bind (ProxyHosts.begin_asks trivial (fun _ _ => trivial) fun _ => trivial)
    fun _ world stands => ?_
  refine Meets.finish ((converge_meets stands).mono ?_ fun _ _ _ => trivial)
    (fun _ event before after (_ : True) told => keeps before ⟨.publish event, ()⟩ after trivial trivial told)
    fun _ before _ _ => .of_asks upkeep_leaves.updateStatus keeps trivial
  rintro outcome after ⟨found, writes, stands, fulfils⟩
  exact stands.bind upkeep_leaves.updateStatus fun _ after stands =>
    .pure ⟨found, writes, stands, fulfils⟩

end

end

/-- Where each write befits what was seen before it, there are at most two. -/
theorem length_hostWrites_le {cluster : Standstill} {host : ProxyHost} {log : List (Exchange Effects)}
    (befit : ∀ earlier exchange later, log = earlier ++ exchange :: later →
      ∀ write, exchange.hostWrite? = some write → BefitsSeen cluster host earlier write) :
    (hostWrites log).length ≤ 2 := by
  induction log using List.reverseRecOn with
  | nil => exact Nat.zero_le 2
  | append_singleton earlier exchange induction =>
      rw [hostWrites, filterMap_append_singleton, List.length_append]
      cases written : exchange.hostWrite? with
      | none =>
          refine induction fun first other later split => befit first other (later ++ [exchange]) ?_
          rw [split, List.append_assoc, List.cons_append]
      | some write =>
          rcases (befit earlier exchange [] rfl write written).turn with
            none | ⟨first, _, one, _⟩
          · rw [show earlier.filterMap _ = [] from none]
            exact Nat.le_succ 1
          · rw [show earlier.filterMap _ = [first] from one]
            rfl

end Capability

/-- On every way of a pass on a host that is not deleted, in a cluster that stays as it is, whatever the server
does: each write befits what was seen before it, there are at most two, and if the pass succeeds, all that was
called for was sent. -/
theorem capability_discipline {context : Context} {cluster : Standstill} {host : ProxyHost}
    {log : List (Exchange Effects)} {rest : Running} (live : host.metadata.isDeleting = false)
    (goes : Program.Goes (Capability.Frozen cluster) (reconcile context .proxyHost host).run () log
      rest ()) :
    (∀ earlier exchange later, log = earlier ++ exchange :: later →
      ∀ write, exchange.hostWrite? = some write →
        Capability.BefitsSeen cluster host earlier write) ∧
    (hostWrites log).length ≤ 2 ∧
    ∀ action, rest = .done (.ok action) →
      Capability.Fulfils cluster host (foundHosts host.spec.domains log) (hostWrites log) := by
  have way := goes.logged []
  have meets : Meets (Capability.Frozen cluster).logged (Capability.Step cluster host)
      (fun _ => Capability.Concluded cluster host) (fun _ _ => True)
      (reconcile context .proxyHost host) ((), []) :=
    Capability.reconcile_meets live ⟨rfl, rfl⟩
  have befit := Program.Meets.along
    (fun seen exchange => ∀ write, exchange.hostWrite? = some write →
      Capability.BefitsSeen cluster host seen write) way meets
  refine ⟨befit, Capability.length_hostWrites_le befit, ?_⟩
  rintro action rfl
  obtain ⟨found, writes, stands, fulfils⟩ := meets.goes way
  rw [← stands.found, ← stands.writes] at fulfils
  exact fulfils

namespace Sample

/-- A server that shows with the host that it makes that it accepts blocks. -/
def revealing : Responder Effects Unit := fun _ request =>
  let answer? : Option request.Answer :=
    match request with
    | .list .token _ => some (.ok [token])
    | .list .proxyHost _ => some (.ok [])
    | .read .proxyHost _ => some (.ok none)
    | .publish _ => some ()
    | .connect _ => some (.ok ())
    | .remote _ (.create .proxyHosts _) => some (.ok (remote none))
    | .remote _ (.update .proxyHosts _ _) => some (.ok (remote (some "")))
    | _ => none
  answer?.map (·, ())

theorem revealing_allowed : Program.Allowed (Capability.Frozen .barren) revealing := by
  intro _ request answer _ answered surveys
  obtain ⟨_, known, _⟩ := Option.map_eq_some_iff.mp answered
  cases request <;> first | exact surveys.elim | cases known

end Sample

/-- The blocks of a new host with two backends are sent after the server showed that it accepts them. -/
theorem capability_discipline_revealing :
    let host := Sample.host "web" false [⟨"10.0.0.1", 80⟩, ⟨"10.0.0.2", 80⟩]
    ∃ log action, Program.Goes (Capability.Frozen .barren)
        (reconcile Sample.context .proxyHost host).run () log (.done (.ok action)) () ∧
      (hostWrites log).length = 2 ∧
      Capability.Fulfils .barren host (foundHosts host.spec.domains log) (hostWrites log) ∧
      ∃ last ∈ (hostWrites log).getLast?, Capability.Pooled .barren host last.body := by
  intro host
  let pass := (reconcile Sample.context .proxyHost host).run
  have goes := Sample.revealing_allowed.goes_heard pass ()
  obtain ⟨action, ended⟩ : ∃ action, (pass.play Sample.revealing ()).1 = .done (.ok action) :=
    Program.eq_done_ok_of_succeeds (by decide +kernel)
  rw [ended] at goes
  have fulfils := (capability_discipline (by decide +kernel) goes).2.2 action rfl
  have shown : (hostWrites (pass.heard Sample.revealing ())).head?.any
      (fun first => first.answer.toOption.any (·.showsUnscopedConfig)) = true := by decide +kernel
  obtain ⟨first, begins, known⟩ := (Option.any_eq_true _ _).mp shown
  obtain ⟨remote, answered, shows⟩ := (Option.any_eq_true _ _).mp known
  have pool : Capability.HasPool .barren host := ⟨_, .head _, _, rfl, Nat.le_refl 2⟩
  refine ⟨_, action, goes, by decide +kernel, fulfils, fulfils (.inr ⟨first, begins, remote, ?_, shows⟩) pool⟩
  exact Except.eq_ok_of_toOption answered

end ProxyOperator
