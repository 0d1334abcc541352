import ProxyOperator.Proofs.Capabilities
import ProxyOperator.Proofs.Upgrades
import ProxyOperator.Proofs.Ways
/-!
Passes on hosts in a cluster that is always seen in the same way. Where the first body of a host can be made,
the body that corrects it can be made as well, so that no pass stops between the two for want of a target.
-/
namespace ProxyOperator

open Attempt Reconcile

/-! ## Reports -/

theorem StageFailure.forward_of_text {stopped : StageFailure} {failure : Failure}
    (same : stopped.text = text ⟨.forward, failure⟩) : stopped.stage = .forward := by
  have spelled := congrArg String.toList same
  rcases stopped with ⟨stage, _⟩
  -- The reasons of the stages are told apart by their first letters.
  cases stage <;> simp [text, Stage.reason] at spelled ⊢

namespace Exchange

/-- The event that is told about. -/
def event? : Exchange Effects → Option Event
  | ⟨.publish event, _⟩ => some event
  | _ => none

/-- It is told that the targets of a host could not be resolved. -/
def ReportsForward (host : ProxyHost) (exchange : Exchange Effects) : Prop :=
  ∃ failure, exchange.event? = some (failureEvent host ⟨.forward, failure⟩)

end Exchange

namespace Effect

/-- No remote host is made or replaced. -/
def SparesHosts : Effect → Prop
  | .remote _ (.create collection _) => collection ≠ .proxyHosts
  | .remote _ (.update collection _ _) => collection ≠ .proxyHosts
  | _ => True

def Silent : Effect → Prop
  | .publish _ => False
  | _ => True

theorem SparesHosts.of_leaves {effect : Effect} (leaves : effect.LeavesHosts) : effect.SparesHosts := by
  cases effect with
  | remote session request => cases request <;> first | exact leaves | trivial
  | _ => trivial

theorem SparesHosts.hostWrite? {exchange : Exchange Effects} (spares : exchange.request.SparesHosts) :
    exchange.hostWrite? = none := by
  unfold Exchange.hostWrite?
  split
  · exact absurd rfl spares
  · exact absurd rfl spares
  · rfl

theorem Silent.of_surveys {effect : Effect} (surveys : effect.Surveys) : effect.Silent := by
  cases effect <;> trivial

theorem Silent.reportsNone {host : ProxyHost} {exchange : Exchange Effects}
    (silent : exchange.request.Silent) : ¬exchange.ReportsForward host := by
  intro reports
  rcases reports with ⟨failure, same⟩
  unfold Exchange.event? at same
  split at same
  · exact silent
  · cases same

end Effect

namespace Correction

/-- What is asked about the cluster is always answered in the same way; all else is answered in any way. -/
def Unvarying (cluster : Standstill) : Conduct Effects Unit :=
  fun _ exchange _ => exchange.request.Surveys → exchange.answer = cluster exchange.request

abbrev World : Type := Unit × List (Exchange Effects)

/-- No host was written yet. -/
def Unwritten (world : World) : Prop := hostWrites world.2 = []

/-- That targets could not be resolved is told only as long as no host was written. -/
def Step (host : ProxyHost) (before : World) (exchange : Exchange Effects) (_ : World) : Prop :=
  exchange.ReportsForward host → Unwritten before

/-- A pass that stops for want of a target has not written a host. -/
def Stops (stopped : StageFailure) (after : World) : Prop := stopped.stage = .forward → Unwritten after

variable {cluster : Standstill} {host : ProxyHost} {world : World} {context : Context}
  {session : Remote.Session}

theorem Unwritten.spares {exchange : Exchange Effects} {after : World} (unwritten : Unwritten world)
    (spares : exchange.request.SparesHosts) (answered : (Unvarying cluster).logged world exchange after) :
    Step host world exchange after ∧ Unwritten after := by
  refine ⟨fun _ => unwritten, ?_⟩
  unfold Unwritten hostWrites
  rw [answered.2, List.filterMap_append, List.filterMap_cons_none spares.hostWrite?, List.filterMap_nil,
    List.append_nil]
  exact unwritten

/-- What a part of a pass does that writes no host. -/
theorem Unwritten.bind {α β : Type} {attempt : Staged α} {next : α → Staged β} {ok : β → World → Prop}
    (unwritten : Unwritten world) (asks : Asks Effect.SparesHosts attempt)
    (further : ∀ value after, Unwritten after →
      Meets (Unvarying cluster).logged (Step host) ok Stops (next value) after) :
    Meets (Unvarying cluster).logged (Step host) ok Stops (attempt >>= next) world :=
  Meets.bind_asks (fun _ _ _ spares unwritten answered => unwritten.spares spares answered)
    (fun _ _ unwritten _ => unwritten) asks unwritten further

/-! ## Before the first write -/

theorem upkeep_spares : Upkeep Effect.SparesHosts .proxyHost host.metadata.spokenKey :=
  ⟨trivial, fun _ _ => trivial, fun _ => trivial, fun _ => trivial⟩

theorem asks_spares {ε α : Type} {attempt : Attempt ε α} (asks : Asks Effect.LeavesHosts attempt) :
    Asks Effect.SparesHosts attempt :=
  asks.mono fun _ => .of_leaves

/-- What is asked to resolve targets is answered as the cluster is. -/
theorem resolveTargets_standing {step : World → Exchange Effects → World → Prop} {stays : World → Prop}
    {unscoped : Bool}
    (keeps : ∀ before exchange after, exchange.request.Surveys → stays before →
      (Unvarying cluster).logged before exchange after → step before exchange after ∧ stays after)
    (start : stays world) :
    Meets (Unvarying cluster).logged step
      (fun targets after =>
        under cluster (ProxyHosts.resolveTargets host unscoped) = .ok targets ∧ stays after)
      (fun failure after =>
        under cluster (ProxyHosts.resolveTargets host unscoped) = .error failure ∧ stays after)
      (ProxyHosts.resolveTargets host unscoped) world := by
  apply Meets.standing (ProxyHosts.resolveTargets_surveys host unscoped) _ start
  intro before exchange after surveys stayed answered
  have ⟨kept, still⟩ := keeps before exchange after surveys stayed answered
  exact ⟨kept, still, answered.1 surveys⟩

/-! ## After the first write -/

/-- No part of what comes after the first write tells that targets could not be resolved. -/
abbrev Quiet (cluster : Standstill) (host : ProxyHost) {ε α : Type} (attempt : Attempt ε α) : Prop :=
  Always (Unvarying cluster).logged (Step host) attempt

theorem quiet_of_silent {ε α : Type} {attempt : Attempt ε α} (asks : Asks Effect.Silent attempt) :
    Quiet cluster host attempt :=
  .of_asks asks fun _ _ _ silent _ reports => absurd reports silent.reportsNone

theorem updateStatus_quiet {change : Kind.proxyHost.Status → Kind.proxyHost.Status} :
    Quiet cluster host (updateStatus context .proxyHost host.metadata.spokenKey change) :=
  quiet_of_silent (updateStatus_asks trivial (fun _ _ => trivial) fun _ => trivial)

theorem write_quiet {existing : Option Remote.Host} {body : Remote.Host.Payload} :
    Quiet cluster host (Adopting.proxyHosts.write context session host existing body) := by
  cases existing with
  | some remote => exact quiet_of_silent ⟨trivial, fun _ => trivial⟩
  | none =>
      refine Always.bind (quiet_of_silent ⟨trivial, fun _ => trivial⟩) fun remote => ?_
      have tells : Quiet cluster host (announceDone host Event.created
          ("remote " ++ Adopting.proxyHosts.title ++ " " ++ toString remote.id.toNat)) := by
        intro before
        apply Meets.publish
        intro after _
        refine ⟨fun reports => ?_, trivial⟩
        rcases reports with ⟨failure, same⟩
        cases congrArg Event.type (Option.some.inj same)
      exact .bind (.bind updateStatus_quiet fun _ => tells) fun _ => .pure

/-- The targets are resolved a second time. -/
theorem upgrade_meets {certificate : HostCertificate} {accessListId : Option UInt32} {remote : Remote.Host}
    {targets : ProxyHosts.Targets}
    (resolved : under cluster (ProxyHosts.resolveTargets host false) = .ok targets) :
    Meets (Unvarying cluster).logged (Step host) (fun _ _ => True) Stops
      (ProxyHosts.upgrade session host certificate accessListId remote) world := by
  rcases ProxyHosts.exists_upgrades resolved with ⟨upgraded, ends⟩
  have keeps : ∀ (before : World) (exchange : Exchange Effects) (after : World),
      exchange.request.Surveys → True → (Unvarying cluster).logged before exchange after →
      Step host before exchange after ∧ True := by
    intro before exchange after surveys _ _
    exact ⟨fun reports => absurd reports (Effect.Silent.of_surveys surveys).reportsNone, trivial⟩
  apply Meets.bind
  apply Meets.staged
  refine (resolveTargets_standing keeps trivial).mono ?_ ?_
  · intro targets after _
    split
    · exact .pure trivial
    · apply Meets.staged
      have updates : Quiet cluster host (session.update .proxyHosts remote.id
          (ProxyHosts.payload host targets certificate accessListId true)) :=
        quiet_of_silent ⟨trivial, fun _ => trivial⟩
      exact (updates after).mono (fun _ _ _ => trivial) fun _ _ _ => nofun
  · intro failure after fails
    cases ends.symm.trans fails.1

/-! ## Passes -/

/-- What is left to do after the last write. -/
theorem enable_quiet {remote : Remote.Host} {outcome : ProxyHosts.Converged} {before : World} :
    Meets (Unvarying cluster).logged (Step host) (fun _ _ => True) Stops (do
      unless remote.enabled do
        Stage.remote.run (session.enable .proxyHosts remote.id)
      return outcome) before := by
  have enables : Quiet cluster host (session.enable .proxyHosts remote.id) :=
    quiet_of_silent ⟨trivial, fun _ => trivial⟩
  split
  · exact .pure trivial
  · apply Meets.bind
    apply Meets.staged
    exact (enables before).mono (fun _ _ _ => .pure trivial) fun _ _ _ => nofun

theorem converge_meets (unwritten : Unwritten world) :
    Meets (Unvarying cluster).logged (Step host) (fun _ _ => True) Stops
      (ProxyHosts.converge context host) world := by
  unfold ProxyHosts.converge
  refine unwritten.bind .check fun _ world unwritten => ?_
  refine unwritten.bind (asks_spares (.staged ((connect_asks _ _ _).mono
    fun _ => Or.rec .of_looks .of_connects))) fun session world unwritten => ?_
  refine unwritten.bind (asks_spares (.staged ((ProxyHosts.checkClaims_asks host).mono
    fun _ => .of_looks))) fun _ world unwritten => ?_
  refine unwritten.bind (Adopting.findRemote_asks upkeep_spares trivial fun _ => trivial)
    fun found world unwritten => ?_
  refine unwritten.bind (asks_spares (.staged ((HostCertificate.resolve_asks _ _ _ _ _).mono
    fun _ => Or.rec .of_looks (.of_consults nofun)))) fun certificate world unwritten => ?_
  refine unwritten.bind (asks_spares (.staged ((HostAccess.resolve_asks _ _ _).mono
    fun _ => Or.rec .of_looks (.of_consults nofun)))) fun accessListId world unwritten => ?_
  apply Meets.bind
  apply Meets.staged
  refine (resolveTargets_standing
    (fun before exchange after surveys unwritten answered => ?_) unwritten).mono ?_ ?_
  · exact unwritten.spares (.of_leaves (.of_looks surveys.looks)) answered
  · intro targets world resolved
    apply Meets.bind
    apply Meets.staged
    refine (write_quiet world).mono ?_ fun _ _ _ => nofun
    intro first world _
    dsimp only
    split
    · next shown =>
      have unknown := (Bool.not_eq_true' _).mp ((Bool.and_eq_true _ _).mp shown).1
      rw [unknown] at resolved
      apply Meets.bind
      exact (upgrade_meets resolved.1).mono (fun _ _ _ => enable_quiet) fun _ _ stops => stops
    · exact enable_quiet
  · exact fun _ _ fails _ => fails.2

theorem reconcile_meets (live : host.metadata.isDeleting = false) (unwritten : Unwritten world) :
    Meets (Unvarying cluster).logged (Step host) (fun _ _ => True) (fun _ _ => True)
      (ProxyHosts.reconcile context host) world := by
  have keeps : ∀ (before : World) (exchange : Exchange Effects) (after : World),
      exchange.request.SparesHosts → Unwritten before → (Unvarying cluster).logged before exchange after →
      Step host before exchange after ∧ Unwritten after :=
    fun _ _ _ spares unwritten answered => unwritten.spares spares answered
  unfold ProxyHosts.reconcile
  rw [if_neg (Bool.eq_false_iff.mp live)]
  refine Meets.bind_asks keeps (fun _ _ _ => trivial) (hold_asks host trivial) unwritten
    fun _ world unwritten => ?_
  refine Meets.bind_asks keeps (fun _ _ _ => trivial)
    (ProxyHosts.begin_asks trivial (fun _ _ => trivial) fun _ => trivial) unwritten
    fun _ world unwritten => ?_
  refine Meets.finishTold ((converge_meets unwritten).mono ?_ fun _ _ stops => stops) ?_ ?_
  · intro outcome after _
    exact Always.bind updateStatus_quiet (fun _ => .pure) after
  · intro stopped before after stops told
    constructor
    · intro reports
      rcases reports with ⟨failure, same⟩
      have texts := congrArg Event.note (Option.some.inj same)
      exact stops (StageFailure.forward_of_text (Option.some.inj texts))
    · intro forward
      have unwritten := stops forward
      exact (keeps before ⟨.publish (failureEvent host stopped), ()⟩ after trivial unwritten told).2
  · intro stopped before _
    exact (updateStatus_quiet before).mono (fun _ _ _ => trivial) fun _ _ _ => trivial

end Correction

/-- What is resolved for a server that does not accept blocks is no block, and it is resolved for one that
does, to the same host or to a block of which that is the first server. In a cluster that is always seen in the
same way, a pass that stops because a target cannot be resolved has written no host until then. -/
theorem upgrade_never_stops {cluster : Standstill} :
    (∀ owner forward degraded, under cluster (Target.resolve owner false forward) = .ok degraded →
      degraded.upstream = none ∧ ∃ upgraded,
        under cluster (Target.resolve owner true forward) = .ok upgraded ∧
          Target.Upgrades owner degraded upgraded) ∧
    (∀ context host log stopped,
      Concludes (Correction.Unvarying cluster) (ProxyHosts.converge context host) () log (.error stopped) () →
      stopped.stage = .forward → hostWrites log = []) ∧
    ∀ context (host : ProxyHost) log rest, host.metadata.isDeleting = false →
      Program.Goes (Correction.Unvarying cluster) (reconcile context .proxyHost host).run () log rest () →
      ∀ earlier exchange later, log = earlier ++ exchange :: later →
        exchange.ReportsForward host → hostWrites earlier = [] := by
  refine ⟨?_, ?_, ?_⟩
  · intro owner forward degraded resolved
    exact ⟨Target.unpooled_of_degraded resolved, Target.exists_upgrade resolved⟩
  · intro context host log stopped concludes
    have meets : Meets (Correction.Unvarying cluster).logged (Correction.Step host) (fun _ _ => True)
        Correction.Stops (ProxyHosts.converge context host) ((), []) :=
      Correction.converge_meets rfl
    exact meets.goes (concludes.logged [])
  · intro context host log rest live goes
    have meets : Meets (Correction.Unvarying cluster).logged (Correction.Step host) (fun _ _ => True)
        (fun _ _ => True) (reconcile context .proxyHost host) ((), []) :=
      Correction.reconcile_meets live rfl
    exact Program.Meets.along (fun seen exchange => exchange.ReportsForward host → hostWrites seen = [])
      (goes.logged []) meets

namespace Sample

theorem revealing_unvarying : Program.Allowed (Correction.Unvarying .barren) revealing := by
  intro _ request answer _ answered surveys
  rcases Option.map_eq_some_iff.mp answered with ⟨_, known, _⟩
  cases request <;> first | exact surveys.elim | cases known

def backendless : ProxyHost := host "web" false []

/-- A forward to two backends. -/
def paired : Forward := (host "web" false [⟨"10.0.0.1", 80⟩, ⟨"10.0.0.2", 80⟩]).spec.forward

end Sample

/-- A host with two backends leads to the first one, or to both. One without backends is reported before
anything is written for it. -/
theorem upgrade_never_stops_backendless :
    (∃ degraded upgraded,
      under .barren (Target.resolve ⟨"apps", "web"⟩ false Sample.paired) = .ok degraded ∧
      under .barren (Target.resolve ⟨"apps", "web"⟩ true Sample.paired) = .ok upgraded ∧
      degraded.upstream = none ∧ upgraded.upstream.isSome ∧
        Target.Upgrades ⟨"apps", "web"⟩ degraded upgraded) ∧
    (∃ log stopped,
      Concludes (Correction.Unvarying .barren) (ProxyHosts.converge Sample.context Sample.backendless) () log
        (.error stopped) () ∧
      stopped.stage = .forward ∧ hostWrites log = []) ∧
    ∃ earlier exchange later failure,
      Program.Goes (Correction.Unvarying .barren)
        (reconcile Sample.context .proxyHost Sample.backendless).run ()
        (earlier ++ exchange :: later) (.done (.error failure)) () ∧
      exchange.ReportsForward Sample.backendless ∧ hostWrites earlier = [] := by
  have never := @upgrade_never_stops .barren
  refine ⟨?_, ?_, ?_⟩
  · rcases exists_under .barren (Target.resolve ⟨"apps", "web"⟩ false Sample.paired) (by decide +kernel)
      with ⟨degraded, resolved⟩
    rcases never.1 _ _ _ resolved with ⟨alone, upgraded, resolvedToo, upgrades⟩
    refine ⟨degraded, upgraded, resolved, resolvedToo, alone, ?_, upgrades⟩
    cases resolvedToo
    rfl
  · have goes := Sample.revealing_unvarying.goes_heard
      (ProxyHosts.converge Sample.context Sample.backendless).run ()
    have ended : ((ProxyHosts.converge Sample.context Sample.backendless).run.play Sample.revealing ()).1 =
        .done (.error ⟨.forward, Target.Problem.noHosts.failure⟩) :=
      Program.eq_done_error_of_failure? (by decide +kernel)
    rw [ended] at goes
    exact ⟨_, _, goes, rfl, never.2.1 _ _ _ _ goes rfl⟩
  · have goes := Sample.revealing_unvarying.goes_heard
      (reconcile Sample.context .proxyHost Sample.backendless).run ()
    have ended : ((reconcile Sample.context .proxyHost Sample.backendless).run.play Sample.revealing ()).1 =
        .done (.error Target.Problem.noHosts.failure) :=
      Program.eq_done_error_of_failure? (by decide +kernel)
    have reported : ((reconcile Sample.context .proxyHost Sample.backendless).run.heard
        Sample.revealing ()).any (·.event? = some (failureEvent Sample.backendless
          ⟨.forward, Target.Problem.noHosts.failure⟩)) = true := by
      decide +kernel
    rcases List.any_eq_true.mp reported with ⟨exchange, member, told⟩
    have reports : exchange.ReportsForward Sample.backendless := ⟨_, of_decide_eq_true told⟩
    rcases List.append_of_mem member with ⟨earlier, later, split⟩
    have unwritten := never.2.2 _ _ _ _ (by decide +kernel) goes earlier exchange later split reports
    rw [ended, split] at goes
    exact ⟨earlier, exchange, later, _, goes, reports, unwritten⟩

end ProxyOperator
