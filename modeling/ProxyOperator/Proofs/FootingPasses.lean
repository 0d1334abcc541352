import ProxyOperator.Proofs.FootingAdoption
/-!
What whole passes on proxy hosts and on streams do to the footing: it is made once, when a remote object
is adopted or made, and what a pass writes at its end agrees with it.
-/
namespace ProxyOperator

open Attempt Scene

namespace Reconcile.ProxyHosts

variable {host : ProxyHost} {scene : Scene .proxyHost} {known : List (Exchange Effects)}
  {footing : Footing ProxyHost.Snapshot} {context : Context} {session : Remote.Session}

/-- A pass on a host has seen some exchanges, and the footing is `footing`. -/
abbrev Stands (host : ProxyHost) (known : List (Exchange Effects))
    (footing : Footing ProxyHost.Snapshot) (scene : Scene .proxyHost) : Prop :=
  scene.Stands .proxyHosts host known footing

abbrev Knows (host : ProxyHost) (id : Option UInt32) (bound : Bool) (scene : Scene .proxyHost) :
    Prop :=
  scene.Knows .proxyHosts host id bound

abbrev Goes (host : ProxyHost) (scene : Scene .proxyHost) : Prop := scene.Goes .proxyHosts host

abbrev Keeps : Scene .proxyHost → Exchange Effects → Scene .proxyHost → Prop :=
  Scene.Keeps .proxyHosts

theorem upgrade_meets {certificate : HostCertificate} {accessListId : Option UInt32}
    {remote : Remote.Host} {bound : Bool} (knows : Knows host (some remote.id) bound scene) :
    Meets Answers Keeps (fun remote => Knows host (some remote.id) bound) (fun _ => Goes host)
      (upgrade session host certificate accessListId remote) scene := by
  rcases knows with ⟨footing, fits, stands⟩
  refine stands.bind (.staged ((resolveTargets_asks host true).mono fun _ => .of_looks))
    fun targets after stands => ?_
  split
  · exact .pure ⟨footing, fits, stands⟩
  · exact .staged (Adopting.update_meets fits stands)

theorem converge_meets (sound : (Adopting.proxyHosts.footingOf host).Sound)
    (stands : Stands host [] (Adopting.proxyHosts.footingOf host) scene) :
    Meets Answers Keeps (fun outcome => Knows host (some outcome.id) outcome.bound)
      (fun _ => Goes host) (converge context host) scene := by
  unfold converge
  refine stands.bind .check fun _ scene stands => ?_
  refine stands.bind (.staged ((connect_asks _ _ _).mono fun _ => Or.rec .of_looks .of_connects))
    fun session scene stands => ?_
  refine stands.bind (.staged ((checkClaims_asks host).mono fun _ => .of_looks))
    fun _ scene stands => ?_
  refine .bind ((Adopting.findRemote_meets sound stands).mono ?_ fun _ _ goes => goes)
  rintro ⟨existing, bound⟩ scene ⟨footing, fits, stands⟩
  refine stands.bind (.staged ((HostCertificate.resolve_asks _ _ _ _ _).mono
    fun _ => Or.rec .of_looks .of_consults)) fun certificate scene stands => ?_
  refine stands.bind (.staged ((HostAccess.resolve_asks _ _ _).mono
    fun _ => Or.rec .of_looks .of_consults)) fun accessListId scene stands => ?_
  refine stands.bind (.staged ((resolveTargets_asks host _).mono fun _ => .of_looks))
    fun targets scene stands => ?_
  refine .bind (.staged ((Adopting.write_meets fits stands).mono (fun first scene knows => ?_)
    fun _ _ goes => goes))
  -- What is left is the same after an upgrade and without one.
  have enables : ∀ {remote : Remote.Host} {scene : Scene .proxyHost},
      Knows host (some remote.id) bound scene →
      Meets Answers Keeps (fun (outcome : Converged) => Knows host (some outcome.id) outcome.bound)
        (fun _ => Goes host) (do
          unless remote.enabled do
            Stage.remote.run (session.enable .proxyHosts remote.id)
          return ⟨remote.id, bound, remote.health.online, certificate⟩) scene := by
    rintro remote scene ⟨footing, fits, stands⟩
    split
    · exact .pure ⟨footing, fits, stands⟩
    · exact stands.bind (.staged ⟨trivial, fun _ => trivial⟩)
        fun _ _ stands => .pure ⟨footing, fits, stands⟩
  dsimp only
  split
  · exact .bind ((upgrade_meets knows).mono (fun _ _ knows => enables knows) fun _ _ goes => goes)
  · exact enables knows

theorem begin_meets (stands : Stands host known footing scene) :
    Meets Answers Keeps (fun _ => Stands host known footing) (fun _ => Goes host)
      (begin context host) scene := by
  unfold begin
  dsimp only
  split
  · exact stands.of_mapConditions
  · exact .pure stands

theorem synced_footing {generation : Option Int64} {outcome : Converged}
    (fits : footing.Fits (some outcome.id) outcome.bound) (status : ProxyHost.Status)
    (recorded : Adopting.proxyHosts.footing status = footing) :
    Adopting.proxyHosts.footing (synced context generation outcome status) = footing := by
  subst recorded
  have id : status.id = some outcome.id := fits.id
  have bound : status.bound = outcome.bound := fits.bound
  simp only [synced, id, bound]

/-- A pass on a host changes what is recorded of the remote host only by adopting or making it. -/
theorem reconcile_meets (remains : host.metadata.isDeleting = false)
    (sound : (Adopting.proxyHosts.footingOf host).Sound)
    (stands : Stands host [] (Adopting.proxyHosts.footingOf host) scene) :
    Meets Answers Keeps (fun _ _ => True) (fun _ _ => True) (reconcile context host) scene := by
  unfold reconcile
  rw [remains]
  refine .bind ((stands.of_quiet (hold_asks host trivial)).mono (fun _ scene stands => ?_)
    fun _ _ _ => trivial)
  refine .bind ((begin_meets stands).mono (fun _ scene stands => ?_) fun _ _ _ => trivial)
  refine Goes.of_finish (converge_meets sound stands) fun outcome scene knows => ?_
  rcases knows with ⟨footing, fits, stands⟩
  refine .bind ((stands.of_updateAside (synced_footing fits)).mono (fun _ _ _ => ?_)
    fun _ _ _ => trivial)
  exact .pure trivial

end Reconcile.ProxyHosts

namespace Reconcile.Streams

variable {stream : Stream} {scene : Scene .stream} {known : List (Exchange Effects)}
  {footing : Footing Stream.Snapshot} {context : Context} {session : Remote.Session}

/-- A pass on a stream has seen some exchanges, and the footing is `footing`. -/
abbrev Stands (stream : Stream) (known : List (Exchange Effects))
    (footing : Footing Stream.Snapshot) (scene : Scene .stream) : Prop :=
  scene.Stands .streams stream known footing

abbrev Knows (stream : Stream) (id : Option UInt32) (bound : Bool) (scene : Scene .stream) : Prop :=
  scene.Knows .streams stream id bound

abbrev Goes (stream : Stream) (scene : Scene .stream) : Prop := scene.Goes .streams stream

abbrev Keeps : Scene .stream → Exchange Effects → Scene .stream → Prop :=
  Scene.Keeps .streams

theorem converge_meets (sound : (Adopting.streams.footingOf stream).Sound)
    (stands : Stands stream [] (Adopting.streams.footingOf stream) scene) :
    Meets Answers Keeps (fun outcome => Knows stream (some outcome.id) outcome.bound)
      (fun _ => Goes stream) (converge context stream) scene := by
  unfold converge
  refine stands.bind .check fun _ scene stands => ?_
  refine stands.bind (.staged ((connect_asks _ _ _).mono fun _ => Or.rec .of_looks .of_connects))
    fun session scene stands => ?_
  refine stands.bind (.staged ((checkClaims_asks stream).mono fun _ => .of_looks))
    fun _ scene stands => ?_
  refine .bind ((Adopting.findRemote_meets sound stands).mono ?_ fun _ _ goes => goes)
  rintro ⟨existing, bound⟩ scene ⟨footing, fits, stands⟩
  refine stands.bind (.staged ((Target.resolve_asks _ _ _).mono fun _ => .of_looks))
    fun target scene stands => ?_
  refine .bind (.staged ((Adopting.write_meets fits stands).mono ?_ fun _ _ goes => goes))
  rintro remote scene ⟨footing, fits, stands⟩
  dsimp only
  split
  · exact .pure ⟨footing, fits, stands⟩
  · exact stands.bind (.staged ⟨trivial, fun _ => trivial⟩)
      fun _ _ stands => .pure ⟨footing, fits, stands⟩

theorem begin_meets (stands : Stands stream known footing scene) :
    Meets Answers Keeps (fun _ => Stands stream known footing) (fun _ => Goes stream)
      (begin context stream) scene := by
  unfold begin
  dsimp only
  split
  · exact stands.of_mapConditions
  · exact .pure stands

theorem synced_footing {generation : Option Int64} {outcome : Converged}
    (fits : footing.Fits (some outcome.id) outcome.bound) (status : Stream.Status)
    (recorded : Adopting.streams.footing status = footing) :
    Adopting.streams.footing (synced context generation outcome status) = footing := by
  subst recorded
  have id : status.id = some outcome.id := fits.id
  have bound : status.bound = outcome.bound := fits.bound
  simp only [synced, id, bound]

/-- A pass on a stream changes what is recorded of the remote stream only by adopting or making it. -/
theorem reconcile_meets (remains : stream.metadata.isDeleting = false)
    (sound : (Adopting.streams.footingOf stream).Sound)
    (stands : Stands stream [] (Adopting.streams.footingOf stream) scene) :
    Meets Answers Keeps (fun _ _ => True) (fun _ _ => True) (reconcile context stream) scene := by
  unfold reconcile
  rw [remains]
  refine .bind ((stands.of_quiet (hold_asks stream trivial)).mono (fun _ scene stands => ?_)
    fun _ _ _ => trivial)
  refine .bind ((begin_meets stands).mono (fun _ scene stands => ?_) fun _ _ _ => trivial)
  refine Goes.of_finish (converge_meets sound stands) fun outcome scene knows => ?_
  rcases knows with ⟨footing, fits, stands⟩
  refine .bind ((stands.of_updateAside (synced_footing fits)).mono (fun _ _ _ => ?_)
    fun _ _ _ => trivial)
  exact .pure trivial

end Reconcile.Streams

end ProxyOperator
