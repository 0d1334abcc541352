import ProxyOperator.Proofs.ErrandRules
/-!
Whole passes as errands. Each kind comes by its object in its own order, and each records an object that it
found or made before anything else can fail.
-/
namespace ProxyOperator

open Attempt Reconcile

/-- What the empty status does not have is found in the status or in the empty one, all the same. -/
theorem Resource.bind_status {kind : Kind} {α : Type} {resource : Resource kind}
    {field : kind.Status → Option α} (empty : field kind.emptyStatus = none) :
    resource.status.bind field = field resource.statusOrEmpty := by
  rw [Resource.statusOrEmpty]
  cases resource.status with
  | none => exact empty.symm
  | some status => rfl

namespace Errand

variable {kind : Kind} {errand : Errand kind} {effect : Effect}

theorem Aside.of_looks (looks : effect.Looks) : errand.Aside effect := by
  cases effect with
  | read | list | secret | service | pods | node =>
      exact ⟨rfl, rfl, rfl, fun _ _ => Effect.noConfusion⟩
  | _ => exact looks.elim

theorem Aside.of_connects (connects : effect.Connects) : errand.Aside effect := by
  cases effect with
  | connect => exact ⟨rfl, rfl, rfl, fun _ _ => Effect.noConfusion⟩
  | _ => exact connects.elim

/-- Objects of another collection are none of the errand's business. -/
theorem Aside.of_consults {collection : Remote.Collection}
    (other : collection ≠ errand.holding.collection) (consults : effect.Consults collection) :
    errand.Aside effect := by
  cases effect with
  | remote session request =>
      cases request with
      | list | get | create =>
          obtain rfl := consults
          exact ⟨by simp [Effect.lists, other], by simp [Effect.creates, other],
            by simp [Effect.target?, other], fun _ _ => Effect.noConfusion⟩
      | _ => exact consults.elim
  | _ => exact consults.elim

theorem connect_aside (context : Context) (reference : Option ResourceRef) («namespace» : String) :
    Asks errand.Aside (connect context reference «namespace») :=
  (connect_asks context reference «namespace»).mono fun _ => Or.rec .of_looks .of_connects

end Errand

/-! ## Objects that are adopted or made -/

namespace Adopting

variable {kind : Kind}

/-- A pass on a resource that may adopt an object. -/
@[reducible] def errand (adopting : Adopting kind) (subject : Resource kind) (start : Entry) :
    Errand kind :=
  ⟨adopting.holding, subject, start⟩

variable {adopting : Adopting kind} {subject : Resource kind} {start entry : Entry} {hand : Hand}
  {world : Errand.World kind} {context : Context} {session : Remote.Session} {bound : Bool}

/-- An object was found, or none was. -/
def Finds (adopting : Adopting kind) (subject : Resource kind) (start : Entry)
    (existing : Option adopting.collection.Object) (bound : Bool) (world : Errand.World kind) : Prop :=
  match existing with
  | none => (adopting.errand subject start).Lacks world
  | some remote =>
      (adopting.errand subject start).Keeps (adopting.collection.idOf remote) bound world

/-- What is in hand is recorded with its id, and with a snapshot if it was there before. -/
theorem recordRemote_errand {id : UInt32} (snapshot : Option adopting.Snapshot) {reason : String}
    (stands : (adopting.errand subject start).At hand entry world)
    (records : hand.Records ⟨some id, snapshot.isSome⟩) :
    Meets (adopting.errand subject start).Answers (adopting.errand subject start).Step
      (fun _ => (adopting.errand subject start).At hand ⟨some id, snapshot.isSome⟩)
      (fun _ => (adopting.errand subject start).Stopped)
      (adopting.recordRemote context subject id snapshot reason) world := by
  have tells : ∀ status, adopting.holding.entry (adopting.recorded id snapshot status) =
      ⟨some id, snapshot.isSome⟩ := by
    intro status
    simp only [recorded, adopting.footing_withFooting, Footing.recorded]
  apply Meets.bind
  refine (stands.updateStatus (fun status _ => tells status) (.inr records)).mono ?_
    fun _ _ => False.elim
  intro _ after stands
  apply Meets.publish
  intro later told
  exact stands.aside (Errand.aside_of_publish _) told

theorem adopt_errand (lacks : (adopting.errand subject start).Lacks world) :
    Meets (adopting.errand subject start).Answers (adopting.errand subject start).Step
      (fun existing => adopting.Finds subject start existing true)
      (fun _ => (adopting.errand subject start).Stopped) (adopting.adopt context session subject)
      world := by
  apply Meets.bind
  refine lacks.list.mono ?_ fun _ _ stopped => stopped
  intro objects after stands
  dsimp only at stands ⊢
  cases found : adopting.wanted subject.spec objects with
  | none =>
      rw [found] at stands
      exact .pure stands
  | some remote =>
      rw [found] at stands
      apply Meets.bind
      refine (recordRemote_errand (some (adopting.snapshot remote)) stands rfl).mono ?_
        fun _ _ stopped => stopped
      intro _ later stands
      exact .pure ⟨_, _, stands, rfl, rfl⟩

theorem findRemote_errand
    (stands : (adopting.errand subject start).At (adopting.errand subject start).first start world) :
    Meets (adopting.errand subject start).Answers (adopting.errand subject start).Step
      (fun found => adopting.Finds subject start found.1 found.2)
      (fun _ => (adopting.errand subject start).Stopped)
      (adopting.findRemote context session subject) world := by
  unfold findRemote
  dsimp only
  rw [Errand.first] at stands
  cases recorded : (adopting.footingOf subject).id with
  | some id =>
      have known : (adopting.holding.entry subject.statusOrEmpty).id = some id := recorded
      rw [known] at stands
      have keeps : (adopting.errand subject start).Keeps id (adopting.footingOf subject).bound world :=
        ⟨_, _, stands, rfl, trivial⟩
      apply Meets.bind
      apply Meets.staged
      exact keeps.get.mono (fun object after keeps => keeps) fun _ _ stopped => stopped
  | none =>
      have unknown : (adopting.holding.entry subject.statusOrEmpty).id = none := recorded
      rw [unknown] at stands
      have lacks : (adopting.errand subject start).Lacks world := stands
      dsimp only
      split
      · apply Meets.bind
        apply Meets.staged
        refine (adopt_errand lacks).mono ?_ fun _ _ stopped => stopped
        intro existing after found
        cases existing with
        | none => exact found
        | some remote => exact found
      · exact .pure lacks

/-- The object that was found is changed, and without one an object is made. -/
theorem write_errand {existing : Option adopting.collection.Object}
    {payload : adopting.collection.Payload}
    (found : adopting.Finds subject start existing bound world) :
    Meets (adopting.errand subject start).Answers (adopting.errand subject start).Step
      (fun remote =>
        (adopting.errand subject start).Keeps (adopting.collection.idOf remote) bound)
      (fun _ => (adopting.errand subject start).Stopped)
      (adopting.write context session subject existing payload) world := by
  unfold write
  cases existing with
  | some remote => exact Errand.Keeps.update found
  | none =>
      have lacks : (adopting.errand subject start).Lacks world := found
      apply Meets.bind
      refine lacks.create.mono ?_ fun _ _ stopped => stopped
      intro remote after stands
      apply Meets.bind
      refine (recordRemote_errand none stands rfl).mono ?_ fun _ _ stopped => stopped
      intro _ later stands
      exact .pure ⟨_, _, stands, rfl, rfl⟩

/-- Whatever a pass found goes on being so while it asks for other things. -/
theorem Finds.bind {ε α β : Type} {attempt : Attempt ε α} {next : α → Attempt ε β}
    {ok : β → Errand.World kind → Prop} {existing : Option adopting.collection.Object}
    (asks : Asks (adopting.errand subject start).Aside attempt)
    (found : adopting.Finds subject start existing bound world)
    (further : ∀ value after, adopting.Finds subject start existing bound after →
      Meets (adopting.errand subject start).Answers (adopting.errand subject start).Step ok
        (fun _ => (adopting.errand subject start).Stopped) (next value) after) :
    Meets (adopting.errand subject start).Answers (adopting.errand subject start).Step ok
      (fun _ => (adopting.errand subject start).Stopped) (attempt >>= next) world := by
  cases existing with
  | none => exact Errand.Lacks.bind asks found further
  | some remote => exact Errand.Keeps.bind asks found further

end Adopting

/-! ## Hosts -/

namespace Reconcile.ProxyHosts

variable {host : ProxyHost} {start : Entry} {world : Errand.World .proxyHost} {context : Context}
  {session : Remote.Session} {bound : Bool}

abbrev errand (host : ProxyHost) (start : Entry) : Errand .proxyHost :=
  Adopting.proxyHosts.errand host start

theorem upgrade_errand {certificate : HostCertificate} {accessListId : Option UInt32}
    {remote : Remote.Host} (keeps : (errand host start).Keeps remote.id bound world) :
    Meets (errand host start).Answers (errand host start).Step
      (fun remote : Remote.Host => (errand host start).Keeps remote.id bound)
      (fun _ => (errand host start).Stopped)
      (upgrade session host certificate accessListId remote) world := by
  apply keeps.bind (.staged ((resolveTargets_asks host true).mono fun _ => .of_looks))
  intro targets after keeps
  split
  · exact .pure keeps
  · exact .staged keeps.update

theorem converge_errand
    (stands : (errand host start).At (errand host start).first start world) :
    Meets (errand host start).Answers (errand host start).Step
      (fun outcome : Converged => (errand host start).Has outcome.id outcome.bound)
      (fun _ => (errand host start).Stopped) (converge context host) world := by
  unfold converge
  apply Errand.At.bind .check Errand.first_isKept stands
  intro _ _ stands
  apply Errand.At.bind (.staged (Errand.connect_aside _ _ _)) Errand.first_isKept stands
  intro session _ stands
  apply Errand.At.bind (.staged ((checkClaims_asks host).mono fun _ => .of_looks))
    Errand.first_isKept stands
  intro _ _ stands
  apply Meets.bind
  refine (Adopting.findRemote_errand stands).mono ?_ fun _ _ stopped => stopped
  intro ⟨existing, bound⟩ _ found
  apply found.bind (.staged ((HostCertificate.resolve_asks _ _ _ _ _).mono
    fun _ => Or.rec .of_looks (.of_consults nofun)))
  intro certificate _ found
  apply found.bind (.staged ((HostAccess.resolve_asks _ _ _).mono
    fun _ => Or.rec .of_looks (.of_consults nofun)))
  intro accessListId _ found
  apply found.bind (.staged ((resolveTargets_asks host _).mono fun _ => .of_looks))
  intro targets _ found
  apply Meets.bind
  apply Meets.staged
  refine (Adopting.write_errand found).mono ?_ fun _ _ stopped => stopped
  intro first _ keeps
  -- What is left is the same after an upgrade and without one.
  have enables : ∀ (remote : Remote.Host) (world : Errand.World .proxyHost),
      (errand host start).Keeps remote.id bound world →
      Meets (errand host start).Answers (errand host start).Step
        (fun outcome : Converged => (errand host start).Has outcome.id outcome.bound)
        (fun _ => (errand host start).Stopped) (do
          unless remote.enabled do
            Stage.remote.run (session.enable .proxyHosts remote.id)
          return ⟨remote.id, bound, remote.health.online, certificate⟩) world := by
    intro remote world keeps
    split
    · exact .pure keeps.has
    · apply Meets.bind
      apply Meets.staged
      refine (keeps.ask Effect.target_enable).mono ?_ fun _ _ stopped => stopped
      intro _ _ ⟨_, keeps⟩
      exact .pure keeps.has
  dsimp only
  split
  · exact .bind ((upgrade_errand keeps).mono enables fun _ _ stopped => stopped)
  · exact enables first _ keeps

theorem reconcile_errand (remains : host.metadata.isDeleting = false)
    (stands : (errand host start).At (errand host start).first start world) :
    Meets (errand host start).Answers (errand host start).Step (fun _ => (errand host start).Done)
      (fun _ => (errand host start).Stopped) (reconcile context host) world := by
  unfold reconcile
  rw [remains]
  apply Errand.At.bind Errand.hold_aside Errand.first_isKept stands
  intro _ _ stands
  apply Meets.bind
  refine stands.mark.mono ?_ fun _ _ stopped => stopped
  intro _ _ stands
  apply Errand.finish_meets (converge_errand stands)
  intro outcome after has
  exact has.conclude fun _ => rfl

end Reconcile.ProxyHosts

/-! ## Streams -/

namespace Reconcile.Streams

variable {stream : Stream} {start : Entry} {world : Errand.World .stream} {context : Context}
  {session : Remote.Session}

abbrev errand (stream : Stream) (start : Entry) : Errand .stream :=
  Adopting.streams.errand stream start

theorem converge_errand
    (stands : (errand stream start).At (errand stream start).first start world) :
    Meets (errand stream start).Answers (errand stream start).Step
      (fun outcome : Converged => (errand stream start).Has outcome.id outcome.bound)
      (fun _ => (errand stream start).Stopped) (converge context stream) world := by
  unfold converge
  apply Errand.At.bind .check Errand.first_isKept stands
  intro _ _ stands
  apply Errand.At.bind (.staged (Errand.connect_aside _ _ _)) Errand.first_isKept stands
  intro session _ stands
  apply Errand.At.bind (.staged ((checkClaims_asks stream).mono fun _ => .of_looks))
    Errand.first_isKept stands
  intro _ _ stands
  apply Meets.bind
  refine (Adopting.findRemote_errand stands).mono ?_ fun _ _ stopped => stopped
  intro ⟨existing, bound⟩ _ found
  apply found.bind (.staged ((Target.resolve_asks _ _ _).mono fun _ => .of_looks))
  intro target _ found
  apply Meets.bind
  apply Meets.staged
  refine (Adopting.write_errand found).mono ?_ fun _ _ stopped => stopped
  intro remote _ keeps
  dsimp only
  split
  · exact .pure keeps.has
  · apply Meets.bind
    apply Meets.staged
    refine (keeps.ask Effect.target_enable).mono ?_ fun _ _ stopped => stopped
    intro _ _ ⟨_, keeps⟩
    exact .pure keeps.has

theorem reconcile_errand (remains : stream.metadata.isDeleting = false)
    (stands : (errand stream start).At (errand stream start).first start world) :
    Meets (errand stream start).Answers (errand stream start).Step
      (fun _ => (errand stream start).Done) (fun _ => (errand stream start).Stopped)
      (reconcile context stream) world := by
  unfold reconcile
  rw [remains]
  apply Errand.At.bind Errand.hold_aside Errand.first_isKept stands
  intro _ _ stands
  apply Meets.bind
  refine stands.mark.mono ?_ fun _ _ stopped => stopped
  intro _ _ stands
  apply Errand.finish_meets (converge_errand stands)
  intro outcome after has
  exact has.conclude fun _ => rfl

end Reconcile.Streams

/-! ## Access lists -/

namespace Reconcile.AccessLists

variable {list : AccessList} {start : Entry} {world : Errand.World .accessList} {context : Context}
  {session : Remote.Session}

abbrev errand (list : AccessList) (start : Entry) : Errand .accessList :=
  ⟨.accessLists, list, start⟩

/-- The password of a user is read from one Secret. -/
theorem login_permitted {allowed : Effect → Prop} {«namespace» : String}
    (authorization : AccessList.Authorization)
    (reads : allowed (.secret ⟨«namespace», authorization.password.name⟩)) :
    Asks allowed (login «namespace» authorization) :=
  .bind (secretText_permitted reads _) fun _ => .pure

theorem login_asks («namespace» : String) (authorization : AccessList.Authorization) :
    Asks Effect.Looks (login «namespace» authorization) :=
  login_permitted authorization trivial

theorem write_errand {payload : Remote.AccessList.Payload}
    (stands : (errand list start).At (errand list start).first start world) :
    Meets (errand list start).Answers (errand list start).Step
      (fun outcome : Converged => (errand list start).Has outcome.id false)
      (fun _ => (errand list start).Stopped)
      (write session (list.status.bind (·.id)) payload) world := by
  have same : list.status.bind (·.id) = list.statusOrEmpty.id := Resource.bind_status rfl
  rw [same]
  unfold write
  rw [Errand.first] at stands
  dsimp only at stands
  cases recorded : list.statusOrEmpty.id with
  | some id =>
      rw [recorded] at stands
      have keeps : (errand list start).Keeps id false world := ⟨_, _, stands, rfl, trivial⟩
      apply Meets.bind
      refine keeps.update.mono ?_ fun _ _ stopped => stopped
      intro remote _ keeps
      exact .pure keeps.has
  | none =>
      rw [recorded] at stands
      have lacks : (errand list start).Lacks world := stands
      apply Meets.bind
      refine lacks.create.mono ?_ fun _ _ stopped => stopped
      intro remote _ stands
      exact .pure ⟨_, _, stands, rfl⟩

theorem converge_errand
    (stands : (errand list start).At (errand list start).first start world) :
    Meets (errand list start).Answers (errand list start).Step
      (fun outcome : Converged => (errand list start).Has outcome.id false)
      (fun _ => (errand list start).Stopped) (converge context list) world := by
  unfold converge
  apply Errand.At.bind .check Errand.first_isKept stands
  intro _ _ stands
  apply Errand.At.bind (.staged (.mapM (fun authorization =>
    (login_asks _ authorization).mono fun _ => .of_looks) _)) Errand.first_isKept stands
  intro logins _ stands
  apply Errand.At.bind (.staged (Errand.connect_aside _ _ _)) Errand.first_isKept stands
  intro session _ stands
  exact .staged (write_errand stands)

theorem reconcile_errand (remains : list.metadata.isDeleting = false)
    (stands : (errand list start).At (errand list start).first start world) :
    Meets (errand list start).Answers (errand list start).Step
      (fun _ => (errand list start).Done) (fun _ => (errand list start).Stopped)
      (reconcile context list) world := by
  unfold reconcile
  rw [remains]
  apply Errand.At.bind Errand.hold_aside Errand.first_isKept stands
  intro _ _ stands
  apply Errand.finish_meets (converge_errand stands)
  intro outcome after has
  split
  · exact has.conclude_told fun _ => rfl
  · exact has.conclude fun _ => rfl

end Reconcile.AccessLists

/-! ## Certificates -/

namespace Reconcile.CustomCertificates

variable {certificate : CustomCertificate} {start : Entry} {world : Errand.World .customCertificate}
  {context : Context} {session : Remote.Session}

abbrev errand (certificate : CustomCertificate) (start : Entry) : Errand .customCertificate :=
  ⟨.customCertificates, certificate, start⟩

theorem readMaterial_permitted {allowed : Effect → Prop} {certificate : CustomCertificate}
    (reads : allowed (.secret
      ⟨certificate.metadata.spokenKey.namespace, certificate.spec.secretName⟩)) :
    Asks allowed (readMaterial certificate) :=
  .bind (secret_permitted reads) fun _ => .orFail

theorem readMaterial_asks (certificate : CustomCertificate) :
    Asks Effect.Looks (readMaterial certificate) :=
  readMaterial_permitted trivial

theorem make_errand (lacks : (errand certificate start).Lacks world) :
    Meets (errand certificate start).Answers (errand certificate start).Step
      (fun id => (errand certificate start).Keeps id false)
      (fun _ => (errand certificate start).Stopped) (make context session certificate) world := by
  apply Meets.bind
  refine lacks.create.mono ?_ fun _ _ stopped => stopped
  intro remote _ stands
  have tells : ∀ status : CustomCertificate.Status,
      Holding.customCertificates.entry { status with id := some remote.id } =
        ⟨some remote.id, false⟩ :=
    fun _ => rfl
  apply Meets.bind
  refine (stands.updateStatus (fun status _ => tells status) (.inr rfl)).mono ?_
    fun _ _ => False.elim
  intro _ _ stands
  exact .pure ⟨_, _, stands, rfl, rfl⟩

theorem converge_errand
    (stands : (errand certificate start).At (errand certificate start).first start world) :
    Meets (errand certificate start).Answers (errand certificate start).Step
      (fun outcome : Converged => (errand certificate start).Has outcome.remote.id false)
      (fun _ => (errand certificate start).Stopped) (converge context certificate) world := by
  unfold converge
  apply Errand.At.bind .check Errand.first_isKept stands
  intro _ _ stands
  apply Errand.At.bind (.staged ((readMaterial_asks certificate).mono fun _ => .of_looks))
    Errand.first_isKept stands
  intro material _ stands
  apply Errand.At.bind (.staged (Errand.connect_aside _ _ _)) Errand.first_isKept stands
  intro session _ stands
  -- What is left is the same for a certificate on record and for one just made.
  have uploads : ∀ (id : UInt32) (world : Errand.World .customCertificate),
      (errand certificate start).Keeps id false world →
      Meets (errand certificate start).Answers (errand certificate start).Step
        (fun outcome : Converged => (errand certificate start).Has outcome.remote.id false)
        (fun _ => (errand certificate start).Stopped) (do
          let due := certificate.statusOrEmpty.id.isNone ||
            certificate.statusOrEmpty.materialHash ≠ some material.fingerprint
          if due then Stage.remote.run (session.upload id material)
          return ⟨← Stage.remote.run (session.get .certificates id), material.fingerprint, due⟩)
        world := by
    intro id world keeps
    have gets : ∀ (due : Bool) (world : Errand.World .customCertificate),
        (errand certificate start).Keeps id false world →
        Meets (errand certificate start).Answers (errand certificate start).Step
          (fun outcome : Converged => (errand certificate start).Has outcome.remote.id false)
          (fun _ => (errand certificate start).Stopped) (do
            return ⟨← Stage.remote.run (session.get .certificates id), material.fingerprint, due⟩)
          world := by
      intro due world keeps
      apply Meets.bind
      apply Meets.staged
      exact keeps.get.mono (fun remote _ keeps => keeps.has) fun _ _ stopped => stopped
    dsimp only
    split
    · apply Meets.bind
      apply Meets.staged
      refine (keeps.ask Effect.target_upload).mono ?_ fun _ _ stopped => stopped
      intro _ _ ⟨_, keeps⟩
      exact gets _ _ keeps
    · exact gets _ _ keeps
  rw [Errand.first] at stands
  dsimp only at stands ⊢
  cases recorded : certificate.statusOrEmpty.id with
  | some id =>
      rw [recorded] at stands
      rw [recorded] at uploads
      exact uploads id _ ⟨_, _, stands, rfl, trivial⟩
  | none =>
      rw [recorded] at stands
      rw [recorded] at uploads
      apply Meets.bind
      apply Meets.staged
      exact (make_errand stands).mono uploads fun _ _ stopped => stopped

theorem reconcile_errand (remains : certificate.metadata.isDeleting = false)
    (stands : (errand certificate start).At (errand certificate start).first start world) :
    Meets (errand certificate start).Answers (errand certificate start).Step
      (fun _ => (errand certificate start).Done) (fun _ => (errand certificate start).Stopped)
      (reconcile context certificate) world := by
  unfold reconcile
  rw [remains]
  apply Errand.At.bind Errand.hold_aside Errand.first_isKept stands
  intro _ _ stands
  apply Errand.finish_meets (converge_errand stands)
  intro outcome after has
  split
  · exact has.conclude_told fun _ => rfl
  · exact has.conclude fun _ => rfl

end Reconcile.CustomCertificates

namespace Reconcile.LetsEncryptCertificates

variable {certificate : LetsEncryptCertificate} {start : Entry}
  {world : Errand.World .letsEncryptCertificate} {context : Context} {session : Remote.Session}

abbrev errand (certificate : LetsEncryptCertificate) (start : Entry) :
    Errand .letsEncryptCertificate :=
  ⟨.letsEncryptCertificates, certificate, start⟩

theorem withChallenge_permitted {allowed : Effect → Prop} {«namespace» : String}
    {challenge : Option LetsEncryptCertificate.DnsChallenge} (payload : Remote.Certificate.Payload)
    (reads : ∀ given ∈ challenge, allowed (.secret ⟨«namespace», given.credentialsSecret⟩)) :
    Asks allowed (withChallenge «namespace» challenge payload) := by
  cases challenge with
  | none => exact .pure
  | some given => exact .bind (secretText_permitted (reads given rfl) _) fun _ => .pure

theorem withChallenge_asks («namespace» : String)
    (challenge : Option LetsEncryptCertificate.DnsChallenge) (payload : Remote.Certificate.Payload) :
    Asks Effect.Looks (withChallenge «namespace» challenge payload) :=
  withChallenge_permitted payload fun _ _ => trivial

theorem request_errand (lacks : (errand certificate start).Lacks world) :
    Meets (errand certificate start).Answers (errand certificate start).Step
      (fun remote => (errand certificate start).Has remote.id false)
      (fun _ => (errand certificate start).Stopped) (request context session certificate) world := by
  unfold request
  apply lacks.bind (.staged .demand)
  intro email _ lacks
  apply lacks.bind (.staged ((withChallenge_asks _ _ _).mono fun _ => .of_looks))
  intro payload _ lacks
  apply Meets.staged
  refine lacks.create.mono ?_ fun _ _ stopped => stopped
  intro remote _ stands
  exact ⟨_, _, stands, rfl⟩

theorem converge_errand
    (stands : (errand certificate start).At (errand certificate start).first start world) :
    Meets (errand certificate start).Answers (errand certificate start).Step
      (fun outcome : Converged => (errand certificate start).Has outcome.remote.id outcome.bound)
      (fun _ => (errand certificate start).Stopped) (converge context certificate) world := by
  unfold converge
  apply Errand.At.bind .check Errand.first_isKept stands
  intro _ _ stands
  apply Errand.At.bind (.staged (Errand.connect_aside _ _ _)) Errand.first_isKept stands
  intro session _ stands
  rw [Errand.first] at stands
  dsimp only at stands ⊢
  cases recorded : certificate.statusOrEmpty.id with
  | some id =>
      rw [recorded] at stands
      have keeps : (errand certificate start).Keeps id certificate.statusOrEmpty.bound _ :=
        ⟨_, _, stands, rfl, trivial⟩
      apply Meets.bind
      apply Meets.staged
      exact keeps.get.mono (fun remote _ keeps => keeps.has) fun _ _ stopped => stopped
  | none =>
      rw [recorded] at stands
      have lacks : (errand certificate start).Lacks _ := stands
      apply Meets.bind
      apply Meets.staged
      refine lacks.list.mono ?_ fun _ _ stopped => stopped
      intro listed _ stands
      dsimp only at stands ⊢
      cases found : Remote.findExactCertificate certificate.spec.domains listed with
      | some remote =>
          rw [found] at stands
          exact .pure ⟨_, _, stands, rfl⟩
      | none =>
          rw [found] at stands
          apply Meets.bind
          exact (request_errand stands).mono (fun remote _ has => has) fun _ _ stopped => stopped

theorem reconcile_errand (remains : certificate.metadata.isDeleting = false)
    (stands : (errand certificate start).At (errand certificate start).first start world) :
    Meets (errand certificate start).Answers (errand certificate start).Step
      (fun _ => (errand certificate start).Done) (fun _ => (errand certificate start).Stopped)
      (reconcile context certificate) world := by
  unfold reconcile
  rw [remains]
  apply Errand.At.bind Errand.hold_aside Errand.first_isKept stands
  intro _ _ stands
  apply Errand.finish_meets (converge_errand stands)
  intro outcome after has
  split
  · exact has.conclude_told fun _ => rfl
  · exact has.conclude fun _ => rfl

end Reconcile.LetsEncryptCertificates

/-! ## Passes of all kinds -/

theorem Kind.reconcile_errand {kind : Kind} {holding : Holding kind} {subject : Resource kind}
    {start : Entry} {world : Errand.World kind} {context : Context}
    (own : kind.holding? = some holding) (remains : subject.metadata.isDeleting = false)
    (stands : Errand.At ⟨holding, subject, start⟩ (Errand.first ⟨holding, subject, start⟩) start
      world) :
    Meets (Errand.Answers ⟨holding, subject, start⟩) (Errand.Step ⟨holding, subject, start⟩)
      (fun _ => Errand.Done ⟨holding, subject, start⟩)
      (fun _ => Errand.Stopped ⟨holding, subject, start⟩) (reconcile context kind subject) world := by
  cases kind with
  | token => cases own
  | proxyHost =>
      obtain rfl := Option.some.inj own
      exact ProxyHosts.reconcile_errand remains stands
  | stream =>
      obtain rfl := Option.some.inj own
      exact Streams.reconcile_errand remains stands
  | letsEncryptCertificate =>
      obtain rfl := Option.some.inj own
      exact LetsEncryptCertificates.reconcile_errand remains stands
  | customCertificate =>
      obtain rfl := Option.some.inj own
      exact CustomCertificates.reconcile_errand remains stands
  | accessList =>
      obtain rfl := Option.some.inj own
      exact AccessLists.reconcile_errand remains stands

namespace Errand

variable {kind : Kind} {errand : Errand kind} {stored after : Resource kind}
  {log : List (Exchange Effects)} {rest : Running}

/-- What is to be said of a pass that got so far, and of one that ended. -/
structure Traced (errand : Errand kind) (log : List (Exchange Effects)) (rest : Running)
    (after : Resource kind) : Prop where
  follows : errand.Follows log
  stopped : ∀ outcome, rest = .done outcome → errand.Stopped (after, log)
  done : ∀ action, rest = .done (.ok action) → errand.Done (after, log)

/-- Where statuses can be read and written, every pass is an errand, whatever it was given and however
far it got. -/
theorem traced (errand : Errand kind) {context : Context} (own : kind.holding? = some errand.holding)
    (remains : errand.subject.metadata.isDeleting = false)
    (recorded : errand.holding.entry stored.statusOrEmpty = errand.start)
    (goes : Program.Goes (Obliges errand.key) (reconcile context kind errand.subject).run stored log
      rest after) : errand.Traced log rest after := by
  have meets : Meets errand.Answers errand.Step (fun _ => errand.Done) (fun _ => errand.Stopped)
      (reconcile context kind errand.subject) (stored, []) :=
    Kind.reconcile_errand own remains (start_at recorded)
  have logged := goes.logged []
  constructor
  · exact Program.Meets.along
      (fun seen exchange => errand.Befits (errand.hand seen) exchange.request) logged meets
  · intro outcome ended
    rw [ended] at logged
    have ends := meets.goes logged
    cases outcome with
    | ok action =>
        obtain ⟨hand, entry, stands, records⟩ := ends
        exact ⟨hand, entry, stands, Hand.isKept_of_records records⟩
    | error failure => exact ends
  · intro action ended
    rw [ended] at logged
    exact meets.goes logged

end Errand

end ProxyOperator
