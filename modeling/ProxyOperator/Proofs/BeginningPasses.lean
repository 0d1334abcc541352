import ProxyOperator.Proofs.Beginnings
import ProxyOperator.Proofs.HostRequests
/-!
Passes on hosts and streams report once for each generation that they have begun. A pass reports only what is
due by the status it was given, and until then it is the only one to write that status.
-/
namespace ProxyOperator

open Attempt Reconcile

namespace Annals

variable {kind : Kind} {α ε : Type} {subject : Resource kind} {property later : kind.Status → Prop}
  {before after annals : Annals kind} {exchange : Exchange Effects}

/-- A pass on `subject` goes on, and something holds of the stored status. -/
structure Stays (subject : Resource kind) (property : kind.Status → Prop) (annals : Annals kind) :
    Prop where
  subject : annals.subject = subject
  status : property annals.stored.statusOrEmpty

/-- A pass on `subject` goes on. -/
abbrev Goes (subject : Resource kind) : Annals kind → Prop := Stays subject fun _ => True

theorem Stays.goes (stays : annals.Stays subject property) : annals.Goes subject :=
  ⟨stays.subject, trivial⟩

/-- An exchange in which no status was stored. -/
theorem Stays.idle (stays : before.Stays subject property) (answered : before.Answers exchange after)
    (unstored : ∀ status, Serves before.subject.metadata.spokenKey before.stored exchange status →
      status = none) :
    Moves before exchange after ∧ after.Stays subject property := by
  obtain ⟨status, serves, edit, writes⟩ := answered.served
  rcases unstored status serves with rfl
  refine ⟨.idle edit.status writes, answered.subject.trans stays.subject, ?_⟩
  rw [statusOrEmpty_eq edit.status]
  exact stays.status

theorem Serves.unstored {key : ObjectKey} {stored : Resource kind} {status : Option kind.Status}
    (quiet : exchange.request.Quiet) (serves : Serves key stored exchange status) : status = none := by
  cases serves with
  | written => exact quiet.elim
  | unheard => exact quiet.elim
  | _ => rfl

theorem Stays.quiet (stays : before.Stays subject property)
    (answered : before.Answers exchange after) (quiet : exchange.request.Quiet) :
    Moves before exchange after ∧ after.Stays subject property :=
  stays.idle answered fun _ => Serves.unstored quiet

/-- A part of a pass that writes no status. -/
theorem Stays.of_quiet {attempt : Attempt ε α} (asks : Asks Effect.Quiet attempt)
    (stays : annals.Stays subject property) :
    Meets Answers Moves (fun _ after => after.Stays subject property)
      (fun _ after => after.Goes subject) attempt annals :=
  (Meets.of_asks asks (fun _ _ _ quiet stays answered => stays.quiet answered quiet) stays).mono
    (fun _ _ stays => stays) fun _ _ stays => stays.goes

theorem Stays.bind {β : Type} {attempt : Attempt ε α} {next : α → Attempt ε β}
    {ok : β → Annals kind → Prop} (asks : Asks Effect.Quiet attempt)
    (stays : annals.Stays subject property)
    (further : ∀ value (after : Annals kind), after.Stays subject property →
      Meets Answers Moves ok (fun _ after => after.Goes subject) (next value) after) :
    Meets Answers Moves ok (fun _ after => after.Goes subject) (attempt >>= next) annals :=
  .bind ((stays.of_quiet asks).mono further fun _ _ goes => goes)

/-! ## Writing the status -/

theorem Answers.reads {answer : Except Failure (Option (Resource kind))}
    (called : before.subject = subject)
    (answered : before.Answers ⟨.read kind subject.metadata.spokenKey, answer⟩ after) :
    answer = .ok (some before.stored) ∨ answer = .ok none ∨ ∃ failure, answer = .error failure := by
  subst called
  obtain ⟨status, serves, -⟩ := answered.served
  cases serves with
  | read => exact .inl rfl
  | gone => exact .inr (.inl rfl)
  | unread failure => exact .inr (.inr ⟨failure, rfl⟩)
  | elsewhere other => exact (other ⟨rfl, rfl⟩).elim

/-- A status that goes on from the stored one is written, or it is not; and if that failed since another
writer was first, it is not. -/
theorem Stays.write {revision : Option String} {status : kind.Status} {answer : Except Failure Unit}
    (stays : before.Stays subject property)
    (proceeds : kind.Proceeds subject.metadata.generation before.stored.statusOrEmpty status)
    (becomes : later status)
    (answered :
      before.Answers ⟨.writeStatus kind subject.metadata.spokenKey revision status, answer⟩ after) :
    Moves before ⟨.writeStatus kind subject.metadata.spokenKey revision status, answer⟩ after ∧
      Ends (fun _ after => after.Stays subject later)
        (fun failure after =>
          after.Goes subject ∧ (failure.isConflict = true → after.Stays subject property))
        answer after := by
  rcases stays with ⟨rfl, holds⟩
  obtain ⟨stored, serves, edit, writes⟩ := answered.served
  have wrote (written : stored = some status) :
      Moves before ⟨.writeStatus kind before.subject.metadata.spokenKey revision status, answer⟩
          after ∧
        after.Stays before.subject later := by
    subst written
    have same : after.stored.status = some status := edit.status
    refine ⟨.wrote status same writes proceeds, answered.subject, ?_⟩
    unfold Resource.statusOrEmpty
    rw [same]
    exact becomes
  have stayed (unwritten : stored = none) :
      Moves before ⟨.writeStatus kind before.subject.metadata.spokenKey revision status, answer⟩
          after ∧
        after.Stays before.subject property := by
    subst unwritten
    refine ⟨.idle edit.status writes, answered.subject, ?_⟩
    rw [statusOrEmpty_eq edit.status]
    exact holds
  cases serves with
  | written => exact wrote rfl
  | refused => exact (stayed rfl).imp_right fun stays => ⟨stays.goes, fun _ => stays⟩
  | unheard _ _ failure alone =>
      refine (wrote rfl).imp_right fun wrote => ⟨wrote.goes, fun conflict => ?_⟩
      cases alone.symm.trans conflict
  | elsewhere other => exact (other ⟨rfl, rfl⟩).elim

/-- A change by which the status goes on, whatever it was before. -/
theorem Stays.updateStatus {context : Context} {change : kind.Status → kind.Status}
    (proceeds : ∀ status, property status →
      kind.Proceeds subject.metadata.generation status (change status))
    (keeps : ∀ status, property status → later status)
    (becomes : ∀ status, property status → later (change status))
    (stays : annals.Stays subject property) :
    Meets Answers Moves (fun _ after => after.Stays subject later) (fun _ after => after.Goes subject)
      (updateStatus context kind subject.metadata.spokenKey change) annals := by
  refine .updateConflicted (fun latest after => after.Stays subject property ∧
    latest.statusOrEmpty = after.stored.statusOrEmpty) ?_ ?_ ?_ stays
  · exact fun time start after begun paused => begun.quiet paused trivial
  · intro answer start after begun read
    have ⟨moved, still⟩ := begun.quiet read trivial
    apply And.intro moved
    rcases read.reads begun.subject with equal | equal | ⟨failure, equal⟩
    · subst equal
      obtain ⟨status, serves, edit, -⟩ := read.served
      rcases Serves.unstored (by trivial) serves with rfl
      exact ⟨still, (statusOrEmpty_eq edit.status).symm⟩
    · subst equal
      exact ⟨still.subject, keeps _ still.status⟩
    · subst equal
      exact ⟨still.goes, fun _ => still⟩
  · intro latest revision answer start after ⟨begun, same⟩ written
    rw [same] at written ⊢
    exact begun.write (proceeds _ begun.status) (becomes _ begun.status) written

/-- The end of a pass. -/
theorem Goes.finish {context : Context} {converge : Staged α} {succeed : α → Pass Action}
    (converges : Meets Answers Moves (fun _ after => after.Goes subject)
      (fun _ after => after.Goes subject) converge annals)
    (succeeds : ∀ outcome (after : Annals kind), after.Goes subject →
      Meets Answers Moves (fun _ _ => True) (fun _ _ => True) (succeed outcome) after) :
    Meets Answers Moves (fun _ _ => True) (fun _ _ => True)
      (finish context subject converge succeed) annals := by
  refine .finishMarked (converges.mono succeeds fun _ _ goes => goes) ?_ ?_
  · exact fun _ _ _ _ goes told => goes.quiet told trivial
  · intro stopped before goes
    refine (goes.updateStatus (fun _ _ => .markError) (fun _ _ => trivial) fun _ _ => trivial).mono ?_ ?_
    · exact fun _ _ _ => trivial
    · exact fun _ _ _ => trivial

end Annals

/-! ## Finding and making the remote object -/

namespace Adopting

open Annals

variable {kind : Kind} {adopting : Adopting kind} {subject : Resource kind} {annals : Annals kind}
  {context : Context} {session : Remote.Session}

/-- A resource of which no remote object is on record. -/
abbrev Unknown (adopting : Adopting kind) (status : kind.Status) : Prop :=
  (adopting.footing status).id = none

/-- To record a remote object changes neither the conditions nor the generation last converged. -/
structure RecordsAside (adopting : Adopting kind) : Prop where
  conditions : ∀ id snapshot status,
    kind.conditions (adopting.recorded id snapshot status) = kind.conditions status
  observed : ∀ id snapshot status,
    kind.observedGeneration (adopting.recorded id snapshot status) = kind.observedGeneration status

theorem proxyHosts_recordsAside : proxyHosts.RecordsAside := ⟨fun _ _ _ => rfl, fun _ _ _ => rfl⟩

theorem streams_recordsAside : streams.RecordsAside := ⟨fun _ _ _ => rfl, fun _ _ _ => rfl⟩

theorem recordRemote_moves {id : UInt32} {snapshot : Option adopting.Snapshot} {reason : String}
    (aside : adopting.RecordsAside) (unknown : annals.Stays subject adopting.Unknown) :
    Meets Answers Moves (fun _ after => after.Goes subject) (fun _ after => after.Goes subject)
      (adopting.recordRemote context subject id snapshot reason) annals := by
  apply Meets.bind
  refine (unknown.updateStatus (fun status unknown => ?_) (fun _ _ => trivial)
    fun _ _ => trivial).mono (fun _ after goes => ?_) fun _ _ goes => goes
  · exact .recorded unknown (aside.conditions _ _ _) (aside.observed _ _ _)
  · exact goes.of_quiet (announce_asks (fun _ => trivial) _ _ _ _ _)

/-- If no remote object is found then none is on record. -/
theorem findRemote_moves (aside : adopting.RecordsAside)
    (stays : annals.Stays subject fun status =>
      (adopting.footing status).id = (adopting.footingOf subject).id) :
    Meets Answers Moves
      (fun found after => after.Stays subject fun status =>
        found.1 = none → adopting.Unknown status)
      (fun _ after => after.Goes subject) (adopting.findRemote context session subject) annals := by
  have found {remote : adopting.collection.Object} {after : Annals kind} (goes : after.Goes subject) :
      after.Stays subject fun status => some remote = none → adopting.Unknown status :=
    ⟨goes.subject, fun impossible => nomatch impossible⟩
  unfold findRemote
  dsimp only
  split
  · refine stays.bind (.staged ⟨trivial, fun _ => trivial⟩) fun remote after stays => ?_
    exact .pure (found stays.goes)
  · next unknown =>
    rw [unknown] at stays
    split
    · have lists : Asks Effect.Quiet (session.list adopting.collection) :=
        ⟨trivial, fun _ => trivial⟩
      refine .bind (.staged (.bind ?_))
      refine (stays.of_quiet lists).mono (fun objects after stays => ?_) fun _ _ goes => goes
      dsimp only
      split
      · exact .pure (.pure ⟨stays.subject, fun _ => stays.status⟩)
      · apply Meets.bind
        refine (recordRemote_moves aside stays).mono (fun _ after goes => ?_) fun _ _ goes => goes
        exact .pure (.pure (found goes))
    · exact .pure ⟨stays.subject, fun _ => stays.status⟩

theorem write_moves {existing : Option adopting.collection.Object}
    {payload : adopting.collection.Payload} (aside : adopting.RecordsAside)
    (stays : annals.Stays subject fun status => existing = none → adopting.Unknown status) :
    Meets Answers Moves (fun _ after => after.Goes subject) (fun _ after => after.Goes subject)
      (adopting.write context session subject existing payload) annals := by
  cases existing with
  | some remote =>
      have updates : Asks Effect.Quiet
          (session.update adopting.collection (adopting.collection.idOf remote) payload) :=
        ⟨trivial, fun _ => trivial⟩
      exact (stays.of_quiet updates).mono (fun _ _ stays => stays.goes) fun _ _ goes => goes
  | none =>
      refine stays.bind ⟨trivial, fun _ => trivial⟩ fun remote after stays => ?_
      apply Meets.bind
      refine (recordRemote_moves aside ⟨stays.subject, stays.status rfl⟩).mono ?_ fun _ _ goes => goes
      exact fun _ _ goes => .pure goes

end Adopting

/-! ## Passes -/

namespace Reconcile

open Annals

variable {kind : Kind} {subject : Resource kind} {annals : Annals kind} {context : Context}

/-- A report that is due is made, and says nothing of the remote object. -/
theorem mark_moves (adopting : Adopting kind) {message : String}
    (due : ¬ kind.Settled subject.metadata.generation subject.statusOrEmpty)
    (stays : annals.Stays subject (· = subject.statusOrEmpty)) :
    Meets Answers Moves
      (fun _ after => after.Stays subject fun status =>
        (adopting.footing status).id = (adopting.footingOf subject).id)
      (fun _ after => after.Goes subject)
      (updateStatus context kind subject.metadata.spokenKey <| kind.mapConditions <|
        Condition.markReconciling context.stamp subject.metadata.generation message) annals := by
  apply stays.updateStatus
  · rintro _ rfl
    exact .report _ _ due rfl
  · rintro _ rfl
    rfl
  · rintro _ rfl
    rw [adopting.footing_mapConditions]
    rfl

/-- A resource that is let go has no status written. -/
theorem dismiss_moves {adopting : Adopting kind} (goes : annals.Goes subject) :
    Meets Answers Moves (fun _ _ => True) (fun _ _ => True)
      (dismiss subject (adopting.cleanup context subject)) annals := by
  have quiet : Asks Effect.Quiet (dismiss subject (adopting.cleanup context subject)) := by
    apply dismiss_asks (fun _ => trivial) trivial
    apply Adopting.cleanup_permitted
    · exact (connect_asks _ _ _).mono fun _ => Or.rec .of_looks .of_connects
    · exact fun _ _ => trivial
  exact (goes.of_quiet quiet).mono (fun _ _ _ => trivial) fun _ _ _ => trivial

theorem synced_moves {change : kind.Status → kind.Status} {action : Action}
    (proceeds : ∀ status, kind.Proceeds subject.metadata.generation status (change status))
    (goes : annals.Goes subject) :
    Meets Answers Moves (fun _ _ => True) (fun _ _ => True) (do
      updateStatus context kind subject.metadata.spokenKey change
      return action) annals := by
  apply Meets.bind
  refine (goes.updateStatus (fun status _ => proceeds status) (fun _ _ => trivial)
    fun _ _ => trivial).mono ?_ fun _ _ _ => trivial
  exact fun _ _ _ => .pure trivial

namespace ProxyHosts

variable {host : ProxyHost} {annals : Annals .proxyHost}

theorem begin_moves (stays : annals.Stays host (· = host.statusOrEmpty)) :
    Meets Answers Moves
      (fun _ after => after.Stays host fun status =>
        (Adopting.proxyHosts.footing status).id = (Adopting.proxyHosts.footingOf host).id)
      (fun _ after => after.Goes host) (begin context host) annals := by
  unfold begin
  dsimp only
  split
  · next due => exact mark_moves .proxyHosts (fun settled => Bool.noConfusion (settled.symm.trans due)) stays
  · exact .pure ⟨stays.subject, congrArg (Adopting.proxyHosts.footing · |>.id) stays.status⟩

theorem converge_moves (stays : annals.Stays host fun status =>
      (Adopting.proxyHosts.footing status).id = (Adopting.proxyHosts.footingOf host).id) :
    Meets Answers Moves (fun _ after => after.Goes host) (fun _ after => after.Goes host)
      (converge context host) annals := by
  have aside := Adopting.proxyHosts_recordsAside
  have targets (unscoped : Bool) : Asks Effect.Quiet (resolveTargets host unscoped) :=
    (resolveTargets_asks host unscoped).mono fun _ => .of_looks
  unfold converge
  refine stays.bind .check fun _ _ stays => ?_
  refine stays.bind (.staged ((connect_asks _ _ _).mono fun _ => Or.rec .of_looks .of_connects))
    fun session _ stays => ?_
  refine stays.bind (.staged ((checkClaims_asks host).mono fun _ => .of_looks)) fun _ _ stays => ?_
  refine .bind ((Adopting.findRemote_moves aside stays).mono ?_ fun _ _ goes => goes)
  rintro ⟨existing, bound⟩ _ stays
  refine stays.bind (.staged ((HostCertificate.resolve_asks _ _ _ _ _).mono
    fun _ => Or.rec .of_looks .of_consults)) fun certificate _ stays => ?_
  refine stays.bind (.staged ((HostAccess.resolve_asks _ _ _).mono
    fun _ => Or.rec .of_looks .of_consults)) fun accessListId _ stays => ?_
  refine stays.bind (.staged (targets _)) fun resolved _ stays => ?_
  refine .bind (.staged ((Adopting.write_moves aside stays).mono ?_ fun _ _ goes => goes))
  intro first after goes
  refine (goes.of_quiet ?_).mono (fun _ _ goes => goes) fun _ _ goes => goes
  have enables (remote : Remote.Host) : Asks Effect.Quiet (do
      unless remote.enabled do
        Stage.remote.run (session.enable .proxyHosts remote.id)
      return ⟨remote.id, bound, remote.health.online, certificate⟩ : Staged Converged) :=
    .doUnless (.staged ⟨trivial, fun _ => trivial⟩) fun _ => .pure
  dsimp only
  split
  · refine .bind (.bind (.staged (targets true)) fun upgraded => ?_) enables
    split
    · exact .pure
    · exact .staged ⟨trivial, fun _ => trivial⟩
  · exact enables first

theorem reconcile_moves (called : annals.subject = host)
    (same : annals.stored.status = host.status) :
    Meets Answers Moves (fun _ _ => True) (fun _ _ => True) (reconcile context host) annals := by
  unfold reconcile
  split
  · exact dismiss_moves ⟨called, trivial⟩
  · have stays : annals.Stays host (· = host.statusOrEmpty) := ⟨called, statusOrEmpty_eq same⟩
    apply Meets.bind
    refine (stays.of_quiet (hold_asks host trivial)).mono (fun _ after stays => ?_) fun _ _ _ => trivial
    apply Meets.bind
    refine (begin_moves stays).mono (fun _ after stays => ?_) fun _ _ _ => trivial
    refine Goes.finish (converge_moves stays) fun outcome after goes => ?_
    exact synced_moves (fun _ => .markReady rfl rfl) goes

end ProxyHosts

namespace Streams

variable {stream : Stream} {annals : Annals .stream}

theorem begin_moves (stays : annals.Stays stream (· = stream.statusOrEmpty)) :
    Meets Answers Moves
      (fun _ after => after.Stays stream fun status =>
        (Adopting.streams.footing status).id = (Adopting.streams.footingOf stream).id)
      (fun _ after => after.Goes stream) (begin context stream) annals := by
  unfold begin
  dsimp only
  split
  · next due => exact mark_moves .streams (fun settled => Bool.noConfusion (settled.symm.trans due)) stays
  · exact .pure ⟨stays.subject, congrArg (Adopting.streams.footing · |>.id) stays.status⟩

theorem converge_moves (stays : annals.Stays stream fun status =>
      (Adopting.streams.footing status).id = (Adopting.streams.footingOf stream).id) :
    Meets Answers Moves (fun _ after => after.Goes stream) (fun _ after => after.Goes stream)
      (converge context stream) annals := by
  have aside := Adopting.streams_recordsAside
  unfold converge
  refine stays.bind .check fun _ _ stays => ?_
  refine stays.bind (.staged ((connect_asks _ _ _).mono fun _ => Or.rec .of_looks .of_connects))
    fun session _ stays => ?_
  refine stays.bind (.staged ((checkClaims_asks stream).mono fun _ => .of_looks))
    fun _ _ stays => ?_
  refine .bind ((Adopting.findRemote_moves aside stays).mono ?_ fun _ _ goes => goes)
  rintro ⟨existing, bound⟩ _ stays
  refine stays.bind (.staged ((Target.resolve_asks _ _ _).mono fun _ => .of_looks))
    fun target _ stays => ?_
  refine .bind (.staged ((Adopting.write_moves aside stays).mono ?_ fun _ _ goes => goes))
  intro remote after goes
  refine (goes.of_quiet ?_).mono (fun _ _ goes => goes) fun _ _ goes => goes
  exact .doUnless (.staged ⟨trivial, fun _ => trivial⟩) fun _ => .pure

theorem reconcile_moves (called : annals.subject = stream)
    (same : annals.stored.status = stream.status) :
    Meets Answers Moves (fun _ _ => True) (fun _ _ => True) (reconcile context stream) annals := by
  unfold reconcile
  split
  · exact dismiss_moves ⟨called, trivial⟩
  · have stays : annals.Stays stream (· = stream.statusOrEmpty) := ⟨called, statusOrEmpty_eq same⟩
    apply Meets.bind
    refine (stays.of_quiet (hold_asks stream trivial)).mono (fun _ after stays => ?_)
      fun _ _ _ => trivial
    apply Meets.bind
    refine (begin_moves stays).mono (fun _ after stays => ?_) fun _ _ _ => trivial
    refine Goes.finish (converge_moves stays) fun outcome after goes => ?_
    exact synced_moves (fun _ => .markReady rfl rfl) goes

end Streams

end Reconcile

/-- That a pass over a generation of a host or a stream has begun is reported once, from the time on at which
there was no status, however passes end and whatever is written or not. -/
theorem begun_reported_once :
    (∀ (host : ProxyHost) (moment : Moment (Annals .proxyHost)), host.status = none →
      (Annals.setting .proxyHost).Reaches (.still ⟨host, host, []⟩) moment →
      moment.world.ReportedOnce) ∧
    (∀ (stream : Stream) (moment : Moment (Annals .stream)), stream.status = none →
      (Annals.setting .stream).Reaches (.still ⟨stream, stream, []⟩) moment →
      moment.world.ReportedOnce) := by
  constructor
  · intro host moment fresh reaches
    have upholds := Annals.upholds fun _ _ _ => Reconcile.ProxyHosts.reconcile_moves
    exact (upholds.reaches (.still (.fresh fresh)) reaches).steady.once
  · intro stream moment fresh reaches
    have upholds := Annals.upholds fun _ _ _ => Reconcile.Streams.reconcile_moves
    exact (upholds.reaches (.still (.fresh fresh)) reaches).steady.once

/-- A pass on a new host reports that it has begun. That this was stored is not heard, so the pass ends; the
next one does not report it again, and records that the declaration has no domains. -/
theorem begun_reported_once_unheard :
    let host : ProxyHost :=
      ⟨{ (default : Metadata) with finalizers := some [finalizer], generation := some 1 }, default, none⟩
    ∃ annals : Annals .proxyHost,
      (Annals.setting .proxyHost).Reaches (.still ⟨host, host, []⟩) (.still annals) ∧
      annals.writes.length = 2 ∧
      annals.writes.countP (fun write => Kind.proxyHost.reports (some 1) write.1 write.2) = 1 ∧
      annals.ReportedOnce := by
  intro host
  let status := Kind.proxyHost.mapConditions
    (Condition.markReconciling .epoch (some 1) "converging remote proxy host") default
  let failed := Kind.proxyHost.mapConditions
    (Condition.markError .epoch (some 1) "InvalidSpec"
      (Failure.invalid Problem.noDomains.message).message) status
  let reported : ProxyHost := { host with status := some status }
  let recorded : ProxyHost := { host with status := some failed }
  let writes := [(Kind.proxyHost.emptyStatus, status)]
  have same (stored : ProxyHost) : Annals.Edited stored stored := ⟨⟨rfl, rfl⟩, .refl _⟩
  have begun : (Annals.setting .proxyHost).Step (.still ⟨host, host, []⟩)
      ⟨⟨host, host, []⟩, some (reconcile default .proxyHost host).run⟩ :=
    .begin ⟨⟨default, rfl⟩, same _, rfl, rfl⟩
  have read : Annals.Answers ⟨host, host, []⟩ ⟨.read .proxyHost ⟨"", ""⟩, .ok (some host)⟩
      ⟨host, host, []⟩ :=
    ⟨⟨none, .read, same _, rfl⟩, rfl⟩
  have unheard : Annals.Answers ⟨host, host, []⟩
      ⟨.writeStatus .proxyHost ⟨"", ""⟩ none status, .error (.clusterUnreachable "timeout")⟩
      ⟨reported, host, writes⟩ :=
    ⟨⟨some status, .unheard _ _ _ rfl, same _, rfl⟩, rfl⟩
  have again : (Annals.setting .proxyHost).Step (.still ⟨reported, host, writes⟩)
      ⟨⟨reported, reported, writes⟩, some (reconcile default .proxyHost reported).run⟩ :=
    .begin ⟨⟨default, rfl⟩, same _, rfl, rfl⟩
  have told (event : Event) : Annals.Answers ⟨reported, reported, writes⟩ ⟨.publish event, ()⟩
      ⟨reported, reported, writes⟩ :=
    ⟨⟨none, .elsewhere id, same _, rfl⟩, rfl⟩
  have reread : Annals.Answers ⟨reported, reported, writes⟩
      ⟨.read .proxyHost ⟨"", ""⟩, .ok (some reported)⟩ ⟨reported, reported, writes⟩ :=
    ⟨⟨none, .read, same _, rfl⟩, rfl⟩
  have wrote : Annals.Answers ⟨reported, reported, writes⟩
      ⟨.writeStatus .proxyHost ⟨"", ""⟩ none failed, .ok ()⟩
      ⟨recorded, reported, writes ++ [(status, failed)]⟩ :=
    ⟨⟨some failed, .written _ _, same _, rfl⟩, rfl⟩
  have first : (Annals.setting .proxyHost).Reaches (.still ⟨host, host, []⟩)
      (.still ⟨reported, host, writes⟩) :=
    (((Relation.ReflTransGen.single begun).tail (.exchange read)).tail (.exchange unheard)).tail
      (.leave _ _)
  have second : (Annals.setting .proxyHost).Reaches (.still ⟨reported, host, writes⟩)
      (.still ⟨recorded, reported, writes ++ [(status, failed)]⟩) :=
    ((((Relation.ReflTransGen.single again).tail (.exchange (told _))).tail (.exchange reread)).tail
      (.exchange wrote)).tail (.leave _ _)
  exact ⟨_, first.trans second, rfl, by decide, begun_reported_once.1 host _ rfl (first.trans second)⟩

end ProxyOperator
