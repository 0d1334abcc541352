import ProxyOperator.Proofs.CertificateRequests
import ProxyOperator.Proofs.Uploads
/-!
How a certificate that is to be issued comes by its remote certificate, where any request may fail. A pass
on one with an id on record asks for no other. A pass on one without takes a certificate that it finds in a
listing, or else requests one; its status tells of either only at the end of the pass.
-/
namespace ProxyOperator

open Attempt Reconcile

namespace LetsEncryptCertificate

/-- What a status says of the remote certificate. -/
def Status.entry (status : Status) : Entry := ⟨status.id, status.bound⟩

def entry (certificate : LetsEncryptCertificate) : Entry := certificate.statusOrEmpty.entry

/-! ## What a pass gains -/

/-- What a pass came by that its resource did not have before. -/
inductive Gain where
  | nothing
  | found (id : UInt32)
  | requested (id : UInt32)
  deriving DecidableEq

namespace Gain

/-- The ids of the certificates that were requested. -/
def ids : Gain → List UInt32
  | .nothing => []
  | .found _ => []
  | .requested id => [id]

/-- What is to be recorded of it. -/
def entry? : Gain → Option Entry
  | .nothing => none
  | .found id => some ⟨some id, true⟩
  | .requested id => some ⟨some id, false⟩

theorem isSome_of_entry {gain : Gain} {entry : Entry} (gained : gain.entry? = some entry) :
    entry.id.isSome := by
  cases gain with
  | nothing => cases gained
  | found id =>
      rcases Option.some.inj gained with rfl
      rfl
  | requested id =>
      rcases Option.some.inj gained with rfl
      rfl

/-- It comes from what a pass asked and was answered: it was listed for just these domains, or requested
with them. -/
def ComesFrom (domains : List String) (log : List (Exchange Effects)) : Gain → Prop
  | .nothing => True
  | .found id => ∃ session listed remote,
      ⟨.remote session (.list .certificates), .ok listed⟩ ∈ log ∧
        Remote.findExactCertificate domains listed = some remote ∧ remote.id = id
  | .requested id => ∃ session body remote,
      ⟨.remote session (.create .certificates body), .ok remote⟩ ∈ log ∧
        body.domains = domains ∧ remote.id = id

theorem ComesFrom.append {gain : Gain} {domains : List String} {log : List (Exchange Effects)}
    (comes : gain.ComesFrom domains log) (more : List (Exchange Effects)) :
    gain.ComesFrom domains (log ++ more) := by
  cases gain with
  | nothing => trivial
  | found id =>
      rcases comes with ⟨session, listed, remote, member, rest⟩
      exact ⟨session, listed, remote, List.mem_append_left _ member, rest⟩
  | requested id =>
      rcases comes with ⟨session, body, remote, member, rest⟩
      exact ⟨session, body, remote, List.mem_append_left _ member, rest⟩

end Gain

/-- What may be on record during a pass: what was there before, or what the pass gained. -/
def Allows (certificate : LetsEncryptCertificate) (gain : Gain) (entry : Entry) : Prop :=
  entry = certificate.entry ∨ gain.entry? = some entry

/-- What is on record after a pass that succeeds. -/
def Settles (certificate : LetsEncryptCertificate) (gain : Gain) (entry : Entry) : Prop :=
  gain = .nothing ∧ entry = certificate.entry ∨ gain.entry? = some entry

theorem Settles.allows {certificate : LetsEncryptCertificate} {gain : Gain} {entry : Entry}
    (settles : certificate.Settles gain entry) : certificate.Allows gain entry :=
  settles.imp_left And.right

abbrev Attended := LetsEncryptCertificate × List (Exchange Effects)

/-- A pass has come so far. Only a certificate without an id on record gains one. -/
structure At (certificate : LetsEncryptCertificate) (gain : Gain) (world : Attended) : Prop where
  issued : issued world.2 = gain.ids
  comes : gain.ComesFrom certificate.spec.domains world.2
  fresh : gain ≠ .nothing → certificate.statusOrEmpty.id = none
  allows : certificate.Allows gain world.1.entry

/-- A pass may be interrupted. -/
def Stopped (certificate : LetsEncryptCertificate) (world : Attended) : Prop :=
  ∃ gain, certificate.At gain world

/-- A pass is through. -/
def Completed (certificate : LetsEncryptCertificate) (world : Attended) : Prop :=
  ∃ gain, certificate.At gain world ∧ certificate.Settles gain world.1.entry ∧
    world.1.statusOrEmpty.id.isSome ∧
    Condition.isTrue world.1.statusOrEmpty.conditions Condition.ready = true

end LetsEncryptCertificate

/-- The request neither writes a status nor requests a certificate. -/
structure Effect.Abides (effect : Effect) : Prop where
  quiet : effect.Quiet
  unrequested : effect.creates .certificates = false

namespace Effect.Abides

variable {effect : Effect}

theorem of_connect (asked : effect.SeeksToken ∨ effect.Connects) : effect.Abides := by
  cases effect with
  | writeStatus | remote => exact (asked.elim id id).elim
  | _ => exact ⟨trivial, rfl⟩

theorem of_looks (looks : effect.Looks) : effect.Abides := by
  cases effect with
  | read | list | secret | service | pods | node => exact ⟨trivial, rfl⟩
  | _ => exact looks.elim

end Effect.Abides

theorem issued_of_abides {log : List (Exchange Effects)} {exchange : Exchange Effects}
    (abides : exchange.request.Abides) : issued (log ++ [exchange]) = issued log := by
  have nothing : exchange.made? .certificates = none := by
    rw [Option.eq_none_iff_forall_ne_some]
    intro id made
    cases abides.unrequested.symm.trans (Exchange.creates_of_made made)
  rw [issued_append, issued_cons, nothing]
  exact List.append_nil _

namespace LetsEncryptCertificate

/-! ## Parts of a pass -/

section

variable {certificate : LetsEncryptCertificate} {gain : Gain} {before after world : Attended}
  {exchange : Exchange Effects} {α β ε : Type} {context : Context} {session : Remote.Session}

abbrev Answers (certificate : LetsEncryptCertificate) : Conduct Effects Attended :=
  Conduct.logged (Tends certificate.metadata.spokenKey)

/-- Whatever a pass asks and is answered, it may be interrupted after that. -/
abbrev Stays (certificate : LetsEncryptCertificate) (_ : Attended) (_ : Exchange Effects)
    (after : Attended) : Prop :=
  certificate.Stopped after

theorem At.stopped (stands : certificate.At gain world) : certificate.Stopped world := ⟨gain, stands⟩

theorem At.aside (stands : certificate.At gain before)
    (answered : Answers certificate before exchange after) (abides : exchange.request.Abides) :
    Stays certificate before exchange after ∧ certificate.At gain after := by
  have same : after.1.entry = before.1.entry := by
    unfold entry Resource.statusOrEmpty
    rw [answered.1.status_of_quiet abides.quiet]
  have stands : certificate.At gain after := by
    refine ⟨?_, ?_, stands.fresh, ?_⟩
    · rw [answered.2, issued_of_abides abides]
      exact stands.issued
    · rw [answered.2]
      exact stands.comes.append _
    · rw [same]
      exact stands.allows
  exact ⟨stands.stopped, stands⟩

theorem At.of_asks {attempt : Attempt ε α} (asks : Asks Effect.Abides attempt)
    (stands : certificate.At gain world) :
    Meets (Answers certificate) (Stays certificate) (fun _ => certificate.At gain)
      (fun _ => certificate.At gain) attempt world :=
  .of_asks asks (fun _ _ _ abides stands answered => stands.aside answered abides) stands

theorem At.bind {attempt : Attempt ε α} {next : α → Attempt ε β} {ok : β → Attended → Prop}
    (asks : Asks Effect.Abides attempt) (stands : certificate.At gain world)
    (further : ∀ value after, certificate.At gain after →
      Meets (Answers certificate) (Stays certificate) ok (fun _ => certificate.Stopped) (next value)
        after) :
    Meets (Answers certificate) (Stays certificate) ok (fun _ => certificate.Stopped)
      (attempt >>= next) world :=
  .bind ((stands.of_asks asks).mono further fun _ _ stands => stands.stopped)

/-! ### The status -/

/-- A write of the status happens, or it fails, and then it happened all the same or not. -/
theorem At.write {revision : Option String} {status : Status} {answer : Except Failure Unit}
    (stands : certificate.At gain before) (allows : certificate.Allows gain status.entry)
    (answered : Answers certificate before
      ⟨.writeStatus .letsEncryptCertificate certificate.metadata.spokenKey revision status, answer⟩
      after) :
    certificate.At gain after ∧ (answer = .ok () → after.1.statusOrEmpty = status) := by
  have still (entry : certificate.Allows gain after.1.entry) : certificate.At gain after := by
    refine ⟨?_, ?_, stands.fresh, entry⟩
    · rw [answered.2, issued_append]
      exact (List.append_nil _).trans stands.issued
    · rw [answered.2]
      exact stands.comes.append _
  rcases answered.1.writes with written | ⟨⟨failure, rfl⟩, kept⟩
  · have told : after.1.statusOrEmpty = status := by
      rw [Resource.statusOrEmpty, written, Option.getD_some]
    refine ⟨still ?_, fun _ => told⟩
    rw [entry, told]
    exact allows
  · have same : after.1.entry = before.1.entry := by
      unfold entry Resource.statusOrEmpty
      rw [kept]
    refine ⟨still ?_, fun succeeded => by cases succeeded⟩
    rw [same]
    exact stands.allows

theorem At.updateStatus {change : Status → Status} (stands : certificate.At gain world)
    (turns : ∀ status, certificate.Allows gain status.entry →
      certificate.Allows gain (change status).entry) :
    Meets (Answers certificate) (Stays certificate)
      (fun _ after => certificate.At gain after ∧ ∃ status, after.1.statusOrEmpty = change status)
      (fun _ => certificate.At gain)
      (updateStatus context .letsEncryptCertificate certificate.metadata.spokenKey change) world := by
  refine Meets.updateStatus
    (fun latest after => certificate.At gain after ∧ certificate.Allows gain (entry latest)) ?_ ?_ ?_
    stands
  · exact fun time before after stands paused => stands.aside paused ⟨trivial, rfl⟩
  · intro answer before after stands read
    have ⟨stays, still⟩ := stands.aside read ⟨trivial, rfl⟩
    apply And.intro stays
    rcases read.1.reads with rfl | ⟨failure, rfl⟩
    · exact ⟨still, stands.allows⟩
    · exact ⟨still, still⟩
  · intro latest revision answer before after ⟨stands, shown⟩ written
    have ⟨still, told⟩ := stands.write (turns _ shown) written
    apply And.intro still.stopped
    cases answer with
    | ok _ => exact ⟨still, _, told rfl⟩
    | error failure => exact ⟨still, still⟩

/-! ### Coming by a certificate -/

theorem At.list {ok : List Remote.Certificate → Attended → Prop}
    (stands : certificate.At .nothing world)
    (unrecorded : certificate.statusOrEmpty.id = none)
    (further : ∀ listed after, certificate.At .nothing after →
      (∀ remote, Remote.findExactCertificate certificate.spec.domains listed = some remote →
        certificate.At (.found remote.id) after) → ok listed after) :
    Meets (Answers certificate) (Stays certificate) ok (fun _ => certificate.Stopped)
      (session.list .certificates) world := by
  refine .remote (fun listed after answered => ?_) fun failure after answered => ?_
  · have ⟨stays, still⟩ := stands.aside answered ⟨trivial, rfl⟩
    refine ⟨stays, further listed after still fun remote found => ⟨?_, ?_, ?_, ?_⟩⟩
    · exact still.issued
    · refine ⟨session, listed, remote, ?_, found, rfl⟩
      rw [answered.2]
      exact List.mem_append_right _ (List.mem_singleton_self _)
    · exact fun _ => unrecorded
    · exact .inl (still.allows.resolve_right nofun)
  · exact (stands.aside answered ⟨trivial, rfl⟩).imp_right At.stopped

theorem At.create {body : Remote.Certificate.Payload} (stands : certificate.At .nothing world)
    (unrecorded : certificate.statusOrEmpty.id = none)
    (declared : body.domains = certificate.spec.domains) :
    Meets (Answers certificate) (Stays certificate)
      (fun remote => certificate.At (.requested remote.id)) (fun _ => certificate.Stopped)
      (session.create .certificates body) world := by
  have same {answer : Except Failure Remote.Certificate} {after : Attended}
      (answered : Answers certificate world
        ⟨.remote session (.create .certificates body), answer⟩ after) :
      after.1.entry = certificate.entry := by
    have kept : after.1.entry = world.1.entry := by
      unfold entry Resource.statusOrEmpty
      rw [answered.1.status_of_quiet trivial]
    rw [kept]
    exact stands.allows.resolve_right nofun
  refine .remote (fun remote after answered => ?_) fun failure after answered => ?_
  · have requested : certificate.At (.requested remote.id) after := by
      refine ⟨?_, ?_, fun _ => unrecorded, .inl (same answered)⟩
      · rw [answered.2, issued_append, stands.issued]
        rfl
      · refine ⟨session, body, remote, ?_, declared, rfl⟩
        rw [answered.2]
        exact List.mem_append_right _ (List.mem_singleton_self _)
    exact ⟨requested.stopped, requested⟩
  · have nothing : certificate.At .nothing after := by
      refine ⟨?_, trivial, fun _ => unrecorded, .inl (same answered)⟩
      rw [answered.2, issued_append, stands.issued]
      rfl
    exact ⟨nothing.stopped, nothing.stopped⟩

/-- The terms of a request are added to; the domains stay. -/
theorem At.withChallenge {«namespace» : String} {challenge : Option DnsChallenge}
    {payload : Remote.Certificate.Payload} (stands : certificate.At gain world) :
    Meets (Answers certificate) (Stays certificate)
      (fun body after => body.domains = payload.domains ∧ certificate.At gain after)
      (fun _ => certificate.Stopped)
      (LetsEncryptCertificates.withChallenge «namespace» challenge payload) world := by
  unfold LetsEncryptCertificates.withChallenge
  split
  · exact .pure ⟨rfl, stands⟩
  · apply stands.bind ((secretText_asks _ _).mono fun _ => .of_looks)
    exact fun _ _ stands => .pure ⟨rfl, stands⟩

theorem At.request (stands : certificate.At .nothing world)
    (unrecorded : certificate.statusOrEmpty.id = none) :
    Meets (Answers certificate) (Stays certificate)
      (fun remote => certificate.At (.requested remote.id)) (fun _ => certificate.Stopped)
      (LetsEncryptCertificates.request context session certificate) world := by
  apply stands.bind (Asks.demand).staged
  intro email after stands
  refine .bind (.staged (stands.withChallenge.mono ?_ fun _ _ stopped => stopped))
  rintro body later ⟨declared, stands⟩
  exact .staged (stands.create unrecorded declared)

/-! ## The pass -/

/-- A pass has come to an outcome that may be recorded. -/
def Through (certificate : LetsEncryptCertificate) (outcome : LetsEncryptCertificates.Converged)
    (world : Attended) : Prop :=
  ∃ gain, certificate.At gain world ∧
    certificate.Settles gain ⟨some outcome.remote.id, outcome.bound⟩

theorem converges (begins : certificate.At .nothing world) :
    Meets (Answers certificate) (Stays certificate) certificate.Through
      (fun _ => certificate.Stopped) (LetsEncryptCertificates.converge context certificate) world := by
  unfold LetsEncryptCertificates.converge
  apply begins.bind .check
  intro _ after begins
  have connects : Asks Effect.Abides
      (connect context certificate.spec.token certificate.metadata.spokenKey.namespace) :=
    (connect_seeks context _ _).mono fun _ => .of_connect
  apply begins.bind connects.staged
  intro session after begins
  cases known : certificate.statusOrEmpty.id with
  | some id =>
      refine .bind (.staged (.remote (fun remote after answered => ?_) fun _ after answered => ?_))
      · have ⟨stays, still⟩ := begins.aside answered ⟨trivial, rfl⟩
        refine ⟨stays, .pure ⟨.nothing, still, .inl ⟨rfl, ?_⟩⟩⟩
        have same : remote.id = id := answered.1.faithful remote rfl
        rw [entry, Status.entry, known, same]
      · exact (begins.aside answered ⟨trivial, rfl⟩).imp_right At.stopped
  | none =>
      refine .bind (.staged (begins.list known fun listed after stands finds => ?_))
      split
      · next remote found => exact .pure ⟨_, finds remote found, .inr rfl⟩
      · refine .bind ((stands.request known).mono (fun remote after stands => ?_)
          fun _ _ stopped => stopped)
        exact .pure ⟨_, stands, .inr rfl⟩

/-- What is recorded when all is done. -/
theorem At.records (context : Context) {outcome : LetsEncryptCertificates.Converged}
    (stands : certificate.At gain world)
    (settles : certificate.Settles gain ⟨some outcome.remote.id, outcome.bound⟩) :
    Meets (Answers certificate) (Stays certificate) (fun _ => certificate.Completed)
      (fun _ => certificate.Stopped)
      (do
        Reconcile.updateStatus context .letsEncryptCertificate certificate.metadata.spokenKey
          (LetsEncryptCertificates.synced context outcome)
        return Action.resync context : Pass Action) world := by
  have turns (status : Status) : certificate.Allows gain
      (LetsEncryptCertificates.synced context outcome status).entry := settles.allows
  refine .bind ((stands.updateStatus fun status _ => turns status).mono ?_
    fun _ _ stands => At.stopped stands)
  rintro _ after ⟨stands, status, told⟩
  refine .pure ⟨gain, stands, ?_, ?_, ?_⟩
  · rw [entry, told]
    exact settles
  · rw [told]
    rfl
  · rw [told]
    exact Condition.isTrue_markReady _ _ _

/-- What a pass has come by when it ends. For a certificate that is deleted it comes by nothing. -/
theorem reconciles (begins : certificate.At .nothing world) :
    Meets (Answers certificate) (Stays certificate)
      (fun _ after => certificate.metadata.isDeleting = false → certificate.Completed after)
      (fun _ => certificate.Stopped) (LetsEncryptCertificates.reconcile context certificate)
      world := by
  unfold LetsEncryptCertificates.reconcile
  split
  · next deleting =>
    have cleans : ∀ pass ∈ LetsEncryptCertificates.cleanup context certificate,
        Asks Effect.Abides pass := by
      intro pass member
      rcases Option.map_eq_some_iff.mp member with ⟨id, _, rfl⟩
      exact .bind ((connect_seeks context _ _).mono fun _ => .of_connect) fun _ =>
        deleteRemote_asks ⟨trivial, rfl⟩
    have dismisses : Asks Effect.Abides
        (dismiss certificate (LetsEncryptCertificates.cleanup context certificate)) :=
      dismiss_asks (fun _ => ⟨trivial, rfl⟩) ⟨trivial, rfl⟩ cleans
    refine (begins.of_asks dismisses).mono (fun _ after _ remains => ?_)
      fun _ _ stands => stands.stopped
    rw [deleting] at remains
    cases remains
  · apply begins.bind (hold_asks certificate ⟨trivial, rfl⟩)
    intro _ after begins
    apply Meets.finish ((converges begins).mono _ fun _ _ stopped => stopped)
    · rintro _ event before after ⟨gain, stands⟩ told
      exact (stands.aside told ⟨trivial, rfl⟩).imp_right At.stopped
    · rintro _ before ⟨gain, stands⟩ change
      have keeps (status : Status)
          (allows : certificate.Allows gain status.entry) : certificate.Allows gain
            (Kind.letsEncryptCertificate.mapConditions change status : Status).entry := allows
      exact (stands.updateStatus keeps).mono (fun _ _ ends => ends.1.stopped) fun _ _ => At.stopped
    · rintro outcome after ⟨gain, stands, settles⟩
      have records (before : Attended) (stands : certificate.At gain before) :=
        (stands.records context settles).mono
          (fun _ _ completed (_ : certificate.metadata.isDeleting = false) => completed)
          fun _ _ stopped => stopped
      split
      · apply stands.bind (announce_asks (fun _ => ⟨trivial, rfl⟩) _ _ _ _ _)
        exact fun _ => records
      · exact records after stands

end

end LetsEncryptCertificate

end ProxyOperator
