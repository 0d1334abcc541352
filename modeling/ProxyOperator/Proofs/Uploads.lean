import ProxyOperator.Proofs.Footing
import ProxyOperator.Proofs.Frames
/-!
What a pass on a custom certificate does about its material, where any request may fail: which material it
has read, which it has uploaded, and what its status says of that. A status tells of an upload only after
the certificate was read back, and nobody undoes an upload that is not told of.
-/
namespace ProxyOperator

open Attempt Reconcile

/-- How a resource is served: any request may fail, a write that is reported to have failed may have happened
all the same, and users may edit the resource at any time. -/
structure Tends {kind : Kind} (key : ObjectKey) (before : Resource kind)
    (exchange : Exchange Effects) (after : Resource kind) : Prop where
  served : ∃ served, Serves key before exchange served ∧ served.Edited after
  faithful : exchange.Faithful

namespace Tends

variable {kind : Kind} {key : ObjectKey} {before after : Resource kind} {exchange : Exchange Effects}

theorem status_of_quiet (answered : Tends key before exchange after)
    (quiet : exchange.request.Quiet) : after.status = before.status := by
  have ⟨served, serves, edit⟩ := answered.served
  rw [edit.status]
  cases serves with
  | read | unread | refused | elsewhere => rfl
  | written => exact quiet.elim
  | unheard => exact quiet.elim

theorem reads {answer : Except Failure (Option (Resource kind))}
    (answered : Tends key before ⟨.read kind key, answer⟩ after) :
    answer = .ok (some before) ∨ ∃ failure, answer = .error failure := by
  have ⟨served, serves, _⟩ := answered.served
  cases serves with
  | read => exact .inl rfl
  | unread failure => exact .inr ⟨failure, rfl⟩
  | elsewhere other => exact (other ⟨rfl, rfl⟩).elim

/-- A write of the status happens, or it fails, and then it happened all the same or not. -/
theorem writes {revision : Option String} {status : kind.Status} {answer : Except Failure Unit}
    (answered : Tends key before ⟨.writeStatus kind key revision status, answer⟩ after) :
    after.status = some status ∨
      (∃ failure, answer = .error failure) ∧ after.status = before.status := by
  have ⟨served, serves, edit⟩ := answered.served
  rw [edit.status]
  cases serves with
  | written => exact .inl rfl
  | refused _ _ failure => exact .inr ⟨⟨failure, rfl⟩, rfl⟩
  | unheard => exact .inl rfl
  | elsewhere other => exact (other ⟨rfl, rfl⟩).elim

end Tends

/-! ## What was read and uploaded -/

namespace Exchange

/-- What was uploaded with success, and into which certificate. -/
def uploaded? : Exchange Effects → Option (UInt32 × Remote.Material)
  | ⟨.remote _ (.upload id material), .ok _⟩ => some (id, material)
  | _ => none

/-- The material that a Secret was read with. -/
def material? (key : ObjectKey) : Exchange Effects → Option Remote.Material
  | ⟨.secret other, .ok (some secret)⟩ =>
      if other = key then (CustomCertificates.material secret).toOption else none
  | _ => none

end Exchange

def uploads (log : List (Exchange Effects)) : List (UInt32 × Remote.Material) :=
  log.filterMap Exchange.uploaded?

def readings (key : ObjectKey) (log : List (Exchange Effects)) : List Remote.Material :=
  log.filterMap (Exchange.material? key)

/-- The request neither reads nor uploads material, and writes no status. -/
def Effect.Idles : Effect → Prop
  | .writeStatus _ _ _ _ => False
  | .secret _ => False
  | .remote _ (.upload _ _) => False
  | _ => True

namespace Effect.Idles

variable {effect : Effect}

theorem of_connect (asked : effect.SeeksToken ∨ effect.Connects) : effect.Idles := by
  cases effect with
  | writeStatus | secret | remote => exact (asked.elim id id).elim
  | _ => trivial

theorem quiet (idles : effect.Idles) : effect.Quiet := by
  cases effect with
  | writeStatus => exact idles.elim
  | _ => trivial

end Effect.Idles

theorem Exchange.uploaded?_of_idles {exchange : Exchange Effects} (idles : exchange.request.Idles) :
    exchange.uploaded? = none := by
  unfold uploaded?
  split
  · exact idles.elim
  · rfl

theorem Exchange.material?_of_idles {key : ObjectKey} {exchange : Exchange Effects}
    (idles : exchange.request.Idles) : exchange.material? key = none := by
  unfold material?
  split
  · exact idles.elim
  · rfl

theorem uploads_append (log : List (Exchange Effects)) (exchange : Exchange Effects) :
    uploads (log ++ [exchange]) = uploads log ++ exchange.uploaded?.toList := by
  cases known : exchange.uploaded? <;> simp [uploads, known]

theorem readings_append (key : ObjectKey) (log : List (Exchange Effects))
    (exchange : Exchange Effects) :
    readings key (log ++ [exchange]) = readings key log ++ (exchange.material? key).toList := by
  cases known : exchange.material? key <;> simp [readings, known]

/-! ## Being ready -/

namespace Condition

theorem isTrue_set (conditions : List Condition) {condition : Condition}
    (holds : condition.status = .true) : isTrue (set conditions condition) condition.type = true := by
  induction conditions with
  | nil => simp [set, isTrue, holds]
  | cons old rest induction =>
      unfold set
      split
      · split <;> simp [isTrue, holds]
      · simp only [isTrue, List.any_cons, Bool.or_eq_true] at induction ⊢
        exact .inr induction

/-- What is reported of one type says nothing about another. -/
theorem isTrue_set_other (conditions : List Condition) {condition : Condition} {type : String}
    (other : condition.type ≠ type) :
    isTrue (set conditions condition) type = isTrue conditions type := by
  induction conditions with
  | nil => simp [set, isTrue, other]
  | cons old rest induction =>
      unfold set
      split
      · next same => split <;> simp [isTrue, other, same]
      · simp only [isTrue, List.any_cons] at induction ⊢
        rw [induction]

theorem isTrue_markReady (now : Instant) (message : String) (conditions : List Condition) :
    isTrue (markReady now message conditions) ready = true := by
  have others : reconciling ≠ ready ∧ error ≠ ready := by decide
  unfold markReady
  simp only
  rw [isTrue_set_other _ others.2, isTrue_set_other _ others.1]
  exact isTrue_set conditions rfl

end Condition

namespace CustomCertificate

/-- The Secret that a certificate has its material from. -/
def secretKey (certificate : CustomCertificate) : ObjectKey :=
  ⟨certificate.metadata.spokenKey.namespace, certificate.spec.secretName⟩

/-- What the status says, and what a pass has read and uploaded up to now. -/
structure Account where
  id : Option UInt32
  hash : Option String
  readings : List Remote.Material
  uploads : List (UInt32 × Remote.Material)

abbrev Attended := CustomCertificate × List (Exchange Effects)

def account (secret : ObjectKey) (world : Attended) : Account where
  id := world.1.statusOrEmpty.id
  hash := world.1.statusOrEmpty.materialHash
  readings := readings secret world.2
  uploads := uploads world.2

/-- The account after another exchange. -/
def Account.add (account : Account) (secret : ObjectKey) (exchange : Exchange Effects) : Account :=
  { account with
    readings := account.readings ++ (exchange.material? secret).toList
    uploads := account.uploads ++ exchange.uploaded?.toList }

theorem Account.add_of_idles {account : Account} {secret : ObjectKey} {exchange : Exchange Effects}
    (idles : exchange.request.Idles) : account.add secret exchange = account := by
  rw [add, Exchange.material?_of_idles idles, Exchange.uploaded?_of_idles idles]
  simp only [Option.toList_none, List.append_nil]

/-- What an account has a status say. -/
def Account.withStatus (account : Account) (status : CustomCertificate.Status) : Account :=
  { account with id := status.id, hash := status.materialHash }

/-- Into a certificate that was just made, material is uploaded in any case, and otherwise only if its
fingerprint is not the one on record. -/
def Due (certificate : CustomCertificate) (id : UInt32) (material : Remote.Material) : Prop :=
  certificate.statusOrEmpty.id = none ∨
    certificate.statusOrEmpty.id = some id ∧
      certificate.statusOrEmpty.materialHash ≠ some material.fingerprint

/-- What a pass on a certificate may have done when it is interrupted. -/
inductive Reached (certificate : CustomCertificate) : Account → Prop
  | waiting {known : Option UInt32} {readings : List Remote.Material}
      (kept : ∀ id, certificate.statusOrEmpty.id = some id → known = some id) :
      Reached certificate ⟨known, certificate.statusOrEmpty.materialHash, readings, []⟩
  | uploaded {id : UInt32} {material : Remote.Material} (due : certificate.Due id material) :
      Reached certificate
        ⟨some id, certificate.statusOrEmpty.materialHash, [material], [(id, material)]⟩
  | recorded {id : UInt32} {material : Remote.Material} (due : certificate.Due id material) :
      Reached certificate ⟨some id, some material.fingerprint, [material], [(id, material)]⟩

/-- What a pass on a certificate has done when it is through. -/
inductive Completed (certificate : CustomCertificate) : Account → Prop
  | uploaded {id : UInt32} {material : Remote.Material} (due : certificate.Due id material) :
      Completed certificate ⟨some id, some material.fingerprint, [material], [(id, material)]⟩
  | current {id : UInt32} {material : Remote.Material}
      (known : certificate.statusOrEmpty.id = some id)
      (recorded : certificate.statusOrEmpty.materialHash = some material.fingerprint) :
      Completed certificate ⟨some id, some material.fingerprint, [material], []⟩

theorem Completed.reached {certificate : CustomCertificate} {account : Account}
    (completed : certificate.Completed account) : certificate.Reached account := by
  cases completed with
  | uploaded due => exact .recorded due
  | current known recorded =>
      rw [← recorded]
      exact .waiting fun _ other => known.symm.trans other

/-! ## Parts of a pass -/

section

variable {certificate : CustomCertificate} {here later : Account} {before after world : Attended}
  {exchange : Exchange Effects} {α β ε : Type} {context : Context} {session : Remote.Session}

abbrev Answers (certificate : CustomCertificate) : Conduct Effects Attended :=
  Conduct.logged (Tends certificate.metadata.spokenKey)

/-- A pass may be interrupted. -/
def Stopped (certificate : CustomCertificate) (world : Attended) : Prop :=
  certificate.Reached (account certificate.secretKey world)

/-- Whatever a pass asks and is answered, it may be interrupted after that. -/
abbrev Stays (certificate : CustomCertificate) (_ : Attended) (_ : Exchange Effects)
    (after : Attended) : Prop :=
  certificate.Stopped after

/-- A pass has come so far. -/
structure At (certificate : CustomCertificate) (here : Account) (world : Attended) : Prop where
  account : account certificate.secretKey world = here
  reached : certificate.Reached here

theorem At.stopped (stands : certificate.At here world) : certificate.Stopped world := by
  rw [Stopped, stands.account]
  exact stands.reached

theorem Stopped.stands (stopped : certificate.Stopped world) :
    certificate.At (CustomCertificate.account certificate.secretKey world) world :=
  ⟨rfl, stopped⟩

theorem At.moves (account : CustomCertificate.account certificate.secretKey after = later)
    (reached : certificate.Reached later) :
    Stays certificate before exchange after ∧ certificate.At later after :=
  have stands : certificate.At later after := ⟨account, reached⟩
  ⟨stands.stopped, stands⟩

theorem At.account_of_quiet (stands : certificate.At here before)
    (answered : Answers certificate before exchange after) (quiet : exchange.request.Quiet) :
    CustomCertificate.account certificate.secretKey after =
      here.add certificate.secretKey exchange := by
  rw [← stands.account]
  simp only [CustomCertificate.account, Account.add, Resource.statusOrEmpty, answered.2,
    answered.1.status_of_quiet quiet, uploads_append, readings_append]

theorem At.idle (stands : certificate.At here before)
    (answered : Answers certificate before exchange after) (idles : exchange.request.Idles) :
    Stays certificate before exchange after ∧ certificate.At here after := by
  apply At.moves _ stands.reached
  rw [stands.account_of_quiet answered idles.quiet, Account.add_of_idles idles]

theorem At.of_asks {attempt : Attempt ε α} (asks : Asks Effect.Idles attempt)
    (stands : certificate.At here world) :
    Meets (Answers certificate) (Stays certificate) (fun _ => certificate.At here)
      (fun _ => certificate.At here) attempt world :=
  .of_asks asks (fun _ _ _ idles stands answered => stands.idle answered idles) stands

theorem At.bind {attempt : Attempt ε α} {next : α → Attempt ε β} {ok : β → Attended → Prop}
    (asks : Asks Effect.Idles attempt) (stands : certificate.At here world)
    (further : ∀ value after, certificate.At here after →
      Meets (Answers certificate) (Stays certificate) ok (fun _ => certificate.Stopped) (next value)
        after) :
    Meets (Answers certificate) (Stays certificate) ok (fun _ => certificate.Stopped)
      (attempt >>= next) world :=
  .bind ((stands.of_asks asks).mono further fun _ _ stands => stands.stopped)

/-! ### The status -/

theorem At.withStatus (stands : certificate.At here world) :
    here.withStatus world.1.statusOrEmpty = here := by
  rw [← stands.account]
  rfl

/-- A write of the status happens, or it fails, and then it happened all the same or not. -/
theorem At.write {revision : Option String} {status : CustomCertificate.Status}
    {answer : Except Failure Unit} (stands : certificate.At here before)
    (reached : certificate.Reached (here.withStatus status))
    (answered : Answers certificate before
      ⟨.writeStatus .customCertificate certificate.metadata.spokenKey revision status, answer⟩ after) :
    after.1.statusOrEmpty = status ∧ certificate.At (here.withStatus status) after ∨
      (∃ failure, answer = .error failure) ∧ certificate.At here after := by
  have log : uploads after.2 = uploads before.2 ∧
      readings certificate.secretKey after.2 = readings certificate.secretKey before.2 := by
    rw [answered.2, uploads_append, readings_append]
    exact ⟨List.append_nil _, List.append_nil _⟩
  have stood := stands.account
  rcases answered.1.writes with written | ⟨failed, kept⟩
  · left
    have told : after.1.statusOrEmpty = status := by
      rw [Resource.statusOrEmpty, written, Option.getD_some]
    refine ⟨told, ?_, reached⟩
    rw [← stood]
    simp only [CustomCertificate.account, Account.withStatus, told, log]
  · right
    refine ⟨failed, ?_, stands.reached⟩
    rw [← stood]
    simp only [CustomCertificate.account, Resource.statusOrEmpty, kept, log]

/-- A change of the status that leads from one account to another, and then leaves it alone, does so
however often it is tried. -/
theorem At.updateStatus {change : CustomCertificate.Status → CustomCertificate.Status}
    {id : Option UInt32} {hash : Option String} (stands : certificate.At here world)
    (reached : certificate.Reached { here with id := id, hash := hash })
    (turns : ∀ status, here.withStatus status = here ∨
        here.withStatus status = { here with id := id, hash := hash } →
      here.withStatus (change status) = { here with id := id, hash := hash }) :
    Meets (Answers certificate) (Stays certificate)
      (fun _ after => (∃ status, after.1.statusOrEmpty = change status) ∧
        certificate.At { here with id := id, hash := hash } after)
      (fun _ => certificate.Stopped)
      (updateStatus context .customCertificate certificate.metadata.spokenKey change) world := by
  let later : Account := { here with id := id, hash := hash }
  let Turning (world : Attended) := certificate.At here world ∨ certificate.At later world
  have idle {before after : Attended} {exchange : Exchange Effects} (turning : Turning before)
      (answered : Answers certificate before exchange after) (idles : exchange.request.Idles) :
      Stays certificate before exchange after ∧ Turning after := by
    rcases turning with first | second
    · exact (first.idle answered idles).imp_right .inl
    · exact (second.idle answered idles).imp_right .inr
  have stopped {world : Attended} (turning : Turning world) : certificate.Stopped world :=
    turning.elim At.stopped At.stopped
  have turning : Turning world := .inl stands
  refine Meets.updateStatus (fun latest after => Turning after ∧
    (here.withStatus latest.statusOrEmpty = here ∨ here.withStatus latest.statusOrEmpty = later))
    ?_ ?_ ?_ turning
  · exact fun time start after begun paused => idle begun paused trivial
  · intro answer start after begun read
    have ⟨kept, between⟩ := idle begun read trivial
    apply And.intro kept
    rcases read.1.reads with rfl | ⟨failure, rfl⟩
    · exact ⟨between, begun.imp At.withStatus At.withStatus⟩
    · exact ⟨stopped between, between⟩
  · intro latest revision answer start after ⟨between, either⟩ answered
    have turned := turns latest.statusOrEmpty either
    have written : (∃ status, after.1.statusOrEmpty = change status) ∧ certificate.At later after ∨
        (∃ failure, answer = .error failure) ∧ Turning after := by
      rcases between with first | second
      · rw [← turned] at reached
        have ends := first.write reached answered
        rw [turned] at ends
        exact ends.imp (fun told => told.imp_left fun same => ⟨_, same⟩) fun failed =>
          failed.imp_right .inl
      · have stays : later.withStatus (change latest.statusOrEmpty) = later := turned
        have ends := second.write (stays.symm ▸ reached) answered
        rw [stays] at ends
        exact ends.imp (fun told => told.imp_left fun same => ⟨_, same⟩) fun failed =>
          failed.imp_right .inr
    rcases written with done | ⟨⟨failure, rfl⟩, unsure⟩
    · apply And.intro done.2.stopped
      cases answer with
      | ok _ => exact done
      | error failure => exact ⟨done.2.stopped, .inr done.2⟩
    · exact ⟨stopped unsure, stopped unsure, unsure⟩

/-! ### Reading, making and uploading -/

variable {known hash : Option _} {readings : List Remote.Material}

/-- The Secret is read, and its material is known from then on. -/
theorem At.readMaterial (stands : certificate.At ⟨known, hash, [], []⟩ world)
    (reached : ∀ readings, certificate.Reached ⟨known, hash, readings, []⟩) :
    Meets (Answers certificate) (Stays certificate)
      (fun material => certificate.At ⟨known, hash, [material], []⟩)
      (fun _ => certificate.Stopped) (CustomCertificates.readMaterial certificate) world := by
  apply Meets.bind
  apply Meets.bind
  intro answer after answered
  have stands : certificate.At _ after := ⟨stands.account_of_quiet answered trivial, reached _⟩
  apply And.intro stands.stopped
  cases answer with
  | error failure => exact stands.stopped
  | ok found =>
      change Meets _ _ _ _ (Pass.demand _ found) after
      apply Meets.demand
      · intro secret same
        apply Meets.orFail
        · intro material read
          simpa [Account.add, Exchange.material?, Exchange.uploaded?, Except.toOption, same, read,
            secretKey] using stands
        · intro failure _
          exact stands.stopped
      · intro _
        exact stands.stopped

/-- A certificate is made and recorded. -/
theorem At.make (stands : certificate.At ⟨known, hash, readings, []⟩ world)
    (reached : ∀ known, certificate.Reached ⟨known, hash, readings, []⟩) :
    Meets (Answers certificate) (Stays certificate)
      (fun id => certificate.At ⟨some id, hash, readings, []⟩)
      (fun _ => certificate.Stopped) (CustomCertificates.make context session certificate) world := by
  have creates (payload : Remote.Certificate.Payload) :
      Asks Effect.Idles (session.create .certificates payload) := ⟨trivial, fun _ => trivial⟩
  apply stands.bind (creates _)
  intro remote after stands
  refine .bind ((stands.updateStatus (reached (some remote.id)) fun status turning => ?_).mono
    (fun _ _ ends => .pure ends.2) fun _ _ stopped => stopped)
  simp only [Account.withStatus, Account.mk.injEq] at turning ⊢
  exact ⟨trivial, turning.elim (·.2.1) (·.2.1), trivial, trivial⟩

/-- Material is uploaded, or it is not. -/
theorem At.upload {id : UInt32} {material : Remote.Material}
    (stands : certificate.At ⟨known, hash, readings, []⟩ world)
    (reached : certificate.Reached ⟨known, hash, readings, [(id, material)]⟩) :
    Meets (Answers certificate) (Stays certificate)
      (fun _ => certificate.At ⟨known, hash, readings, [(id, material)]⟩)
      (fun _ => certificate.Stopped) (session.upload id material) world := by
  apply Meets.remote
  · intro value after answered
    have uploaded := stands.account_of_quiet answered trivial
    simp only [Account.add, Exchange.material?, Exchange.uploaded?, Option.toList_none,
      Option.toList_some, List.append_nil, List.nil_append] at uploaded
    exact At.moves uploaded reached
  · intro failure after answered
    have same := stands.account_of_quiet answered trivial
    simp only [Account.add, Exchange.material?, Exchange.uploaded?, Option.toList_none,
      List.append_nil] at same
    exact (At.moves same stands.reached).imp_right At.stopped

/-! ## The pass -/

/-- A pass has come to an outcome, and what is to be recorded completes it. -/
def Through (certificate : CustomCertificate) (outcome : CustomCertificates.Converged)
    (world : Attended) : Prop :=
  ∃ here, certificate.At here world ∧
    certificate.Completed
      { here with id := some outcome.remote.id, hash := some outcome.fingerprint }

/-- The certificate is read back before anything is recorded. -/
theorem At.confirm {id : UInt32} {fingerprint : String} {due : Bool} (stands : certificate.At here world)
    (completed : certificate.Completed { here with id := some id, hash := some fingerprint }) :
    Meets (Answers certificate) (Stays certificate) certificate.Through
      (fun _ => certificate.Stopped)
      (do return ⟨← Stage.remote.run (session.get .certificates id), fingerprint, due⟩ :
        Staged CustomCertificates.Converged) world := by
  apply Meets.bind
  apply Meets.staged
  apply Meets.remote
  · intro remote after answered
    have ⟨kept, stands⟩ := stands.idle answered trivial
    have same : remote.id = id := answered.1.faithful remote rfl
    rw [← same] at completed
    exact ⟨kept, here, stands, completed⟩
  · intro failure after answered
    exact (stands.idle answered trivial).imp_right At.stopped

/-- Material that is due is uploaded, and nothing can be recorded before that. -/
theorem At.converge {id : UInt32} {material : Remote.Material} {due : Bool}
    (stands : certificate.At ⟨some id, certificate.statusOrEmpty.materialHash, [material], []⟩ world)
    (needed : due = true → certificate.Due id material)
    (current : due = false → certificate.statusOrEmpty.id = some id ∧
      certificate.statusOrEmpty.materialHash = some material.fingerprint) :
    Meets (Answers certificate) (Stays certificate) certificate.Through
      (fun _ => certificate.Stopped)
      (do
        if due then Stage.remote.run (session.upload id material)
        return ⟨← Stage.remote.run (session.get .certificates id), material.fingerprint, due⟩ :
        Staged CustomCertificates.Converged) world := by
  cases due with
  | true =>
      have due := needed rfl
      apply Meets.bind
      apply Meets.staged
      apply (stands.upload (.uploaded due)).mono _ fun _ _ stopped => stopped
      intro _ after stands
      exact stands.confirm (.uploaded due)
  | false =>
      have ⟨known, recorded⟩ := current rfl
      exact stands.confirm (.current known recorded)

theorem converges (fresh : certificate.At
      ⟨certificate.statusOrEmpty.id, certificate.statusOrEmpty.materialHash, [], []⟩ world) :
    Meets (Answers certificate) (Stays certificate) certificate.Through
      (fun _ => certificate.Stopped) (CustomCertificates.converge context certificate) world := by
  have waiting (readings : List Remote.Material) : certificate.Reached
      ⟨certificate.statusOrEmpty.id, certificate.statusOrEmpty.materialHash, readings, []⟩ :=
    .waiting fun _ same => same
  apply fresh.bind .check
  intro _ after fresh
  apply Meets.bind
  apply Meets.staged
  apply (fresh.readMaterial waiting).mono _ fun _ _ stopped => stopped
  intro material after read
  have connects : Asks Effect.Idles
      (connect context certificate.spec.token certificate.metadata.spokenKey.namespace) :=
    (connect_seeks context _ _).mono fun _ => Effect.Idles.of_connect
  apply read.bind connects.staged
  intro session after read
  cases known : certificate.statusOrEmpty.id with
  | none =>
      have waiting (made : Option UInt32) : certificate.Reached
          ⟨made, certificate.statusOrEmpty.materialHash, [material], []⟩ := by
        apply Reached.waiting
        intro id recorded
        rw [known] at recorded
        cases recorded
      apply Meets.bind
      apply Meets.staged
      apply (read.make waiting).mono _ fun _ _ stopped => stopped
      intro id after made
      exact made.converge (fun _ => .inl known) fun current => nomatch current
  | some id =>
      rw [known] at read
      apply read.converge
      · intro due
        exact .inr ⟨known, of_decide_eq_true due⟩
      · intro current
        exact ⟨known, Decidable.of_not_not (of_decide_eq_false current)⟩

/-- What a pass has done when it ends. For a certificate that is deleted nothing is uploaded. -/
theorem reconciles (fresh : certificate.At
      ⟨certificate.statusOrEmpty.id, certificate.statusOrEmpty.materialHash, [], []⟩ world) :
    Meets (Answers certificate) (Stays certificate)
      (fun _ after => certificate.metadata.isDeleting = false →
        certificate.Completed (CustomCertificate.account certificate.secretKey after) ∧
          Condition.isTrue after.1.statusOrEmpty.conditions Condition.ready)
      (fun _ => certificate.Stopped) (CustomCertificates.reconcile context certificate) world := by
  unfold CustomCertificates.reconcile
  split
  · next deleting =>
    have cleans : ∀ pass ∈ CustomCertificates.cleanup context certificate,
        Asks Effect.Idles pass := by
      intro pass member
      rcases Option.map_eq_some_iff.mp member with ⟨id, _, rfl⟩
      exact .bind ((connect_seeks context _ _).mono fun _ => Effect.Idles.of_connect) fun _ =>
        deleteRemote_asks trivial
    have dismisses : Asks Effect.Idles
        (dismiss certificate (CustomCertificates.cleanup context certificate)) :=
      dismiss_asks (fun _ => trivial) trivial cleans
    apply (fresh.of_asks dismisses).mono
    · intro _ after _ remains
      rw [deleting] at remains
      cases remains
    · intro _ after stands
      exact stands.stopped
  · apply fresh.bind (hold_asks certificate trivial)
    intro _ after fresh
    apply Meets.finish ((converges fresh).mono _ fun _ _ stopped => stopped)
    · intro _ event before after stopped answered
      exact (stopped.stands.idle answered trivial).imp_right At.stopped
    · intro _ before stopped change
      apply (stopped.stands.updateStatus stopped _).mono
      · intro _ after ends
        exact ends.2.stopped
      · exact fun _ _ stopped => stopped
      · exact fun status turning => turning.elim id id
    · intro outcome after ⟨here, stands, completed⟩
      have records (before : Attended) (stands : certificate.At here before) :
          Meets (Answers certificate) (Stays certificate)
            (fun _ after => certificate.metadata.isDeleting = false →
              certificate.Completed (CustomCertificate.account certificate.secretKey after) ∧
                Condition.isTrue after.1.statusOrEmpty.conditions Condition.ready)
            (fun _ => certificate.Stopped)
            (do
              updateStatus context .customCertificate certificate.metadata.spokenKey
                (CustomCertificates.synced context outcome)
              return Action.resync context : Pass Action) before := by
        refine .bind ((stands.updateStatus completed.reached fun _ _ => rfl).mono (fun _ after ends => ?_)
          fun _ _ stopped => stopped)
        rcases ends with ⟨⟨status, told⟩, stands⟩
        apply Meets.pure
        intro _
        rw [stands.account, told]
        exact ⟨completed, Condition.isTrue_markReady _ _ _⟩
      split
      · apply stands.bind (announce_asks (fun _ => trivial) _ _ _ _ _)
        exact fun _ => records
      · exact records after stands

end

end CustomCertificate

end ProxyOperator
