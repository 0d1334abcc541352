import ProxyOperator.Proofs.Logs
import ProxyOperator.Proofs.Refusals
import ProxyOperator.Proofs.Ways
/-!
What passes on deleted resources do, whatever they are answered: which requests take leave of the remote
object, by what is on record of it, and that the resource is released after them in any case.
-/
namespace ProxyOperator

open Reconcile Attempt

/-- The requests that take leave of a remote object, and what to tell about it when they are through. -/
structure Farewell where
  requests : List Remote.Request
  reason : String

/-- An adopted object is put back as it was, or disabled if nobody knows how it was; one that was made is
deleted. -/
def Adopting.farewell? {kind : Kind} (adopting : Adopting kind)
    (footing : Footing adopting.Snapshot) : Option Farewell :=
  match footing.id, footing.bound, footing.initial with
  | none, _, _ => none
  | some id, true, some snapshot =>
      some ⟨[.update adopting.collection id (adopting.payload snapshot),
        if adopting.enabled snapshot then .enable adopting.collection id
        else .disable adopting.collection id], Event.restored⟩
  | some id, true, none => some ⟨[.disable adopting.collection id], Event.disabled⟩
  | some id, false, _ => some ⟨[.delete adopting.collection id], Event.deleted⟩

def Farewell.deletion (collection : Remote.Collection) (id : UInt32) : Farewell :=
  ⟨[.delete collection id], Event.deleted⟩

namespace Kind

/-- What a status calls for when its resource is deleted, if it calls for anything. -/
def farewell? : (kind : Kind) → kind.Status → Option Farewell
  | .proxyHost, status => Adopting.proxyHosts.farewell? (Adopting.proxyHosts.footing status)
  | .stream, status => Adopting.streams.farewell? (Adopting.streams.footing status)
  | .token, _ => none
  | .letsEncryptCertificate, status =>
      if status.bound then none else status.id.map (Farewell.deletion .certificates)
  | .customCertificate, status => status.id.map (Farewell.deletion .certificates)
  | .accessList, status => status.id.map (Farewell.deletion .accessLists)

/-- The Token that a declaration refers to. -/
def tokenOf : (kind : Kind) → kind.Spec → Option ResourceRef
  | .proxyHost, spec => spec.token
  | .stream, spec => spec.token
  | .token, _ => none
  | .letsEncryptCertificate, spec => spec.token
  | .customCertificate, spec => spec.token
  | .accessList, spec => spec.token

end Kind

/-- An answer that lets a pass go on: what is to be deleted may be gone already. -/
def Remote.Request.Accepts : (request : Remote.Request) → Except Failure request.Result → Prop
  | .delete _ _, .error failure => failure.isRemoteMissing = true
  | _, .error _ => False
  | _, .ok _ => True

/-- Requests are made in turn within a session, each after the one before was accepted; they come to an end
with the last one, or with one that is not accepted. -/
inductive Carried (session : Remote.Session) :
    List Remote.Request → List (Exchange Effects) → Except Failure Unit → Prop
  | through : Carried session [] [] (.ok ())
  | onward {request : Remote.Request} {answer : Except Failure request.Result}
      {requests : List Remote.Request} {log : List (Exchange Effects)}
      {outcome : Except Failure Unit} (accepted : request.Accepts answer)
      (further : Carried session requests log outcome) :
      Carried session (request :: requests) (⟨.remote session request, answer⟩ :: log) outcome
  | stopped {request : Remote.Request} {requests : List Remote.Request} {failure : Failure}
      (refused : ¬request.Accepts (.error failure)) :
      Carried session (request :: requests) [⟨.remote session request, .error failure⟩]
        (.error failure)

section

variable {kind : Kind}

/-- A session is looked for, with nothing but the requests that this takes. -/
structure SeeksSession (context : Context) (subject : Resource kind)
    (log : List (Exchange Effects)) (outcome : Except Failure Remote.Session) : Prop where
  concludes : Concludes (Conduct.free Effects)
    (connect context (kind.tokenOf subject.spec) subject.metadata.spokenKey.namespace) () log
    outcome ()
  seeks : ∀ exchange ∈ log, exchange.request.SeeksToken ∨ exchange.request.Connects

/-- Something is told about the deletion of a resource. -/
def Resource.told (subject : Resource kind) (type : EventType) (reason : String)
    (note : Option String) : Exchange Effects :=
  ⟨.publish ⟨subject.reference, type, reason, Event.delete, note⟩, ()⟩

/-- All that is exchanged before a resource is released: nothing if nothing is called for; otherwise a
session is looked for, the requests are made in it, and it is told what became of them. -/
inductive TakesLeave (context : Context) (subject : Resource kind) : List (Exchange Effects) → Prop
  | nothing (none : kind.farewell? subject.statusOrEmpty = none) : TakesLeave context subject []
  | unauthenticated {farewell : Farewell} {seeking : List (Exchange Effects)} {failure : Failure}
      (due : kind.farewell? subject.statusOrEmpty = some farewell)
      (seeks : SeeksSession context subject seeking (.error failure)) :
      TakesLeave context subject
        (seeking ++ [subject.told .warning Event.cleanupFailed (some failure.message)])
  | through {farewell : Farewell} {session : Remote.Session}
      {seeking carrying : List (Exchange Effects)}
      (due : kind.farewell? subject.statusOrEmpty = some farewell)
      (seeks : SeeksSession context subject seeking (.ok session))
      (carries : Carried session farewell.requests carrying (.ok ())) :
      TakesLeave context subject
        (seeking ++ carrying ++ [subject.told .normal farewell.reason none])
  | failed {farewell : Farewell} {session : Remote.Session} {failure : Failure}
      {seeking carrying : List (Exchange Effects)}
      (due : kind.farewell? subject.statusOrEmpty = some farewell)
      (seeks : SeeksSession context subject seeking (.ok session))
      (carries : Carried session farewell.requests carrying (.error failure)) :
      TakesLeave context subject
        (seeking ++ carrying ++ [subject.told .warning Event.cleanupFailed (some failure.message)])

/-- What a finished pass on a deleted resource was: no status was written; a resource that is not held back was
left alone; another one was released once and at last, after its leave was taken, and whether that came off
is what the pass ended with. -/
structure Dismissed (context : Context) (subject : Resource kind) (log : List (Exchange Effects))
    (outcome : Except Failure Action) : Prop where
  quiet : ∀ exchange ∈ log, exchange.request.Quiet
  unheld : subject.isHeld = false → log = [] ∧ outcome = .ok .awaitChange
  held : subject.isHeld = true → ∃ (earlier : List (Exchange Effects)) (answer : Except Failure Unit),
    log = earlier ++ [⟨.removeFinalizer kind subject.metadata.spokenKey, answer⟩] ∧
    (∀ exchange ∈ earlier, ∀ other key, exchange.request ≠ .removeFinalizer other key) ∧
    outcome = answer.map (fun _ => .awaitChange) ∧ TakesLeave context subject earlier

end

/-! ## What the requests come to -/

/-- A part of a pass makes the requests of a farewell and ends with what is to be told. -/
def Farewell.CarriedBy (farewell : Farewell) (session : Remote.Session) (work : Pass String) :
    Prop :=
  ∀ log outcome, Concludes (Conduct.free Effects) work () log outcome () →
    ∃ carried, Carried session farewell.requests log carried ∧
      outcome = carried.map fun _ => farewell.reason

theorem Remote.Request.accepts_ok (request : Remote.Request) (value : request.Result) :
    request.Accepts (.ok value) := by
  cases request <;> trivial

section

variable {session : Remote.Session} {request : Remote.Request} {log : List (Exchange Effects)}

/-- A request none of whose failures is accepted, and what follows it. -/
theorem Carried.of_bind {α : Type} {next : request.Result → Pass α} {outcome : Except Failure α}
    (concludes : Concludes (Conduct.free Effects)
      (((Effect.remote session request).ask : Pass request.Result) >>= next) () log outcome ())
    (refuses : ∀ failure, ¬request.Accepts (.error failure)) :
    (∃ failure, outcome = .error failure ∧
      ∀ requests, Carried session (request :: requests) log (.error failure)) ∨
    ∃ value later, Concludes (Conduct.free Effects) (next value) () later outcome () ∧
      ∀ requests carried, Carried session requests later carried →
        Carried session (request :: requests) log carried := by
  rcases concludes.of_bind with ⟨failure, asked, rfl⟩ | ⟨value, _, first, later, asked, further, rfl⟩
  · obtain ⟨rfl, _⟩ := Concludes.of_ask asked
    exact .inl ⟨failure, rfl, fun _ => .stopped (refuses failure)⟩
  · obtain ⟨rfl, _⟩ := Concludes.of_ask asked
    exact .inr ⟨value, later, further, fun _ _ carries => .onward (request.accepts_ok value) carries⟩

theorem Carried.of_last {reason : String} {outcome : Except Failure String}
    (concludes : Concludes (Conduct.free Effects)
      (((Effect.remote session request).ask : Pass request.Result) >>= fun _ => pure reason) () log
      outcome ())
    (refuses : ∀ failure, ¬request.Accepts (.error failure)) :
    ∃ carried, Carried session [request] log carried ∧ outcome = carried.map fun _ => reason := by
  rcases Carried.of_bind concludes refuses with ⟨failure, rfl, carries⟩ | ⟨_, later, ended, carries⟩
  · exact ⟨.error failure, carries [], rfl⟩
  · obtain ⟨rfl, rfl, _⟩ := ended.of_pure
    exact ⟨.ok (), carries [] _ .through, rfl⟩

end

theorem Farewell.deletion_carried (session : Remote.Session) (collection : Remote.Collection)
    (id : UInt32) :
    (deletion collection id).CarriedBy session (deleteRemote session collection id) := by
  intro log outcome concludes
  rcases concludes.of_bind with ⟨failure, tried, rfl⟩ | ⟨result, _, first, later, tried, further, rfl⟩
  · obtain ⟨_, _, ends⟩ := tried.of_outcome
    cases ends
  · obtain ⟨_, asked, ends⟩ := tried.of_outcome
    obtain rfl := Except.ok.inj ends
    obtain ⟨rfl, _⟩ := Concludes.of_ask asked
    cases result with
    | ok value =>
        obtain ⟨rfl, rfl, _⟩ := further.of_pure
        exact ⟨.ok (), .onward trivial .through, rfl⟩
    | error failure =>
        by_cases missing : failure.isRemoteMissing = true
        · simp only [missing, if_true] at further
          obtain ⟨rfl, rfl, _⟩ := further.of_pure
          exact ⟨.ok (), .onward missing .through, rfl⟩
        · simp only [missing] at further
          obtain ⟨rfl, rfl, _⟩ := further.of_throw
          exact ⟨.error failure, .stopped missing, rfl⟩

namespace Adopting

variable {kind : Kind} (adopting : Adopting kind)

theorem farewell?_eq_none (footing : Footing adopting.Snapshot)
    (nothing : Cleanup.plan footing.id footing.bound footing.initial = .nothing) :
    adopting.farewell? footing = none := by
  obtain ⟨id, bound, initial⟩ := footing
  cases id with
  | none => rfl
  | some id => cases bound <;> cases initial <;> cases nothing

theorem restore_carried (session : Remote.Session) (id : UInt32) (snapshot : adopting.Snapshot) :
    (⟨[.update adopting.collection id (adopting.payload snapshot),
      if adopting.enabled snapshot then .enable adopting.collection id
      else .disable adopting.collection id], Event.restored⟩ : Farewell).CarriedBy session
      (adopting.cleanUp session (.restore id snapshot)) := by
  intro log outcome concludes
  rcases Carried.of_bind concludes fun _ => not_false with
    ⟨failure, rfl, carries⟩ | ⟨_, later, further, carries⟩
  · exact ⟨.error failure, carries _, rfl⟩
  · dsimp only at further
    split at further
    · next enabled =>
      have ⟨carried, switched, ends⟩ := Carried.of_last further fun _ => not_false
      rw [if_pos enabled]
      exact ⟨carried, carries _ _ switched, ends⟩
    · next disabled =>
      have ⟨carried, switched, ends⟩ := Carried.of_last further fun _ => not_false
      rw [if_neg disabled]
      exact ⟨carried, carries _ _ switched, ends⟩

/-- A plan for a remote object is carried out by the requests that its footing calls for. -/
theorem farewell?_carried (footing : Footing adopting.Snapshot) (session : Remote.Session)
    (something : Cleanup.plan footing.id footing.bound footing.initial ≠ .nothing) :
    ∃ farewell, adopting.farewell? footing = some farewell ∧ farewell.CarriedBy session
      (adopting.cleanUp session (Cleanup.plan footing.id footing.bound footing.initial)) := by
  obtain ⟨id, bound, initial⟩ := footing
  cases id with
  | none => exact absurd rfl something
  | some id =>
      cases bound with
      | false => exact ⟨_, rfl, Farewell.deletion_carried session adopting.collection id⟩
      | true =>
          cases initial with
          | some snapshot => exact ⟨_, rfl, adopting.restore_carried session id snapshot⟩
          | none =>
              exact ⟨_, rfl, fun _ _ concludes => Carried.of_last concludes fun _ => not_false⟩

end Adopting

/-! ## Passes on deleted resources -/

section

variable {kind : Kind} {context : Context} {subject : Resource kind}

/-- What a pass does about the remote object before it releases a resource: nothing if nothing is called for, and
otherwise what is called for, in a session that is looked for first. -/
inductive Prepared (context : Context) (subject : Resource kind) : Option (Pass String) → Prop
  | nothing (none : kind.farewell? subject.statusOrEmpty = none) : Prepared context subject .none
  | something {farewell : Farewell} {work : Remote.Session → Pass String}
      (due : kind.farewell? subject.statusOrEmpty = some farewell)
      (carries : ∀ session, farewell.CarriedBy session (work session)) :
      Prepared context subject (some (connect context (kind.tokenOf subject.spec)
        subject.metadata.spokenKey.namespace >>= work))

theorem Prepared.of_adopting {adopting : Adopting kind}
    (own : kind.farewell? subject.statusOrEmpty =
      adopting.farewell? (adopting.footingOf subject))
    (token : adopting.token subject.spec = kind.tokenOf subject.spec) :
    Prepared context subject (adopting.cleanup context subject) := by
  unfold Adopting.cleanup
  rw [token]
  dsimp only
  split
  · next nothing => exact .nothing (own.trans (adopting.farewell?_eq_none _ nothing))
  · next something =>
    have due := adopting.farewell?_carried (adopting.footingOf subject) default something
    obtain ⟨farewell, calls, _⟩ := due
    refine .something (own.trans calls) fun session => ?_
    obtain ⟨_, same, carries⟩ :=
      adopting.farewell?_carried (adopting.footingOf subject) session something
    obtain rfl := Option.some.inj (calls.symm.trans same)
    exact carries

theorem Prepared.of_owned {collection : Remote.Collection} {id : Option UInt32}
    (own : kind.farewell? subject.statusOrEmpty = id.map (Farewell.deletion collection)) :
    Prepared context subject (id.map <| deleteOwned context (kind.tokenOf subject.spec)
      subject.metadata.spokenKey.namespace collection) := by
  cases id with
  | none => exact .nothing own
  | some id => exact .something own fun session => Farewell.deletion_carried session collection id

/-- A pass on a deleted resource prepares what is called for and dismisses the resource. -/
theorem reconcile_deleted (remote : kind ≠ .token) (deleted : subject.metadata.isDeleting = true) :
    ∃ cleanup, Prepared context subject cleanup ∧
      reconcile context kind subject = dismiss subject cleanup := by
  have status {α : Type} (idOf : kind.Status → Option α) (none : idOf kind.emptyStatus = none) :
      subject.status.bind idOf = idOf subject.statusOrEmpty := by
    unfold Resource.statusOrEmpty
    cases subject.status with
    | none => exact none.symm
    | some status => rfl
  cases kind with
  | token => exact absurd rfl remote
  | proxyHost => exact ⟨_, .of_adopting rfl rfl, if_pos deleted⟩
  | stream => exact ⟨_, .of_adopting rfl rfl, if_pos deleted⟩
  | letsEncryptCertificate =>
      refine ⟨_, .of_owned ?_, if_pos deleted⟩
      unfold Kind.farewell?
      dsimp only
      split <;> rfl
  | customCertificate =>
      exact ⟨_, .of_owned (congrArg (Option.map _) (status (·.id) rfl).symm), if_pos deleted⟩
  | accessList =>
      exact ⟨_, .of_owned (congrArg (Option.map _) (status (·.id) rfl).symm), if_pos deleted⟩

/-! ## The release -/

/-- A resource is released by one request, and it is that one that settles the outcome. -/
theorem Attempt.Concludes.removeFinalizer {log : List (Exchange Effects)} {outcome : Except Failure Action}
    (concludes : Concludes (Conduct.free Effects)
      (Pass.removeFinalizer kind subject.metadata.spokenKey >>= fun _ => pure .awaitChange) () log
      outcome ()) :
    ∃ answer, log = [⟨.removeFinalizer kind subject.metadata.spokenKey, answer⟩] ∧
      outcome = answer.map fun _ => .awaitChange := by
  rcases concludes.of_bind with ⟨failure, asked, rfl⟩ | ⟨_, _, _, _, asked, further, rfl⟩
  · obtain ⟨rfl, _⟩ := Concludes.of_ask asked
    exact ⟨.error failure, rfl, rfl⟩
  · obtain ⟨rfl, _⟩ := Concludes.of_ask asked
    obtain ⟨rfl, rfl, _⟩ := further.of_pure
    exact ⟨.ok _, rfl, rfl⟩

/-- A session is looked for by requests for Tokens, and set up. -/
theorem SeeksSession.of_concludes {log : List (Exchange Effects)}
    {outcome : Except Failure Remote.Session}
    (concludes : Concludes (Conduct.free Effects)
      (connect context (kind.tokenOf subject.spec) subject.metadata.spokenKey.namespace) () log
      outcome ()) : SeeksSession context subject log outcome :=
  ⟨concludes, (connect_seeks context _ _).exchanges concludes⟩

/-- Whatever comes of what was prepared, it is told about and the resource is released. -/
theorem Prepared.release {cleanup : Option (Pass String)} {log : List (Exchange Effects)}
    {outcome : Except Failure Action} (prepared : Prepared context subject cleanup)
    (concludes : Concludes (Conduct.free Effects) (release subject cleanup) () log outcome ()) :
    ∃ earlier answer,
      log = earlier ++ [⟨.removeFinalizer kind subject.metadata.spokenKey, answer⟩] ∧
      outcome = answer.map (fun _ => .awaitChange) ∧ TakesLeave context subject earlier := by
  cases prepared with
  | nothing none =>
      obtain ⟨answer, rfl, rfl⟩ := concludes.removeFinalizer
      exact ⟨[], answer, rfl, rfl, .nothing none⟩
  | @something farewell work due carries =>
      rcases Concludes.of_bind concludes with ⟨_, worked, _⟩ | ⟨result, _, _, _, worked, further, rfl⟩
      · obtain ⟨_, _, ends⟩ := worked.of_outcome
        cases ends
      obtain ⟨_, worked, ends⟩ := worked.of_outcome
      obtain rfl := Except.ok.inj ends
      have released {type : EventType} {reason : String} {note : Option String}
          {first second : List (Exchange Effects)}
          (concludes : Concludes (Conduct.free Effects)
            (announce subject type reason Event.delete note >>= fun _ =>
              Pass.removeFinalizer kind subject.metadata.spokenKey >>= fun _ => pure .awaitChange)
            () second outcome ())
          (leave : TakesLeave context subject (first ++ [subject.told type reason note])) :
          ∃ earlier answer,
            first ++ second = earlier ++ [⟨.removeFinalizer kind subject.metadata.spokenKey, answer⟩] ∧
            outcome = answer.map (fun _ => .awaitChange) ∧ TakesLeave context subject earlier := by
        obtain ⟨_, _, rfl, last⟩ := concludes.of_announce
        obtain ⟨answer, rfl, rfl⟩ := last.removeFinalizer
        refine ⟨_, answer, ?_, rfl, leave⟩
        rw [List.append_assoc]
        rfl
      rcases worked.of_bind with ⟨failure, sought, rfl⟩ | ⟨session, _, _, _, sought, carrying, rfl⟩
      · exact released further (.unauthenticated due (.of_concludes sought))
      · obtain ⟨carried, carries, rfl⟩ := carries session _ _ carrying
        cases carried with
        | ok _ => exact released further (.through due (.of_concludes sought) carries)
        | error failure => exact released further (.failed due (.of_concludes sought) carries)

/-! ## What is asked on the way -/

theorem Carried.isRemote {session : Remote.Session} {requests : List Remote.Request}
    {log : List (Exchange Effects)} {outcome : Except Failure Unit}
    (carried : Carried session requests log outcome) :
    ∀ exchange ∈ log, exchange.request.isRemote = true := by
  induction carried with
  | through => exact fun _ member => nomatch member
  | onward _ _ induction =>
      intro exchange member
      rcases List.mem_cons.mp member with rfl | later
      · rfl
      · exact induction exchange later
  | stopped _ =>
      intro exchange member
      obtain rfl := List.mem_singleton.mp member
      rfl

/-- A request that takes leave of a remote object: it looks for a session, is made in one, or tells about it. -/
def Effect.TakesLeave (effect : Effect) : Prop :=
  (effect.SeeksToken ∨ effect.Connects) ∨ effect.isRemote = true ∨ ∃ event, effect = .publish event

theorem TakesLeave.asked {log : List (Exchange Effects)} (leave : TakesLeave context subject log) :
    ∀ exchange ∈ log, exchange.request.TakesLeave := by
  have tells {type : EventType} {reason : String} {note : Option String} :
      ∀ exchange ∈ [subject.told type reason note], exchange.request.TakesLeave := by
    intro exchange member
    obtain rfl := List.mem_singleton.mp member
    exact .inr (.inr ⟨_, rfl⟩)
  cases leave with
  | nothing => exact fun _ member => nomatch member
  | unauthenticated due sought =>
      refine List.forall_mem_append.mpr ⟨fun exchange member => ?_, tells⟩
      exact .inl (sought.seeks exchange member)
  | through due sought carries | failed due sought carries =>
      refine List.forall_mem_append.mpr ⟨List.forall_mem_append.mpr ⟨?_, ?_⟩, tells⟩
      · exact fun exchange member => .inl (sought.seeks exchange member)
      · exact fun exchange member => .inr (.inl (carries.isRemote exchange member))

theorem Effect.TakesLeave.quiet {effect : Effect} (leave : effect.TakesLeave) : effect.Quiet := by
  rcases leave with (seeks | connects) | remote | ⟨event, rfl⟩
  · exact .of_looks seeks.looks
  · exact .of_connects connects
  · cases effect <;> trivial
  · trivial

theorem Effect.TakesLeave.keeps {effect : Effect} (leave : effect.TakesLeave) (other : Kind)
    (key : ObjectKey) : effect ≠ .removeFinalizer other key := by
  rintro rfl
  rcases leave with (seeks | connects) | remote | ⟨event, same⟩
  · exact seeks.elim
  · exact connects.elim
  · cases remote
  · cases same

theorem Effect.nonempty_answer (effect : Effect) : Nonempty effect.Answer := by
  cases effect <;> exact ⟨default⟩

/-- A pass on a deleted resource always comes to an end, and takes leave of the remote object and releases the
resource then, whatever it is answered. -/
theorem deletion_dismisses {log : List (Exchange Effects)} {rest : Running} (remote : kind ≠ .token)
    (deleted : subject.metadata.isDeleting = true)
    (goes : Program.Goes (Conduct.free Effects) (reconcile context kind subject).run () log rest ()) :
    (∃ later outcome, Program.Goes (Conduct.free Effects) rest () later (.done outcome) ()) ∧
    ∀ later outcome, Program.Goes (Conduct.free Effects) rest () later (.done outcome) () →
      Dismissed context subject (log ++ later) outcome := by
  constructor
  · have answers (state : Unit) (effect : Effect) :
        ∃ answer after, Conduct.free Effects state ⟨effect, answer⟩ after :=
      ⟨effect.nonempty_answer.some, (), trivial⟩
    have ⟨later, outcome, _, ends⟩ := Program.exists_end answers rest ()
    exact ⟨later, outcome, ends⟩
  intro later outcome ends
  have whole := goes.append ends
  obtain ⟨cleanup, prepared, same⟩ : ∃ cleanup, Prepared context subject cleanup ∧
      reconcile context kind subject = dismiss subject cleanup := reconcile_deleted remote deleted
  rw [same] at whole
  unfold dismiss at whole
  split at whole
  · next held =>
    have ⟨earlier, answer, split, came, leave⟩ := prepared.release whole
    refine ⟨?_, fun unheld => absurd held (Bool.eq_false_iff.mp unheld), fun _ => ?_⟩
    · rw [split]
      refine List.forall_mem_append.mpr ⟨fun exchange member => (leave.asked exchange member).quiet, ?_⟩
      intro exchange member
      obtain rfl := List.mem_singleton.mp member
      trivial
    · exact ⟨earlier, answer, split,
        fun exchange member => (leave.asked exchange member).keeps, came, leave⟩
  · next unheld =>
    obtain ⟨none, rfl, _⟩ := Concludes.of_pure whole
    rw [none]
    exact ⟨fun _ member => (nomatch member), fun _ => ⟨rfl, rfl⟩, fun held => absurd held unheld⟩

end

/-- An adopted host whose remote host is put back and then cannot be disabled. -/
def Sample.leaving : ProxyHost :=
  deleting { host "web" true [⟨"10.0.0.1", 80⟩] with
    status := some { (default : ProxyHost.Status) with
      id := some 99, bound := true
      initial := some (ProxyHost.Snapshot.of { remote none with enabled := false }) } }

def Sample.reluctant : Responder Effects Unit := fun _ request =>
  let answer? : Option request.Answer :=
    match request with
    | .list .token _ => some (.ok [token])
    | .connect _ => some (.ok ())
    | .remote _ (.update .proxyHosts id _) => some (.ok { remote none with id := id })
    | .remote _ (.disable .proxyHosts id) =>
        some (.error (.remote "POST" (Remote.Collection.proxyHosts.objectPath id) 404 ""))
    | .publish _ => some ()
    | .removeFinalizer _ _ => some (.ok ())
    | _ => none
  answer?.map (·, ())

/-- That the remote host is gone is no excuse when it is to be disabled, and the resource is released all the
same. -/
theorem deletion_dismisses_reluctant :
    ∃ log action, Program.Goes (Conduct.free Effects)
        (reconcile Sample.context .proxyHost Sample.leaving).run () log (.done (.ok action)) () ∧
      Dismissed Sample.context Sample.leaving log (.ok action) ∧
      log.length = 6 := by
  let pass := (reconcile Sample.context .proxyHost Sample.leaving).run
  have allowed : Program.Allowed (Conduct.free Effects) Sample.reluctant := fun _ _ _ _ _ => trivial
  have goes := allowed.goes_heard pass ()
  obtain ⟨action, ended⟩ : ∃ action, (pass.play Sample.reluctant ()).1 = .done (.ok action) :=
    Program.eq_done_ok_of_succeeds (by decide +kernel)
  rw [ended] at goes
  have dismissed := (deletion_dismisses (by decide) (by decide +kernel) goes).2 [] _ (.here _ _)
  rw [List.append_nil] at dismissed
  exact ⟨_, action, goes, dismissed, by decide +kernel⟩

end ProxyOperator
