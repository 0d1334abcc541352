import ProxyOperator.Proofs.ErrandPasses
import ProxyOperator.Proofs.Farewells
import ProxyOperator.Proofs.Sessions
/-!
In which order passes deal with the finalizer. A pass on a resource that stays begins by holding it back from
deletion, if it is not held back yet, and never lets go of it; a pass on a resource that is deleted lets go of it
at last. What a pass may ask next is told by what it was asked and answered so far.
-/
namespace ProxyOperator

open Attempt Reconcile

/-! ## What is left of a way -/

namespace Program

variable {interface : Interface} {σ α : Type} {conduct : Conduct interface σ}
  {program : Program interface α} {state after : σ} {log : List (Exchange interface)}

/-- What is left of a program asks for nothing else than the program. -/
theorem Asks.goes {allowed : interface.Request → Prop} {rest : Program interface α}
    (goes : Goes conduct program state log rest after) (asks : Asks allowed program) :
    Asks allowed rest := by
  induction goes with
  | here => exact asks
  | ask _ _ induction => exact induction (asks.2 _)

/-- A way goes on by one more exchange. -/
theorem Goes.snoc {request : interface.Request}
    {next : interface.Answer request → Program interface α} {answer : interface.Answer request}
    {later : σ} (goes : Goes conduct program state log (.ask request next) after)
    (answered : conduct after ⟨request, answer⟩ later) :
    Goes conduct program state (log ++ [⟨request, answer⟩]) (next answer) later :=
  goes.append (.ask answered (.here _ _))

end Program

/-! ## Passes on resources that stay -/

/-- The request leaves the finalizers of all resources alone. -/
def Effect.Works : Effect → Prop
  | .addFinalizer _ _ => False
  | .removeFinalizer _ _ => False
  | _ => True

namespace Effect

variable {effect : Effect}

theorem Works.of_looks (looks : effect.Looks) : effect.Works := by
  cases effect with
  | addFinalizer | removeFinalizer => exact looks.elim
  | _ => trivial

theorem Works.of_connects (connects : effect.Connects) : effect.Works := by
  cases effect with
  | addFinalizer | removeFinalizer => exact connects.elim
  | _ => trivial

theorem Works.of_within {session : Remote.Session} (within : effect.Within session) :
    effect.Works := by
  cases effect with
  | addFinalizer | removeFinalizer => exact within.elim
  | _ => trivial

end Effect

namespace Reconcile

variable {kind : Kind} {context : Context}

theorem upkeep_works {key : ObjectKey} : Upkeep Effect.Works kind key :=
  ⟨trivial, fun _ _ => trivial, fun _ => trivial, fun _ => trivial⟩

theorem connect_works {reference : Option ResourceRef} {«namespace» : String} :
    Asks Effect.Works (connect context reference «namespace») :=
  (connect_asks _ _ _).mono fun _ => Or.rec .of_looks .of_connects

/-- The end of a pass that succeeds. -/
theorem concludes_works {key : ObjectKey} {change : kind.Status → kind.Status} {action : Action} :
    Asks Effect.Works (do
      updateStatus context kind key change
      return action) :=
  .bind upkeep_works.updateStatus fun _ => .pure

theorem announceDone_works {resource : Resource kind} {reason note : String} :
    Asks Effect.Works (announceDone resource reason note) :=
  announce_asks (fun _ => trivial) _ _ _ _ _

theorem InSession.works {α : Type} {reference : Option ResourceRef} {«namespace» : String}
    {attempt : Staged α} (inSession : InSession context reference «namespace» attempt) :
    Asks Effect.Works attempt := by
  obtain ⟨check, rest, rfl, within⟩ := inSession
  exact .bind .check fun _ => .bind (.staged connect_works) fun session =>
    (within session).mono fun _ => .of_within

theorem AccessLists.converge_works (list : AccessList) :
    Asks Effect.Works (converge context list) := by
  have writes (session : Remote.Session) (recorded : Option UInt32)
      (payload : Remote.AccessList.Payload) :
      Asks Effect.Works (write session recorded payload) := by
    cases recorded <;> exact .bind ⟨trivial, fun _ => trivial⟩ fun _ => .pure
  refine .bind .check fun _ => ?_
  refine .bind (.staged (.mapM (fun _ => (login_asks _ _).mono fun _ => .of_looks) _)) fun _ => ?_
  exact .bind (.staged connect_works) fun session => .staged (writes _ _ _)

theorem LetsEncryptCertificates.converge_works (certificate : LetsEncryptCertificate) :
    Asks Effect.Works (converge context certificate) := by
  refine .bind .check fun _ => .bind (.staged connect_works) fun session => ?_
  split
  · exact .bind (.staged ⟨trivial, fun _ => trivial⟩) fun _ => .pure
  · refine .bind (.staged ⟨trivial, fun _ => trivial⟩) fun listed => ?_
    split
    · exact .pure
    · refine .bind (.bind (.staged .demand) fun email => ?_) fun _ => .pure
      refine .bind (.staged ((withChallenge_asks _ _ _).mono fun _ => .of_looks)) fun _ => ?_
      exact .staged ⟨trivial, fun _ => trivial⟩

theorem CustomCertificates.converge_works (certificate : CustomCertificate) :
    Asks Effect.Works (converge context certificate) := by
  refine .bind .check fun _ => ?_
  refine .bind (.staged ((readMaterial_asks certificate).mono fun _ => .of_looks)) fun material => ?_
  refine .bind (.staged connect_works) fun session => ?_
  have makes : Asks Effect.Works (make context session certificate) :=
    .bind ⟨trivial, fun _ => trivial⟩ fun _ => .bind upkeep_works.updateStatus fun _ => .pure
  have uploads (id : UInt32) (due : Bool) : Asks Effect.Works (do
      if due then Stage.remote.run (session.upload id material)
      return ⟨← Stage.remote.run (session.get .certificates id), material.fingerprint, due⟩ :
        Staged Converged) :=
    .doIf (.staged ⟨trivial, fun _ => trivial⟩) fun _ =>
      .bind (.staged ⟨trivial, fun _ => trivial⟩) fun _ => .pure
  split
  · exact .bind .pure fun id => uploads id _
  · exact .bind (.staged makes) fun id => uploads id _

end Reconcile

variable {kind : Kind} {context : Context} {subject : Resource kind}

/-- A pass on a resource that stays holds it back from deletion, and then works on it. -/
theorem reconcile_holds (remote : kind ≠ .token) (stays : subject.metadata.isDeleting = false) :
    ∃ work : Pass Action, reconcile context kind subject = (hold subject >>= fun _ => work) ∧
      Asks Effect.Works work := by
  have live : ¬subject.metadata.isDeleting = true := Bool.eq_false_iff.mp stays
  cases kind with
  | token => exact absurd rfl remote
  | proxyHost =>
      refine ⟨_, if_neg live, .bind ?_ fun _ => ?_⟩
      · exact ProxyHosts.begin_asks trivial (fun _ _ => trivial) fun _ => trivial
      · exact upkeep_works.finish (ProxyHosts.converge_inSession _).works fun _ => concludes_works
  | stream =>
      refine ⟨_, if_neg live, .bind ?_ fun _ => ?_⟩
      · exact Streams.begin_asks trivial (fun _ _ => trivial) fun _ => trivial
      · exact upkeep_works.finish (Streams.converge_inSession _).works fun _ => concludes_works
  | accessList =>
      refine ⟨_, if_neg live, upkeep_works.finish (AccessLists.converge_works _) fun _ => ?_⟩
      exact .doIf announceDone_works fun _ => concludes_works
  | letsEncryptCertificate =>
      refine ⟨_, if_neg live,
        upkeep_works.finish (LetsEncryptCertificates.converge_works _) fun _ => ?_⟩
      split
      · exact .bind announceDone_works fun _ => concludes_works
      · exact concludes_works
  | customCertificate =>
      refine ⟨_, if_neg live, upkeep_works.finish (CustomCertificates.converge_works _) fun _ => ?_⟩
      exact .doIf announceDone_works fun _ => concludes_works

/-- How far a pass has come on a resource that stays. -/
inductive Opened (subject : Resource kind) : List (Exchange Effects) → Running → Prop
  /-- Nothing was asked yet, and the first thing to ask is that the resource is held back. -/
  | unheld {next : Except Failure Unit → Running} (unheld : subject.isHeld = false) :
      Opened subject [] (.ask (.addFinalizer kind subject.metadata.spokenKey) next)
  /-- That failed, and so did the pass. -/
  | failed (unheld : subject.isHeld = false) (failure : Failure) :
      Opened subject [⟨.addFinalizer kind subject.metadata.spokenKey, .error failure⟩]
        (.done (.error failure))
  /-- It was held back before, or is now, and what is left has nothing to do with that. -/
  | held {log : List (Exchange Effects)} {rest : Running}
      (held : subject.isHeld = true ∨
        ⟨.addFinalizer kind subject.metadata.spokenKey, .ok ()⟩ ∈ log)
      (once : ∀ failure, ⟨.addFinalizer kind subject.metadata.spokenKey, .error failure⟩ ∉ log)
      (works : Program.Asks Effect.Works rest) : Opened subject log rest

/-- What a pass on a resource that stays asks next: that it is held back, first of all, or something that leaves
finalizers alone, after it was held back. -/
theorem Opened.asks {log : List (Exchange Effects)} {request : Effect}
    {next : request.Answer → Running} (opened : Opened subject log (.ask request next)) :
    (log = [] ∧ subject.isHeld = false ∧
      request = .addFinalizer kind subject.metadata.spokenKey) ∨
    ((subject.isHeld = true ∨ ⟨.addFinalizer kind subject.metadata.spokenKey, .ok ()⟩ ∈ log) ∧
      request.Works) := by
  cases opened with
  | unheld unheld => exact .inl ⟨rfl, unheld, rfl⟩
  | held held _ works => exact .inr ⟨held, works.1⟩

theorem Opened.halts {log : List (Exchange Effects)} {rest : Running} {failure : Failure}
    (opened : Opened subject log rest)
    (failed : ⟨.addFinalizer kind subject.metadata.spokenKey, .error failure⟩ ∈ log) :
    log = [⟨.addFinalizer kind subject.metadata.spokenKey, .error failure⟩] ∧
      rest = .done (.error failure) := by
  cases opened with
  | unheld => cases failed
  | failed _ other =>
      obtain ⟨_, same⟩ := Exchange.mk.inj (List.mem_singleton.mp failed)
      obtain rfl := Except.error.inj (eq_of_heq same)
      exact ⟨rfl, rfl⟩
  | held _ once => exact absurd failed (once failure)

theorem hold_held {work : Pass Action} (held : subject.isHeld = true) :
    (hold subject >>= fun _ => work) = work := by
  unfold hold
  rw [if_pos held, pure_bind]

theorem hold_unheld {work : Pass Action} (unheld : subject.isHeld = false) :
    (hold subject >>= fun _ => work).run =
      .ask (.addFinalizer kind subject.metadata.spokenKey) fun
        | .ok _ => work.run
        | .error failure => .done (.error failure) := by
  unfold hold
  rw [unheld]
  exact congrArg (Program.ask _) (funext fun answer => by cases answer <;> rfl)

theorem opened (remote : kind ≠ .token) (stays : subject.metadata.isDeleting = false)
    {log : List (Exchange Effects)} {rest : Running}
    (goes : Program.Goes (Conduct.free Effects) (reconcile context kind subject).run () log rest ()) :
    Opened subject log rest := by
  obtain ⟨work, same, works⟩ := @reconcile_holds _ context _ remote stays
  rw [same] at goes
  have unfailing {log : List (Exchange Effects)}
      (goes : Program.Goes (Conduct.free Effects) work.run () log rest ()) (failure : Failure) :
      ⟨.addFinalizer kind subject.metadata.spokenKey, .error failure⟩ ∉ log :=
    fun member => Program.Asks.exchanges works goes _ member
  cases held : subject.isHeld with
  | true =>
      rw [hold_held held] at goes
      exact .held (.inl held) (unfailing goes) (works.goes goes)
  | false =>
      rw [hold_unheld held] at goes
      cases goes with
      | here => exact .unheld held
      | @ask _ _ answer _ _ _ log _ _ further =>
          cases answer with
          | error failure =>
              cases further with
              | here => exact .failed held failure
          | ok done =>
              refine .held (.inr List.mem_cons_self) (fun failure member => ?_)
                (Program.Asks.goes further works)
              rcases List.mem_cons.mp member with same | later
              · cases same
              · exact unfailing further failure later

/-! ## Passes on resources that are deleted -/

theorem Effect.TakesLeave.works {effect : Effect} (leaves : effect.TakesLeave) : effect.Works := by
  rcases leaves with (seeks | connects) | remote | ⟨event, rfl⟩
  · exact .of_looks seeks.looks
  · exact .of_connects connects
  · cases effect <;> trivial
  · trivial

/-- A pass on a resource that is deleted asks for something only if the resource is held back, and then it
takes leave of the remote object before it lets go of the resource, once. -/
inductive Departs (context : Context) (subject : Resource kind) (log : List (Exchange Effects)) :
    Effect → Prop
  | leaves {effect : Effect} (leaves : effect.TakesLeave) : Departs context subject log effect
  | releases (leave : TakesLeave context subject log) :
      Departs context subject log (.removeFinalizer kind subject.metadata.spokenKey)

theorem departs (remote : kind ≠ .token) (deleted : subject.metadata.isDeleting = true)
    {log : List (Exchange Effects)} {request : Effect} {next : request.Answer → Running}
    (goes : Program.Goes (Conduct.free Effects) (reconcile context kind subject).run () log
      (.ask request next) ()) :
    subject.isHeld = true ∧ Departs context subject log request ∧
      ∀ exchange ∈ log, ∀ other key, exchange.request ≠ .removeFinalizer other key := by
  let answer := request.nonempty_answer.some
  have further : Program.Goes (Conduct.free Effects) (reconcile context kind subject).run ()
      (log ++ [⟨request, answer⟩]) (next answer) () := goes.snoc trivial
  obtain ⟨⟨later, outcome, ends⟩, dismissed⟩ := deletion_dismisses remote deleted further
  have whole := dismissed later outcome ends
  rw [List.append_assoc, List.singleton_append] at whole
  have held : subject.isHeld = true := by
    refine Bool.eq_true_of_not_eq_false fun unheld => ?_
    have nothing := (whole.unheld unheld).1
    exact List.cons_ne_nil _ _ (List.append_eq_nil_iff.mp nothing).2
  obtain ⟨earlier, last, split, keeps, _, leave⟩ := whole.held held
  refine ⟨held, ?_⟩
  rcases List.eq_nil_or_concat later with rfl | ⟨others, final, rfl⟩
  · obtain ⟨rfl, same⟩ := List.append_inj' split rfl
    obtain ⟨rfl, _⟩ := Exchange.mk.inj (List.cons.inj same).1
    exact ⟨.releases leave, keeps⟩
  · rw [List.concat_eq_append, ← List.cons_append, ← List.append_assoc] at split
    obtain ⟨rfl, _⟩ := List.append_inj' split rfl
    have asked : ⟨request, answer⟩ ∈ log ++ ⟨request, answer⟩ :: others :=
      List.mem_append_right _ List.mem_cons_self
    exact ⟨.leaves (leave.asked _ asked), fun exchange member =>
      keeps exchange (List.mem_append_left _ member)⟩

end ProxyOperator
