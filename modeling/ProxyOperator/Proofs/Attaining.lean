import ProxyOperator.Proofs.Candour
import ProxyOperator.Proofs.Logs
/-!
Programs that are sure to get where they should. Whatever such a program is answered, there is an answer to
all that it asks, it asks nothing but what is allowed, and it comes to an end of the kind that is wanted.
-/
namespace ProxyOperator

namespace Program

variable {interface : Interface} {σ α β : Type}

def Attains (conduct : Conduct interface σ) (allowed : interface.Request → Prop)
    (ends : α → σ → Prop) : Program interface α → σ → Prop
  | .done value, state => ends value state
  | .ask request next, state =>
      allowed request ∧ (∃ answer after, conduct state ⟨request, answer⟩ after) ∧
        ∀ answer after, conduct state ⟨request, answer⟩ after →
          Attains conduct allowed ends (next answer) after

namespace Attains

variable {conduct : Conduct interface σ} {allowed : interface.Request → Prop} {ends : α → σ → Prop}
  {program rest : Program interface α} {state after : σ} {log : List (Exchange interface)}

theorem mono {weaker : α → σ → Prop}
    (implies : ∀ value after, ends value after → weaker value after)
    (attains : Attains conduct allowed ends program state) :
    Attains conduct allowed weaker program state := by
  induction program generalizing state with
  | done value => exact implies value state attains
  | ask request next induction =>
      obtain ⟨asked, answers, further⟩ := attains
      exact ⟨asked, answers, fun answer after answered => induction answer (further answer after answered)⟩

theorem bind {next : α → Program interface β} {ends : β → σ → Prop}
    (attains : Attains conduct allowed
      (fun value after => Attains conduct allowed ends (next value) after) program state) :
    Attains conduct allowed ends (program >>= next) state := by
  induction program generalizing state with
  | done value => exact attains
  | ask request others induction =>
      obtain ⟨asked, answers, further⟩ := attains
      exact ⟨asked, answers, fun answer after answered => induction answer (further answer after answered)⟩

/-- What is left of a program on any way gets there too, and nothing was asked that is not allowed. -/
theorem goes (attains : Attains conduct allowed ends program state)
    (goes : Goes conduct program state log rest after) :
    Attains conduct allowed ends rest after ∧ ∀ exchange ∈ log, allowed exchange.request := by
  induction goes with
  | here => exact ⟨attains, fun _ member => nomatch member⟩
  | @ask request _ answer _ _ _ _ _ answered _ induction =>
      obtain ⟨asked, _, further⟩ := attains
      obtain ⟨left, others⟩ := induction (further _ _ answered)
      refine ⟨left, fun exchange member => ?_⟩
      rcases List.mem_cons.mp member with rfl | later
      · exact asked
      · exact others exchange later

theorem exists_end (attains : Attains conduct allowed ends program state) :
    ∃ log value after, Goes conduct program state log (.done value) after ∧ ends value after := by
  induction program generalizing state with
  | done value => exact ⟨[], value, state, .here _ _, attains⟩
  | ask request next induction =>
      obtain ⟨_, ⟨answer, between, answered⟩, further⟩ := attains
      obtain ⟨log, value, after, goes, ended⟩ := induction answer (further answer between answered)
      exact ⟨_, value, after, .ask answered goes, ended⟩

end Attains

end Program

namespace Attempt

variable {ε ε' α β σ : Type}

/-- An attempt is sure to succeed, with what is wanted of its value and of the world then. -/
def Attains (conduct : Conduct Effects σ) (allowed : Effect → Prop) (ok : α → σ → Prop)
    (attempt : Attempt ε α) (state : σ) : Prop :=
  Program.Attains conduct allowed (Ends ok fun _ _ => False) attempt.run state

namespace Attains

variable {conduct : Conduct Effects σ} {allowed : Effect → Prop} {ok : α → σ → Prop} {state : σ}

theorem mono {attempt : Attempt ε α} {weaker : α → σ → Prop}
    (implies : ∀ value after, ok value after → weaker value after)
    (attains : Attains conduct allowed ok attempt state) :
    Attains conduct allowed weaker attempt state := by
  refine Program.Attains.mono (fun outcome after ends => ?_) attains
  cases outcome with
  | ok value => exact implies value after ends
  | error failure => exact ends

theorem pure {value : α} (holds : ok value state) :
    Attains conduct allowed ok (Pure.pure value : Attempt ε α) state := holds

theorem bind {attempt : Attempt ε α} {next : α → Attempt ε β} {ok : β → σ → Prop}
    (attains : Attains conduct allowed
      (fun value after => Attains conduct allowed ok (next value) after) attempt state) :
    Attains conduct allowed ok (attempt >>= next) state := by
  refine Program.Attains.bind (Program.Attains.mono (fun outcome after ends => ?_) attains)
  cases outcome with
  | ok value => exact ends
  | error failure => exact ends.elim

theorem outcome {attempt : Attempt ε α} {ok : Except ε α → σ → Prop}
    (attains : Attains conduct allowed (fun value after => ok (.ok value) after) attempt state) :
    Attains conduct allowed ok (ExceptT.lift attempt.run : Attempt ε' (Except ε α)) state := by
  refine Program.Attains.bind (Program.Attains.mono (fun outcome after ends => ?_) attains)
  cases outcome with
  | ok value => exact ends
  | error failure => exact ends.elim

theorem staged {stage : Stage} {pass : Pass α} (attains : Attains conduct allowed ok pass state) :
    Attains conduct allowed ok (stage.run pass) state := by
  refine Program.Attains.bind (Program.Attains.mono (fun outcome after ends => ?_) attains)
  cases outcome with
  | ok value => exact ends
  | error failure => exact ends.elim

/-- What succeeds is not attempted a second time. -/
theorem retry {policy : Retry} {accepts : Failure → Bool} {action : Pass α}
    (attains : Attains conduct allowed ok action state) :
    Attains conduct allowed ok (Pass.retry policy accepts action) state := by
  unfold Pass.retry
  cases policy.maxAttempts - 1 with
  | zero => exact attains
  | succ left =>
      refine Program.Attains.bind (Program.Attains.mono (fun outcome after ends => ?_) attains)
      cases outcome with
      | ok value => exact ends
      | error failure => exact ends.elim

/-- A pass is sure to succeed if that which it is for does, and what follows that. -/
theorem finish {kind : Kind} {context : Context} {resource : Resource kind} {converge : Staged α}
    {succeed : α → Pass Action} {ok : Action → σ → Prop}
    (attains : Attains conduct allowed
      (fun outcome after => Attains conduct allowed ok (succeed outcome) after) converge state) :
    Attains conduct allowed ok (Reconcile.finish context resource converge succeed) state := by
  apply Attains.bind
  apply Attains.outcome
  exact attains

/-- A candid attempt that comes to a value in a world that stands still is sure to come to it wherever all
that does not fail in that world is answered in the same way, and changes nothing. -/
theorem survey {world : Standstill} {asked : Effect → Prop} {attempt : Attempt ε α} {value : α}
    (candid : Candid attempt) (asks : Asks asked attempt)
    (answers : ∀ effect, asked effect → effect.failure? (world effect) = none →
      allowed effect ∧ conduct state ⟨effect, world effect⟩ state ∧
        ∀ answer after, conduct state ⟨effect, answer⟩ after → answer = world effect ∧ after = state)
    (comes : under world attempt = .ok value) (holds : ok value state) :
    Attains conduct allowed ok attempt state := by
  have rest : ∀ program : Program Effects (Except ε α), Program.Candid program →
      Program.Asks asked program → Program.run (m := Id) world program = .ok value →
      Program.Attains conduct allowed (Ends ok fun _ _ => False) program state := by
    intro program
    induction program with
    | done outcome =>
        rintro _ _ ⟨⟩
        exact holds
    | ask effect next induction =>
        intro candid asks comes
        have succeeds : effect.failure? (world effect) = none := by
          cases failed : effect.failure? (world effect) with
          | none => rfl
          | some failure =>
              obtain ⟨_, ends⟩ := (candid (world effect)).2 (by rw [failed]; rfl)
              change Program.run (m := Id) world (next (world effect)) = _ at comes
              rw [ends] at comes
              cases comes
        obtain ⟨permitted, served, only⟩ := answers effect asks.1 succeeds
        refine ⟨permitted, ⟨_, _, served⟩, fun answer after answered => ?_⟩
        obtain ⟨rfl, rfl⟩ := only answer after answered
        exact induction _ (candid _).1 (asks.2 _) comes
  exact rest attempt.run candid asks comes

end Attains

end Attempt

end ProxyOperator
