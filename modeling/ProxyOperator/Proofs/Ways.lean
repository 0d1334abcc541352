import ProxyOperator.Proofs.Attempt
/-!
Ways that come to an end. A way through parts that follow each other goes through the first one to its end
and then through the next one, and what was exchanged on a way settles where it ends.
-/
namespace ProxyOperator

namespace Program

variable {interface : Interface} {σ τ α β : Type} {conduct : Conduct interface σ} {state after : σ}
  {program : Program interface α} {log : List (Exchange interface)}

theorem Goes.of_done {value ended : α}
    (goes : Goes conduct (.done value) state log (.done ended) after) :
    log = [] ∧ ended = value ∧ after = state := by
  cases goes with
  | here => exact ⟨rfl, rfl, rfl⟩

theorem Goes.append {between : σ} {first second : List (Exchange interface)}
    {middle rest : Program interface α} (goes : Goes conduct program state first middle between)
    (further : Goes conduct middle between second rest after) :
    Goes conduct program state (first ++ second) rest after := by
  induction goes with
  | here => exact further
  | ask answered _ induction => exact .ask answered (induction further)

theorem Goes.bind {rest : Program interface α} {next : α → Program interface β}
    (goes : Goes conduct program state log rest after) :
    Goes conduct (program >>= next) state log (rest >>= next) after := by
  induction goes with
  | here => exact .here _ _
  | ask answered _ induction => exact .ask answered induction

/-- A way through two programs one after the other goes through the first, and on from its value. -/
theorem Goes.of_bind {next : α → Program interface β} {value : β}
    (goes : Goes conduct (program >>= next) state log (.done value) after) :
    ∃ middle between first second, Goes conduct program state first (.done middle) between ∧
      Goes conduct (next middle) between second (.done value) after ∧ log = first ++ second := by
  induction program generalizing state log with
  | done middle => exact ⟨middle, state, [], log, .here _ _, goes, rfl⟩
  | ask request further induction =>
      cases goes with
      | @ask _ _ answer _ between _ later _ answered goes =>
          have ⟨middle, last, first, second, begun, ended, split⟩ := induction answer goes
          exact ⟨middle, last, ⟨request, answer⟩ :: first, second, .ask answered begun, ended,
            congrArg (_ :: ·) split⟩

/-- Of two ways to ends of a program, none goes on where the other one has ended. -/
theorem Goes.same_end {other : Conduct interface τ} {start last : τ} {value ended : α}
    {seen rest later : List (Exchange interface)}
    (goes : Goes conduct program state log (.done value) after)
    (again : Goes other program start seen (.done ended) last)
    (same : log ++ rest = seen ++ later) : log = seen ∧ value = ended := by
  induction program generalizing state start log seen with
  | done _ =>
      obtain ⟨rfl, rfl, _⟩ := goes.of_done
      obtain ⟨rfl, rfl, _⟩ := again.of_done
      exact ⟨rfl, rfl⟩
  | ask request further induction =>
      cases goes with
      | ask _ goes =>
          cases again with
          | ask _ again =>
              obtain ⟨first, others⟩ := List.cons.inj same
              obtain ⟨_, answers⟩ := Exchange.mk.inj first
              obtain rfl := eq_of_heq answers
              obtain ⟨rfl, ends⟩ := induction _ goes again others
              exact ⟨rfl, ends⟩

/-- Where there is an answer to everything, every program can be brought to an end. -/
theorem exists_end (answers : ∀ state request, ∃ answer after, conduct state ⟨request, answer⟩ after)
    (program : Program interface α) (state : σ) :
    ∃ log value after, Goes conduct program state log (.done value) after := by
  induction program generalizing state with
  | done value => exact ⟨[], value, state, .here _ _⟩
  | ask request next induction =>
      have ⟨answer, between, answered⟩ := answers state request
      have ⟨log, value, after, goes⟩ := induction answer between
      exact ⟨_, value, after, .ask answered goes⟩

end Program

namespace Attempt

variable {ε ε' α β σ : Type} {conduct : Conduct Effects σ} {state after : σ}
  {log : List (Exchange Effects)}

/-- An attempt can come to an outcome, through the exchanges of `log`. -/
def Concludes (conduct : Conduct Effects σ) (attempt : Attempt ε α) (state : σ)
    (log : List (Exchange Effects)) (outcome : Except ε α) (after : σ) : Prop :=
  Program.Goes conduct attempt.run state log (.done outcome) after

namespace Concludes

theorem of_pure {value : α} {outcome : Except ε α}
    (concludes : Concludes conduct (pure value) state log outcome after) :
    log = [] ∧ outcome = .ok value ∧ after = state :=
  Program.Goes.of_done concludes

theorem of_throw {failure : ε} {outcome : Except ε α}
    (concludes : Concludes conduct (throw failure) state log outcome after) :
    log = [] ∧ outcome = .error failure ∧ after = state :=
  Program.Goes.of_done concludes

/-- Of two attempts one after the other the first one fails, or it succeeds and the second one settles the
outcome. -/
theorem of_bind {attempt : Attempt ε α} {next : α → Attempt ε β} {outcome : Except ε β}
    (concludes : Concludes conduct (attempt >>= next) state log outcome after) :
    (∃ failure, Concludes conduct attempt state log (.error failure) after ∧
      outcome = .error failure) ∨
    ∃ value between first second, Concludes conduct attempt state first (.ok value) between ∧
      Concludes conduct (next value) between second outcome after ∧ log = first ++ second := by
  have ⟨result, between, first, second, begun, ended, split⟩ := Program.Goes.of_bind concludes
  cases result with
  | ok value => exact .inr ⟨value, between, first, second, begun, ended, split⟩
  | error failure =>
      obtain ⟨rfl, rfl, rfl⟩ := ended.of_done
      rw [List.append_nil] at split
      exact .inl ⟨failure, split ▸ begun, rfl⟩

theorem bind {attempt : Attempt ε α} {next : α → Attempt ε β} {value : α} {between : σ}
    {later : List (Exchange Effects)} {outcome : Except ε β}
    (concludes : Concludes conduct attempt state log (.ok value) between)
    (further : Concludes conduct (next value) between later outcome after) :
    Concludes conduct (attempt >>= next) state (log ++ later) outcome after :=
  Program.Goes.append (Program.Goes.bind concludes) further

theorem of_outcome {attempt : Attempt ε α} {outcome : Except ε' (Except ε α)}
    (concludes : Concludes conduct (ExceptT.lift attempt.run) state log outcome after) :
    ∃ result, Concludes conduct attempt state log result after ∧ outcome = .ok result := by
  have ⟨result, between, first, second, begun, ended, split⟩ := Program.Goes.of_bind concludes
  obtain ⟨rfl, rfl, rfl⟩ := ended.of_done
  rw [List.append_nil] at split
  exact ⟨result, split ▸ begun, rfl⟩

theorem of_ask {effect : Effect} {value : effect.Answer}
    (goes : Program.Goes conduct effect.ask state log (.done value) after) :
    log = [⟨effect, value⟩] ∧ conduct state ⟨effect, value⟩ after := by
  cases goes with
  | ask answered ended =>
      obtain ⟨rfl, rfl, rfl⟩ := ended.of_done
      exact ⟨rfl, answered⟩

/-- What is told is heard, and nothing can stop there. -/
theorem of_announce {kind : Kind} {resource : Resource kind} {type : EventType}
    {reason action : String} {note : Option String} {next : Unit → Pass α}
    {outcome : Except Failure α}
    (concludes : Concludes conduct (Reconcile.announce resource type reason action note >>= next)
      state log outcome after) :
    ∃ between later,
      log = ⟨.publish ⟨resource.reference, type, reason, action, note⟩, ()⟩ :: later ∧
      Concludes conduct (next ()) between later outcome after := by
  cases concludes with
  | ask _ further => exact ⟨_, _, rfl, further⟩

end Concludes
end Attempt

end ProxyOperator
