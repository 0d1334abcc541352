import Mathlib.Data.List.Forall2
import ProxyOperator.Proofs.Attempt
/-!
Programs run in worlds that answer every request. What a run comes to is what it ends with, all that it asked
and was answered, and the world that it leaves. Two runs are compared request by request, and by their ends.
-/
namespace ProxyOperator

open Attempt

/-- How a world answers, and what becomes of it then. -/
abbrev Respondent (σ : Type) := σ → (effect : Effect) → effect.Answer × σ

/-- What a program comes to in a world. -/
structure Stay (σ α : Type) where
  outcome : α
  log : List (Exchange Effects)
  after : σ

/-- Both are values that are alike, or failures that are. -/
inductive Attempt.Matches {ε ε' α β : Type} (values : α → β → Prop) (failures : ε → ε' → Prop) :
    Except ε α → Except ε' β → Prop
  | ok {value : α} {result : β} (alike : values value result) :
      Matches values failures (.ok value) (.ok result)
  | error {failure : ε} {other : ε'} (alike : failures failure other) :
      Matches values failures (.error failure) (.error other)

namespace Stay

variable {σ α β : Type}

def requests (stay : Stay σ α) : List Effect := stay.log.map (·.request)

/-- Two programs come to what is alike: request by request, in what they end with, and in the worlds that
they leave. -/
structure Alike (asked : Effect → Effect → Prop) (states : σ → σ → Prop) (ends : α → β → Prop)
    (one : Stay σ α) (other : Stay σ β) : Prop where
  requests : List.Forall₂ asked one.requests other.requests
  after : states one.after other.after
  outcome : ends one.outcome other.outcome

theorem Alike.refl (stay : Stay σ α) : Alike Eq Eq Eq stay stay :=
  ⟨List.forall₂_same.mpr fun _ _ => rfl, rfl, rfl⟩

theorem Alike.mono {asked wider : Effect → Effect → Prop} {states laxer : σ → σ → Prop}
    {ends weaker : α → β → Prop} {one : Stay σ α} {other : Stay σ β}
    (alike : Alike asked states ends one other)
    (implies : ∀ first second, asked first second → wider first second)
    (leaves : ∀ first second, states first second → laxer first second)
    (concludes : ∀ first second, ends first second → weaker first second) :
    Alike wider laxer weaker one other :=
  ⟨alike.requests.imp fun {_ _} => implies _ _, leaves _ _ alike.after, concludes _ _ alike.outcome⟩

end Stay

namespace Respondent

variable {σ α β : Type} {here there : Respondent σ} {allowed : Effect → Prop}

def stay (respond : Respondent σ) : Program Effects α → σ → Stay σ α
  | .done value, state => ⟨value, [], state⟩
  | .ask request next, state =>
      let (answer, after) := respond state request
      let further := stay respond (next answer) after
      { further with log := ⟨request, answer⟩ :: further.log }

theorem stay_ask (respond : Respondent σ) (request : Effect)
    (next : request.Answer → Program Effects α) (state : σ) :
    respond.stay (.ask request next) state =
      { respond.stay (next (respond state request).1) (respond state request).2 with
        log := ⟨request, (respond state request).1⟩ ::
          (respond.stay (next (respond state request).1) (respond state request).2).log } := rfl

/-- Worlds that answer the requests of a program in the same way are the same to it. -/
theorem stay_eq (same : ∀ state effect, allowed effect → here state effect = there state effect)
    {program : Program Effects α} (asks : Program.Asks allowed program) (state : σ) :
    here.stay program state = there.stay program state := by
  induction program generalizing state with
  | done value => rfl
  | ask request next induction =>
      rw [stay_ask, stay_ask, same state request asks.1, induction _ (asks.2 _)]

theorem stay_bind (respond : Respondent σ) (program : Program Effects α)
    (next : α → Program Effects β) (state : σ) :
    respond.stay (program >>= next) state =
      let first := respond.stay program state
      let rest := respond.stay (next first.outcome) first.after
      { rest with log := first.log ++ rest.log } := by
  induction program generalizing state with
  | done value => rfl
  | ask request further induction =>
      change respond.stay (.ask request fun answer => (further answer) >>= next) state = _
      rw [stay_ask, stay_ask, induction]
      rfl

/-! ## Two runs -/

section

variable {γ δ ε ε' : Type} {asked : Effect → Effect → Prop} {states left : σ → σ → Prop}
  {ends : α → β → Prop} {failures : ε → ε' → Prop} {state other : σ}

theorem alike_done {value : α} {result : β} (leaves : states state other) (same : ends value result) :
    Stay.Alike asked states ends (here.stay (.done value) state) (there.stay (.done result) other) :=
  ⟨.nil, leaves, same⟩

theorem alike_ask {request question : Effect} {next : request.Answer → Program Effects α}
    {further : question.Answer → Program Effects β} (same : asked request question)
    (rest : Stay.Alike asked states ends
      (here.stay (next (here state request).1) (here state request).2)
      (there.stay (further (there other question).1) (there other question).2)) :
    Stay.Alike asked states ends (here.stay (.ask request next) state)
      (there.stay (.ask question further) other) :=
  ⟨.cons same rest.requests, rest.after, rest.outcome⟩

/-- Programs that are alike so far, and go on so from where they are. -/
theorem alike_append {program : Program Effects α} {next : α → Program Effects γ}
    {second : Program Effects β} {further : β → Program Effects δ} {concludes : γ → δ → Prop}
    (alike : Stay.Alike asked states ends (here.stay program state) (there.stay second other))
    (rest : Stay.Alike asked left concludes
      (here.stay (next (here.stay program state).outcome) (here.stay program state).after)
      (there.stay (further (there.stay second other).outcome) (there.stay second other).after)) :
    Stay.Alike asked left concludes (here.stay (program >>= next) state)
      (there.stay (second >>= further) other) := by
  rw [stay_bind, stay_bind]
  refine ⟨?_, rest.after, rest.outcome⟩
  unfold Stay.requests
  rw [List.map_append, List.map_append]
  exact List.rel_append alike.requests rest.requests

theorem alike_bind {program : Program Effects α} {next : α → Program Effects γ}
    {second : Program Effects β} {further : β → Program Effects δ} {concludes : γ → δ → Prop}
    (alike : Stay.Alike asked states ends (here.stay program state) (there.stay second other))
    (rest : ∀ value result after later, ends value result → states after later →
      Stay.Alike asked left concludes (here.stay (next value) after)
        (there.stay (further result) later)) :
    Stay.Alike asked left concludes (here.stay (program >>= next) state)
      (there.stay (second >>= further) other) :=
  alike_append alike (rest _ _ _ _ alike.outcome alike.after)

/-- Attempts that are alike so far: where they fail, they end so, and otherwise go on. -/
theorem alike_next {attempt : Attempt ε α} {next : α → Attempt ε γ} {second : Attempt ε' β}
    {further : β → Attempt ε' δ} {results : γ → δ → Prop}
    (alike : Stay.Alike asked states (Matches ends failures) (here.stay attempt.run state)
      (there.stay second.run other))
    (rest : ∀ value result after later, ends value result → states after later →
      Stay.Alike asked states (Matches results failures) (here.stay (next value).run after)
        (there.stay (further result).run later)) :
    Stay.Alike asked states (Matches results failures) (here.stay (attempt >>= next).run state)
      (there.stay (second >>= further).run other) := by
  refine alike_bind alike fun outcome result after later ends leaves => ?_
  cases ends with
  | ok same => exact rest _ _ _ _ same leaves
  | error same => exact alike_done leaves (.error same)

/-- Attempts whose ends are looked at do not fail. -/
theorem alike_outcome {attempt : Attempt ε α} {second : Attempt ε' β}
    {ends : Except ε α → Except ε' β → Prop}
    (alike : Stay.Alike asked states ends (here.stay attempt.run state) (there.stay second.run other))
    {κ κ' : Type} {failures : κ → κ' → Prop} :
    Stay.Alike asked states (Matches ends failures)
      (here.stay (ExceptT.lift attempt.run : Attempt κ (Except ε α)).run state)
      (there.stay (ExceptT.lift second.run : Attempt κ' (Except ε' β)).run other) :=
  alike_bind alike fun _ _ _ _ same leaves => alike_done leaves (.ok same)

/-- Attempts that come to the same where worlds are alike, and leave them alike, do so when they are made
again and again. -/
theorem alike_retry {policy : Retry} {accepts : Failure → Bool} {action second : Pass α}
    (attempt : ∀ before later, states before later →
      Stay.Alike asked states Eq (here.stay action.run before) (there.stay second.run later))
    (waits : ∀ time, asked (.pause time) (.pause time))
    (wait : ∀ before later time, states before later →
      states (here before (.pause time)).2 (there later (.pause time)).2)
    (start : states state other) :
    Stay.Alike asked states Eq (here.stay (Pass.retry policy accepts action).run state)
      (there.stay (Pass.retry policy accepts second).run other) := by
  have rounds : ∀ left number before later, states before later →
      Stay.Alike asked states Eq
        (here.stay (Pass.retryFrom policy accepts action left number).run before)
        (there.stay (Pass.retryFrom policy accepts second left number).run later) := by
    intro left
    induction left with
    | zero => exact fun _ => attempt
    | succ left induction =>
        intro number before later begins
        refine alike_bind (attempt before later begins) fun outcome result after last ends leaves => ?_
        subst ends
        split
        · exact alike_ask (waits _) (induction (number + 1) _ _ (wait _ _ _ leaves))
        · exact alike_done leaves rfl
  exact rounds _ _ state other start

end

end Respondent

end ProxyOperator
