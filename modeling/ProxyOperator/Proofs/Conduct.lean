import ProxyOperator.Program
/-!
Programs in worlds that are not bound to one way of answering. A conduct says which answers a world may
give and what becomes of the world; `Goes` follows a program through such answers, and `Meets` says of
a program what every exchange and every end of it live up to, whatever it is answered.
-/
namespace ProxyOperator

structure Exchange (interface : Interface) where
  request : interface.Request
  answer : interface.Answer request

/-- What a world may do when it is asked something: in a state, an exchange may leave another state. -/
abbrev Conduct (interface : Interface) (σ : Type) := σ → Exchange interface → σ → Prop

namespace Program

variable {interface : Interface} {σ α β : Type}

/-- A program can get so far: through the exchanges of `log`, until `rest` of it is left. -/
inductive Goes (conduct : Conduct interface σ) :
    Program interface α → σ → List (Exchange interface) → Program interface α → σ → Prop
  | here (program : Program interface α) (state : σ) : Goes conduct program state [] program state
  | ask {request : interface.Request} {next : interface.Answer request → Program interface α}
      {answer : interface.Answer request} {state between after : σ}
      {log : List (Exchange interface)} {rest : Program interface α}
      (answered : conduct state ⟨request, answer⟩ between)
      (further : Goes conduct (next answer) between log rest after) :
      Goes conduct (.ask request next) state (⟨request, answer⟩ :: log) rest after

/-- Every exchange of a program lives up to `step`, and every end of it to `ends`. -/
def Meets (conduct : Conduct interface σ) (step : σ → Exchange interface → σ → Prop)
    (ends : α → σ → Prop) : Program interface α → σ → Prop
  | .done value, state => ends value state
  | .ask request next, state =>
      ∀ answer after, conduct state ⟨request, answer⟩ after →
        step state ⟨request, answer⟩ after ∧ Meets conduct step ends (next answer) after

def Asks (allowed : interface.Request → Prop) : Program interface α → Prop
  | .done _ => True
  | .ask request next => allowed request ∧ ∀ answer, Asks allowed (next answer)

section

variable {conduct : Conduct interface σ} {step : σ → Exchange interface → σ → Prop}
  {ends : α → σ → Prop} {program : Program interface α} {state : σ}

/-! ## Ways through a program -/

/-- Whatever a program lives up to, what is left of it does so too. -/
theorem Meets.goes {log : List (Exchange interface)} {rest : Program interface α} {after : σ}
    (goes : Goes conduct program state log rest after) (meets : Meets conduct step ends program state) :
    Meets conduct step ends rest after := by
  induction goes with
  | here => exact meets
  | ask answered _ induction => exact induction (meets _ _ answered).2

/-! ## What programs live up to -/

theorem Meets.mono {weaker : α → σ → Prop} (implies : ∀ value after, ends value after →
    weaker value after) (meets : Meets conduct step ends program state) :
    Meets conduct step weaker program state := by
  induction program generalizing state with
  | done value => exact implies value state meets
  | ask request next induction =>
      intro answer after answered
      have ⟨kept, further⟩ := meets answer after answered
      exact ⟨kept, induction answer further⟩

theorem Meets.bind {next : α → Program interface β} {ends : β → σ → Prop}
    (meets : Meets conduct step (fun value after => Meets conduct step ends (next value) after)
      program state) :
    Meets conduct step ends (program >>= next) state := by
  induction program generalizing state with
  | done value => exact meets
  | ask request further induction =>
      intro answer after answered
      have ⟨kept, rest⟩ := meets answer after answered
      exact ⟨kept, induction answer rest⟩

/-- What a program lives up to in a part of a world it lives up to in the world. -/
theorem Meets.view {τ : Type} {inner : Conduct interface τ} {view : σ → τ}
    {innerStep : τ → Exchange interface → τ → Prop} {innerEnds : α → τ → Prop}
    (views : ∀ before exchange after, conduct before exchange after →
      inner (view before) exchange (view after))
    (meets : Meets inner innerStep innerEnds program (view state)) :
    Meets conduct (fun before exchange after => innerStep (view before) exchange (view after))
      (fun value after => innerEnds value (view after)) program state := by
  induction program generalizing state with
  | done value => exact meets
  | ask request next induction =>
      intro answer after answered
      have ⟨kept, further⟩ := meets answer (view after) (views _ _ _ answered)
      exact ⟨kept, induction answer further⟩

/-- Every exchange is one that the program asks for, in a world of which something stays so. -/
theorem Meets.and_asks {allowed : interface.Request → Prop}
    {both : σ → Exchange interface → σ → Prop} (stays : σ → Prop) (asks : Asks allowed program)
    (keeps : ∀ before exchange after, stays before → conduct before exchange after → stays after)
    (implies : ∀ before exchange after, stays before → allowed exchange.request →
      step before exchange after → both before exchange after)
    (start : stays state) (meets : Meets conduct step ends program state) :
    Meets conduct both ends program state := by
  induction program generalizing state with
  | done value => exact meets
  | ask request next induction =>
      intro answer after answered
      have ⟨kept, further⟩ := meets answer after answered
      exact ⟨implies _ _ _ start asks.1 kept,
        induction answer (asks.2 answer) (keeps _ _ _ start answered) further⟩

/-- In a world of which something stays so, more may be said of every exchange. -/
theorem Meets.within {more : σ → Exchange interface → σ → Prop} (stays : σ → Prop)
    (keeps : ∀ before exchange after, stays before → conduct before exchange after →
      step before exchange after → more before exchange after ∧ stays after)
    (start : stays state) (meets : Meets conduct step ends program state) :
    Meets conduct more ends program state := by
  induction program generalizing state with
  | done value => exact meets
  | ask request next induction =>
      intro answer after answered
      have ⟨kept, further⟩ := meets answer after answered
      have ⟨more, stayed⟩ := keeps _ _ _ start answered kept
      exact ⟨more, induction answer stayed further⟩

/-- What a program lives up to in two ways it lives up to in both. -/
theorem Meets.both {other : σ → Exchange interface → σ → Prop} {others : α → σ → Prop}
    (meets : Meets conduct step ends program state)
    (again : Meets conduct other others program state) :
    Meets conduct (fun before exchange after =>
        step before exchange after ∧ other before exchange after)
      (fun value after => ends value after ∧ others value after) program state := by
  induction program generalizing state with
  | done value => exact ⟨meets, again⟩
  | ask request next induction =>
      intro answer after answered
      have ⟨kept, further⟩ := meets answer after answered
      have ⟨also, rest⟩ := again answer after answered
      exact ⟨⟨kept, also⟩, induction answer further rest⟩

/-- A program of harmless requests keeps what each of them keeps. -/
theorem Meets.of_asks {allowed : interface.Request → Prop} {stays : σ → Prop}
    (asks : Asks allowed program)
    (keeps : ∀ before exchange after, allowed exchange.request → stays before →
      conduct before exchange after → step before exchange after ∧ stays after)
    (start : stays state) : Meets conduct step (fun _ after => stays after) program state := by
  induction program generalizing state with
  | done value => exact start
  | ask request next induction =>
      intro answer after answered
      have ⟨kept, stayed⟩ := keeps state _ after asks.1 start answered
      exact ⟨kept, induction answer (asks.2 answer) stayed⟩

end

/-! ## What programs ask -/

/-- Of some programs nothing need be known. -/
theorem Asks.anything (program : Program interface α) : Asks (fun _ => True) program := by
  induction program with
  | done value => trivial
  | ask request next induction => exact ⟨trivial, induction⟩

theorem Asks.mono {allowed wider : interface.Request → Prop}
    (implies : ∀ request, allowed request → wider request) {program : Program interface α}
    (asks : Asks allowed program) : Asks wider program := by
  induction program with
  | done value => trivial
  | ask request next induction =>
      exact ⟨implies request asks.1, fun answer => induction answer (asks.2 answer)⟩

theorem Asks.bind {allowed : interface.Request → Prop} {program : Program interface α}
    {next : α → Program interface β} (first : Asks allowed program)
    (rest : ∀ value, Asks allowed (next value)) : Asks allowed (program >>= next) := by
  induction program with
  | done value => exact rest value
  | ask request further induction =>
      exact ⟨first.1, fun answer => induction answer (first.2 answer)⟩

end Program

end ProxyOperator
