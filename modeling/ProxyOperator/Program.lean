/-!
Programs that ask the outside world for something and go on with what it answers. A program says
nothing about where its answers come from: it is run by giving it a way of answering.
-/
namespace ProxyOperator

structure Interface where
  Request : Type
  Answer : Request → Type

/-- A program that ends with a value, after any number of requests. -/
inductive Program (interface : Interface) (α : Type) : Type where
  | done (value : α)
  | ask (request : interface.Request) (next : interface.Answer request → Program interface α)

namespace Program

variable {interface : Interface} {α β γ : Type}

def bind : Program interface α → (α → Program interface β) → Program interface β
  | .done value, next => next value
  | .ask request further, next => .ask request fun answer => (further answer).bind next

instance : Monad (Program interface) where
  pure := .done
  bind := bind

def request (request : interface.Request) : Program interface (interface.Answer request) :=
  .ask request .done

def run {m : Type → Type} [Monad m]
    (answer : (request : interface.Request) → m (interface.Answer request)) :
    Program interface α → m α
  | .done value => pure value
  | .ask request next => do (next (← answer request)).run answer

/-! ## Laws -/

@[simp] theorem bind_done (program : Program interface α) : program.bind .done = program := by
  induction program with
  | done value => rfl
  | ask request next induction => simp only [bind, induction]

theorem bind_bind (program : Program interface α) (first : α → Program interface β)
    (second : β → Program interface γ) :
    (program.bind first).bind second = program.bind fun value => (first value).bind second := by
  induction program with
  | done value => rfl
  | ask request next induction => simp only [bind, induction]

instance : LawfulMonad (Program interface) :=
  LawfulMonad.mk' (Program interface)
    (fun program => bind_done program)
    (fun _ _ => rfl)
    (fun program first second => bind_bind program first second)

/-- To run one program after another is to run what they are together. -/
theorem run_bind {m : Type → Type} [Monad m] [LawfulMonad m]
    (answer : (request : interface.Request) → m (interface.Answer request))
    (program : Program interface α) (next : α → Program interface β) :
    (program >>= next).run answer = program.run answer >>= fun value => (next value).run answer := by
  induction program with
  | done value => exact (pure_bind value fun value => (next value).run answer).symm
  | ask request further induction =>
      simp only [run, bind_assoc]
      exact congrArg (answer request >>= ·) (funext induction)

end Program

end ProxyOperator
