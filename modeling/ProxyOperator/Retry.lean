/-!
Trying again. After a failure that is worth another attempt there is a wait, and each wait is the one
before times a factor, up to a limit. The waits that really happen are spread at random, from half of
this to one and a half of it, so that those who were in each other's way once are not so again.
-/
namespace ProxyOperator

/-- How often to try, and how long to wait in between. Times are in milliseconds. -/
structure Retry where
  /-- The number of attempts; zero stands for no limit. -/
  maxAttempts : Nat
  initialDelay : Rat
  maxDelay : Rat
  factor : Rat
  deriving DecidableEq, Repr

namespace Retry

/-- No limit; waits from 50 milliseconds on, doubled up to two seconds. -/
def unlimited : Retry := ⟨0, 50, 2000, 2⟩

instance : Inhabited Retry := ⟨unlimited⟩

def limited (attempts : Nat) : Retry := { unlimited with maxAttempts := attempts }

variable {ε α : Type}

/-- Whether there is another attempt after one, counted from one, and its outcome: if it failed in a
way worth another attempt, and was not the last that is allowed. -/
def goesOn (retry : Retry) (accepts : ε → Bool) (attempt : Nat) : Except ε α → Bool
  | .ok _ => false
  | .error failure => accepts failure && !(0 < retry.maxAttempts && retry.maxAttempts ≤ attempt)

/-- The wait after an attempt, before it is spread. -/
def delay (retry : Retry) : Nat → Rat
  | 0 => retry.initialDelay
  | 1 => retry.initialDelay
  | attempt + 2 => min (retry.delay (attempt + 1) * retry.factor) retry.maxDelay

/-- A wait spread by a draw from zero to one: from half of it to one and a half of it. -/
def spread (draw wait : Rat) : Rat := wait * (1 / 2 + draw)

structure Course (ε α : Type) where
  /-- The outcome that was kept, if it came to that. -/
  outcome : Option (Except ε α)
  attempts : Nat
  waits : List Rat

/-- Go through the outcomes of attempts as they come, from one number on, with a draw for each wait. -/
def follow (retry : Retry) (accepts : ε → Bool) (draw : Nat → Rat) (attempt : Nat) :
    List (Except ε α) → Course ε α
  | [] => ⟨none, 0, []⟩
  | outcome :: rest =>
      if retry.goesOn accepts attempt outcome then
        let course := follow retry accepts draw (attempt + 1) rest
        { course with
          attempts := course.attempts + 1
          waits := spread (draw attempt) (retry.delay attempt) :: course.waits }
      else ⟨some outcome, 1, []⟩

end Retry

end ProxyOperator
