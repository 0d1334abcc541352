import ProxyOperator.Proofs.Conduct
/-!
Worlds that keep a log of what they were asked and what they answered. What is said about the log of a
program in any world is proved of the program in the world that keeps it.
-/
namespace ProxyOperator

variable {interface : Interface} {σ α : Type}

/-- The same conduct of a world that adds each exchange to a log. -/
def Conduct.logged (conduct : Conduct interface σ) :
    Conduct interface (σ × List (Exchange interface)) :=
  fun before exchange after =>
    conduct before.1 exchange after.1 ∧ after.2 = before.2 ++ [exchange]

/-- A world that answers anything. -/
def Conduct.free (interface : Interface) : Conduct interface Unit := fun _ _ _ => True

namespace Program

variable {conduct : Conduct interface σ} {program rest : Program interface α} {state after : σ}
  {log : List (Exchange interface)}

theorem Goes.logged (goes : Goes conduct program state log rest after)
    (earlier : List (Exchange interface)) :
    Goes conduct.logged program (state, earlier) log rest (after, earlier ++ log) := by
  induction goes generalizing earlier with
  | here program state =>
      rw [List.append_nil]
      exact .here program (state, earlier)
  | @ask request next answer state between after log rest answered further induction =>
      have later := induction (earlier ++ [⟨request, answer⟩])
      rw [List.append_assoc, List.singleton_append] at later
      exact .ask ⟨answered, rfl⟩ later

/-- The ways in a world with exchanges of one sort only are those on which all exchanges are of that sort. -/
theorem goes_sorted_iff {sort : Exchange interface → Prop} :
    Goes (fun before exchange after => conduct before exchange after ∧ sort exchange)
        program state log rest after ↔
      Goes conduct program state log rest after ∧ ∀ exchange ∈ log, sort exchange := by
  constructor
  · intro goes
    induction goes with
    | here program state =>
        apply And.intro (.here program state)
        intro exchange member
        cases member
    | ask answered further induction =>
        apply And.intro (.ask answered.1 induction.1)
        intro exchange member
        rcases List.mem_cons.mp member with rfl | later
        · exact answered.2
        · exact induction.2 exchange later
  · intro ⟨goes, sorted⟩
    induction goes with
    | here program state => exact .here program state
    | ask answered further induction =>
        have first := sorted _ List.mem_cons_self
        have others := induction fun exchange member =>
          sorted exchange (List.mem_cons_of_mem _ member)
        exact .ask ⟨answered, first⟩ others

/-- What is seen from a part of a world is a way as well. -/
theorem Goes.view {τ : Type} {inner : Conduct interface τ} {view : σ → τ}
    (goes : Goes conduct program state log rest after)
    (views : ∀ before exchange after, conduct before exchange after →
      inner (view before) exchange (view after)) :
    Goes inner program (view state) log rest (view after) := by
  induction goes with
  | here => exact .here _ _
  | ask answered _ induction => exact .ask (views _ _ _ answered) induction

/-- A program asks nothing else on any way. -/
theorem Asks.exchanges {allowed : interface.Request → Prop} (asks : Asks allowed program)
    (goes : Goes conduct program state log rest after) :
    ∀ exchange ∈ log, allowed exchange.request := by
  induction goes with
  | here =>
      intro exchange member
      cases member
  | ask _ _ induction =>
      intro exchange member
      rcases List.mem_cons.mp member with rfl | later
      · exact asks.1
      · exact induction (asks.2 _) exchange later

/-- What every exchange of a program lives up to holds of the exchanges of each way through it. -/
theorem Meets.exchanges {step : σ → Exchange interface → σ → Prop} {ends : α → σ → Prop}
    (goes : Goes conduct program state log rest after)
    (meets : Meets conduct step ends program state) :
    ∀ exchange ∈ log, ∃ before between, step before exchange between := by
  induction goes with
  | here => intro exchange member; cases member
  | ask answered further induction =>
      have ⟨kept, others⟩ := meets _ _ answered
      intro exchange member
      rcases List.mem_cons.mp member with rfl | later
      · exact ⟨_, _, kept⟩
      · exact induction others exchange later

/-- Where exchanges live up to something that depends on the log, each exchange of a way does so with the
exchanges before it. -/
theorem Meets.along (befits : List (Exchange interface) → Exchange interface → Prop)
    {ends : α → σ × List (Exchange interface) → Prop} {world last : σ × List (Exchange interface)}
    (goes : Goes conduct.logged program world log rest last)
    (meets : Meets conduct.logged (fun before exchange _ => befits before.2 exchange) ends program
      world) :
    ∀ earlier exchange later, log = earlier ++ exchange :: later →
      befits (world.2 ++ earlier) exchange := by
  induction goes with
  | here =>
      intro earlier exchange later split
      cases List.append_eq_nil_iff.mp split.symm |>.2
  | ask answered _ induction =>
      have ⟨kept, further⟩ := meets _ _ answered
      intro earlier exchange later split
      cases earlier with
      | nil =>
          obtain ⟨rfl, _⟩ := List.cons.inj split
          rw [List.append_nil]
          exact kept
      | cons first earlier =>
          obtain ⟨rfl, rest⟩ := List.cons.inj split
          have befits := induction further earlier exchange later rest
          rw [answered.2, List.append_assoc] at befits
          exact befits

/-- What holds after every exchange of a program holds wherever the program gets to. -/
theorem Meets.holds (holds : σ → Prop) {ends : α → σ → Prop}
    (goes : Goes conduct program state log rest after)
    (meets : Meets conduct (fun _ _ after => holds after) ends program state)
    (start : holds state) : holds after := by
  induction goes with
  | here => exact start
  | ask answered _ induction =>
      have ⟨kept, further⟩ := meets _ _ answered
      exact induction further kept

end Program

end ProxyOperator
