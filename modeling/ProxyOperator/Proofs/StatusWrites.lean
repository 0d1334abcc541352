import ProxyOperator.Proofs.Footing
import ProxyOperator.Proofs.Logs
/-!
Writing a status while others write too. A status is changed as it was read, and the write is refused if
the resource was written in between; then all is done anew, so often and no more. So no write of others is
lost, and of the attempts at most one has an effect.
-/
namespace ProxyOperator

open Attempt Reconcile

/-! ## Attempts that are counted -/

theorem Retry.goesOn_error_iff {ε α : Type} {retry : Retry} (limited : 0 < retry.maxAttempts)
    (accepts : ε → Bool) (number : Nat) (failure : ε) :
    retry.goesOn accepts number (.error failure : Except ε α) = true ↔
      accepts failure = true ∧ number < retry.maxAttempts := by
  simp only [goesOn, limited, decide_true, Bool.true_and, Bool.and_eq_true, Bool.not_eq_true',
    decide_eq_false_iff_not, Nat.not_le]

/-- In a limited number of attempts each one begins where `tried` holds for the number of those before it.
Only the last one may end in a failure that is worth another attempt. -/
theorem Attempt.Meets.retryCounted {α σ : Type} {conduct : Conduct Effects σ}
    {step : σ → Exchange Effects → σ → Prop} {ok : α → σ → Prop} {fail : Failure → σ → Prop}
    {state : σ} {policy : Retry} {accepts : Failure → Bool} {action : Pass α}
    (tried : Nat → σ → Prop) (limited : 0 < policy.maxAttempts)
    (attempt : ∀ number before, number < policy.maxAttempts → tried number before →
      Meets conduct step ok (fun failure after =>
        (accepts failure = true → tried (number + 1) after) ∧
        ((accepts failure = true → number + 1 = policy.maxAttempts) → fail failure after))
        action before)
    (wait : ∀ number before time after, tried number before →
      conduct before ⟨.pause time, ()⟩ after →
      step before ⟨.pause time, ()⟩ after ∧ tried number after)
    (start : tried 0 state) : Meets conduct step ok fail (Pass.retry policy accepts action) state := by
  have rounds : ∀ left number before, number + 1 + left = policy.maxAttempts → tried number before →
      Meets conduct step ok fail (Pass.retryFrom policy accepts action left (number + 1)) before := by
    intro left
    induction left with
    | zero =>
        intro number before total holds
        refine (attempt number before (Nat.le_of_eq total) holds).mono (fun _ _ ends => ends) ?_
        intro failure after ends
        exact ends.2 fun _ => total
    | succ left induction =>
        intro number before total holds
        have within : number < policy.maxAttempts := by omega
        apply Program.Meets.bind
        refine Program.Meets.mono (fun outcome after ends => ?_) (attempt number before within holds)
        cases outcome with
        | ok value => exact ends
        | error failure =>
            split
            · next more =>
              have accepted := ((Retry.goesOn_error_iff limited _ _ _).mp more).1
              intro answer later waited
              have ⟨kept, ready⟩ := wait (number + 1) after _ later (ends.1 accepted) waited
              exact ⟨kept, induction (number + 1) later (by omega) ready⟩
            · next spent =>
              apply ends.2
              intro accepted
              exact absurd ((Retry.goesOn_error_iff limited _ _ _).mpr ⟨accepted, by omega⟩) spent
  exact rounds _ 0 state (by omega) start

/-! ## Resources that many write -/

/-- A write of a status: what was replaced, and what was stored instead. -/
structure Commit (kind : Kind) where
  replaced : Resource kind
  stored : Resource kind

/-- The status that was written is the one that was replaced, but for a change. -/
def Commit.Applies {kind : Kind} (change : kind.Status → kind.Status) (commit : Commit kind) : Prop :=
  commit.stored.status = some (change commit.replaced.statusOrEmpty)

/-- A resource as the cluster keeps it. -/
structure Ledger (kind : Kind) where
  stored : Option (Resource kind)
  /-- The versions that the resource had up to now. A version tells what was stored when it was given. -/
  versions : List String
  /-- The writes of the status that are followed here, the last one last. -/
  commits : List (Commit kind)

namespace Ledger

variable {kind : Kind} {key : ObjectKey} {change : kind.Status → kind.Status}

/-- What is stored has a version. -/
def Marked (ledger : Ledger kind) : Prop :=
  ∀ resource ∈ ledger.stored, ∃ version ∈ ledger.versions,
    resource.metadata.resourceVersion = some version

/-- What somebody else may do: store the resource, changed in any way, under a version that it never had,
or remove it. -/
inductive Drifts (before : Ledger kind) : Ledger kind → Prop
  | stored {resource : Resource kind} {version : String} (fresh : version ∉ before.versions)
      (marked : resource.metadata.resourceVersion = some version) :
      Drifts before ⟨some resource, version :: before.versions, before.commits⟩
  | removed : Drifts before ⟨none, before.versions, before.commits⟩

/-- How the cluster serves a request. A status that is written for a version is refused if the resource has
another one, and a request that fails has no effect. -/
inductive Serves (key : ObjectKey) (before : Ledger kind) : Exchange Effects → Ledger kind → Prop
  | read : Serves key before ⟨.read kind key, .ok before.stored⟩ before
  | unread (failure : Failure) : Serves key before ⟨.read kind key, .error failure⟩ before
  | committed {revision : Option String} {status : kind.Status} {replaced stored : Resource kind}
      {version : String} (present : before.stored = some replaced)
      (current : ∀ expected ∈ revision, replaced.metadata.resourceVersion = some expected)
      (written : stored.status = some status) (fresh : version ∉ before.versions)
      (marked : stored.metadata.resourceVersion = some version) :
      Serves key before ⟨.writeStatus kind key revision status, .ok ()⟩
        ⟨some stored, version :: before.versions, before.commits ++ [⟨replaced, stored⟩]⟩
  | refused (revision : Option String) (status : kind.Status) (failure : Failure) :
      Serves key before ⟨.writeStatus kind key revision status, .error failure⟩ before
  | elsewhere {exchange : Exchange Effects} (other : ¬ exchange.request.Concerns kind key) :
      Serves key before exchange before

/-- A request is served, and after that others may write as often as they like. -/
def Answers (key : ObjectKey) : Conduct Effects (Ledger kind) :=
  fun before exchange after =>
    ∃ served, before.Serves key exchange served ∧ Relation.ReflTransGen Drifts served after

/-- A resource was read: if what is stored has the version of it still, then it is what is stored. -/
def Knows (resource : Resource kind) (ledger : Ledger kind) : Prop :=
  ∃ version ∈ ledger.versions, resource.metadata.resourceVersion = some version ∧
    ∀ stored ∈ ledger.stored, stored.metadata.resourceVersion = some version → stored = resource

variable {before after ledger : Ledger kind} {resource : Resource kind}

theorem Drifts.marked (drifts : before.Drifts after) : after.Marked := by
  cases drifts with
  | stored fresh version =>
      intro resource same
      obtain rfl := Option.some.inj same
      exact ⟨_, List.mem_cons_self, version⟩
  | removed =>
      intro resource none
      cases none

theorem Drifts.knows (drifts : before.Drifts after) (knows : before.Knows resource) :
    after.Knows resource := by
  obtain ⟨version, old, marked, same⟩ := knows
  cases drifts with
  | @stored other newer fresh version =>
      refine ⟨_, List.mem_cons_of_mem _ old, marked, ?_⟩
      intro stored isOther current
      obtain rfl := Option.some.inj isOther
      have equal := Option.some.inj (version.symm.trans current)
      exact (fresh (equal ▸ old)).elim
  | removed =>
      refine ⟨version, old, marked, ?_⟩
      intro stored none
      cases none

theorem marked_of_drifts (drift : Relation.ReflTransGen Drifts before after)
    (marked : before.Marked) : after.Marked := by
  induction drift with
  | refl => exact marked
  | tail _ drifts => exact drifts.marked

theorem knows_of_drifts (drift : Relation.ReflTransGen Drifts before after)
    (knows : before.Knows resource) : after.Knows resource := by
  induction drift with
  | refl => exact knows
  | tail _ drifts induction => exact drifts.knows induction

theorem commits_of_drifts (drift : Relation.ReflTransGen Drifts before after) :
    after.commits = before.commits := by
  induction drift with
  | refl => rfl
  | tail _ drifts induction =>
      cases drifts with
      | stored => exact induction
      | removed => exact induction

/-- What is stored is known when it is read. -/
theorem Marked.knows (marked : ledger.Marked) (stored : ledger.stored = some resource) :
    ledger.Knows resource := by
  obtain ⟨version, given, current⟩ := marked resource stored
  refine ⟨version, given, current, ?_⟩
  intro other same _
  exact Option.some.inj (same.symm.trans stored)

end Ledger

/-! ## The course of an update -/

def Effect.isRead : Effect → Bool
  | .read _ _ => true
  | _ => false

def Effect.isWrite : Effect → Bool
  | .writeStatus _ _ _ _ => true
  | _ => false

/-- How an exchange settles an update, if it does: there is nothing to write to, the status is written, or
something failed. -/
def Exchange.verdict? : Exchange Effects → Option (Except Failure Unit)
  | ⟨.read _ _, .ok none⟩ => some (.ok ())
  | ⟨.read _ _, .ok (some _)⟩ => none
  | ⟨.read _ _, .error failure⟩ => some (.error failure)
  | ⟨.writeStatus _ _ _ _, answer⟩ => some answer
  | _ => none

/-- The exchange leaves an update open: it settles nothing, or another writer was first. -/
def Exchange.LeavesOpen (exchange : Exchange Effects) : Prop :=
  ∀ verdict ∈ exchange.verdict?, ∃ failure, verdict = .error failure ∧ failure.isConflict = true

namespace Ledger

variable {kind : Kind} {key : ObjectKey} {change : kind.Status → kind.Status} {limit : Nat}

/-- What holds all along an update. -/
structure Tended (change : kind.Status → kind.Status) (limit : Nat) (ledger : Ledger kind)
    (log : List (Exchange Effects)) : Prop where
  reads : log.countP (·.request.isRead) ≤ limit
  writes : log.countP (·.request.isWrite) ≤ limit
  once : ledger.commits = [] ∨ ∃ commit, ledger.commits = [commit] ∧ commit.Applies change

/-- What holds once an update has come to an outcome. -/
structure Settled (key : ObjectKey) (limit : Nat) (outcome : Except Failure Unit)
    (ledger : Ledger kind) (log : List (Exchange Effects)) : Prop where
  /-- The last exchange settled it, and no other one did. -/
  last : ∃ earlier exchange, log = earlier ++ [exchange] ∧ exchange.verdict? = some outcome ∧
    ∀ exchange ∈ earlier, exchange.LeavesOpen
  failed : ∀ failure, outcome = .error failure → ledger.commits = [] ∧
    (failure.isConflict = true → log.countP (·.request.isRead) = limit)
  absent : ⟨.read kind key, .ok none⟩ ∈ log → outcome = .ok () ∧ ledger.commits = []
  done : outcome = .ok () → ledger.commits ≠ [] ∨ ⟨.read kind key, .ok none⟩ ∈ log

/-- An update is open still, after so many reads and at most so many writes. -/
structure Going (tried sent : Nat) (world : Ledger kind × List (Exchange Effects)) : Prop where
  marked : world.1.Marked
  uncommitted : world.1.commits = []
  reads : world.2.countP (·.request.isRead) = tried
  writes : world.2.countP (·.request.isWrite) ≤ sent
  opens : ∀ exchange ∈ world.2, exchange.LeavesOpen

variable {tried sent : Nat} {before after : Ledger kind × List (Exchange Effects)}
  {exchange : Exchange Effects} {outcome : Except Failure Unit}

theorem Going.reads_after (going : Going tried sent before)
    (logged : after.2 = before.2 ++ [exchange]) :
    after.2.countP (·.request.isRead) = tried + exchange.request.isRead.toNat := by
  rw [logged, List.countP_append, going.reads, List.countP_singleton]
  cases exchange.request.isRead <;> rfl

theorem Going.writes_after (going : Going tried sent before)
    (logged : after.2 = before.2 ++ [exchange]) :
    after.2.countP (·.request.isWrite) ≤ sent + exchange.request.isWrite.toNat := by
  rw [logged, List.countP_append, List.countP_singleton]
  apply Nat.add_le_add going.writes
  cases exchange.request.isWrite <;> exact Nat.le_refl _

/-- After one more exchange there still are not too many. -/
theorem Going.tended (going : Going tried sent before) (logged : after.2 = before.2 ++ [exchange])
    (reads : tried + exchange.request.isRead.toNat ≤ limit)
    (writes : sent + exchange.request.isWrite.toNat ≤ limit)
    (once : after.1.commits = [] ∨ ∃ commit, after.1.commits = [commit] ∧ commit.Applies change) :
    after.1.Tended change limit after.2 where
  reads := by
    rw [going.reads_after logged]
    exact reads
  writes := Nat.le_trans (going.writes_after logged) writes
  once := once

/-- An exchange without effect that settles nothing leaves an update open. -/
theorem Going.tail (going : Going tried sent before)
    (drift : Relation.ReflTransGen Drifts before.1 after.1) (logged : after.2 = before.2 ++ [exchange])
    (opens : exchange.LeavesOpen) :
    Going (tried + exchange.request.isRead.toNat) (sent + exchange.request.isWrite.toNat) after where
  marked := marked_of_drifts drift going.marked
  uncommitted := (commits_of_drifts drift).trans going.uncommitted
  reads := going.reads_after logged
  writes := going.writes_after logged
  opens := by
    intro other member
    rw [logged] at member
    rcases List.mem_append.mp member with earlier | last
    · exact going.opens other earlier
    · exact List.mem_singleton.mp last ▸ opens

/-- As long as an update is open the resource was there whenever it was read. -/
theorem Going.absent (going : Going tried sent before) :
    ⟨.read kind key, .ok none⟩ ∉ before.2 := by
  intro member
  obtain ⟨failure, error, _⟩ := going.opens _ member (.ok ()) rfl
  cases error

theorem Going.settles (going : Going tried sent before) (logged : after.2 = before.2 ++ [exchange])
    (verdict : exchange.verdict? = some outcome)
    (failed : ∀ failure, outcome = .error failure → after.1.commits = [] ∧
      (failure.isConflict = true → after.2.countP (·.request.isRead) = limit))
    (absent : exchange = ⟨.read kind key, .ok none⟩ → after.1.commits = [])
    (done : outcome = .ok () → after.1.commits ≠ [] ∨ exchange = ⟨.read kind key, .ok none⟩) :
    after.1.Settled key limit outcome after.2 where
  last := ⟨before.2, exchange, logged, verdict, going.opens⟩
  failed := failed
  absent := by
    intro member
    rw [logged] at member
    rcases List.mem_append.mp member with earlier | last
    · exact (going.absent earlier).elim
    · have same := List.mem_singleton.mp last
      rw [← same] at verdict
      exact ⟨(Option.some.inj verdict).symm, absent same.symm⟩
  done := by
    intro succeeded
    apply (done succeeded).imp_right
    intro same
    rw [logged, same]
    exact List.mem_append_right _ List.mem_cons_self

/-- A failure without effect settles an update, or leaves it open if another writer was first. -/
theorem Going.fails {number : Nat} {failure : Failure} (going : Going tried sent before)
    (drift : Relation.ReflTransGen Drifts before.1 after.1) (logged : after.2 = before.2 ++ [exchange])
    (verdict : exchange.verdict? = some (.error failure))
    (counted : tried + exchange.request.isRead.toNat = number)
    (few : sent + exchange.request.isWrite.toNat ≤ number) :
    (failure.isConflict = true → Going number number after) ∧
      ((failure.isConflict = true → number = limit) →
        after.1.Settled key limit (.error failure) after.2) := by
  constructor
  · intro conflict
    have opens : exchange.LeavesOpen := by
      intro other same
      rw [verdict] at same
      exact ⟨failure, (Option.some.inj same).symm, conflict⟩
    have next := going.tail drift logged opens
    rw [counted] at next
    exact { next with writes := Nat.le_trans next.writes few }
  · intro final
    apply going.settles logged verdict
    · intro other same
      rcases Except.error.inj same with rfl
      apply And.intro ((commits_of_drifts drift).trans going.uncommitted)
      intro conflict
      exact (going.reads_after logged).trans (counted.trans (final conflict))
    · intro same
      rw [same] at verdict
      cases verdict
    · intro succeeded
      cases succeeded

/-! ## Updates -/

theorem Serves.reads {ledger served : Ledger kind}
    {answer : Except Failure (Option (Resource kind))}
    (serves : ledger.Serves key ⟨.read kind key, answer⟩ served) :
    served = ledger ∧ (answer = .ok ledger.stored ∨ ∃ failure, answer = .error failure) := by
  cases serves with
  | read => exact ⟨rfl, .inl rfl⟩
  | unread failure => exact ⟨rfl, .inr ⟨failure, rfl⟩⟩
  | elsewhere other => exact (other ⟨rfl, rfl⟩).elim

/-- A write of a status for what was read has no effect, or it replaces just that. -/
theorem Serves.writes {ledger served : Ledger kind} {resource : Resource kind} {status : kind.Status}
    {answer : Except Failure Unit} (knows : ledger.Knows resource)
    (serves : ledger.Serves key
      ⟨.writeStatus kind key resource.metadata.resourceVersion status, answer⟩ served) :
    (∃ failure, answer = .error failure) ∧ served = ledger ∨
      answer = .ok () ∧ ∃ stored : Resource kind, stored.status = some status ∧
        served.commits = ledger.commits ++ [⟨resource, stored⟩] := by
  obtain ⟨version, _, read, same⟩ := knows
  cases serves with
  | @committed _ _ replaced stored _ present current written =>
      obtain rfl := same replaced present (current version read)
      exact .inr ⟨rfl, stored, written, rfl⟩
  | refused _ _ failure => exact .inl ⟨⟨failure, rfl⟩, rfl⟩
  | elsewhere other => exact (other ⟨rfl, rfl⟩).elim

/-- The status of what was just read is written, changed. -/
theorem Going.write_meets {resource : Resource kind} (going : Going (tried + 1) tried before)
    (knows : before.1.Knows resource) (within : tried + 1 ≤ limit) :
    Meets (Answers key).logged (fun _ _ after => after.1.Tended change limit after.2)
      (fun _ after => after.1.Settled key limit (.ok ()) after.2)
      (fun failure after => (failure.isConflict = true → Going (tried + 1) (tried + 1) after) ∧
        ((failure.isConflict = true → tried + 1 = limit) →
          after.1.Settled key limit (.error failure) after.2))
      (Pass.writeStatus kind key resource.metadata.resourceVersion (change resource.statusOrEmpty))
      before := by
  intro answer after answered
  obtain ⟨⟨served, serves, drift⟩, logged⟩ := answered
  have commits := commits_of_drifts drift
  rcases serves.writes knows with ⟨⟨failure, failed⟩, same⟩ | ⟨succeeded, stored, written, committed⟩
  · subst failed
    rw [same] at drift commits
    apply And.intro (going.tended logged within within (.inl (commits.trans going.uncommitted)))
    exact going.fails drift logged rfl rfl (Nat.le_refl _)
  · subst succeeded
    rw [committed, going.uncommitted] at commits
    apply And.intro (going.tended logged within within (.inr ⟨_, commits, written⟩))
    apply going.settles logged rfl
    · intro failure error
      cases error
    · intro same
      cases same
    · intro _
      left
      rw [commits]
      exact List.cons_ne_nil _ _

/-- One attempt to change a status. -/
theorem Going.attempt_meets (going : Going tried tried before) (within : tried + 1 ≤ limit) :
    Meets (Answers key).logged (fun _ _ after => after.1.Tended change limit after.2)
      (fun _ after => after.1.Settled key limit (.ok ()) after.2)
      (fun failure after => (failure.isConflict = true → Going (tried + 1) (tried + 1) after) ∧
        ((failure.isConflict = true → tried + 1 = limit) →
          after.1.Settled key limit (.error failure) after.2))
      (do
        match ← Pass.read kind key with
        | none => return
        | some latest =>
            Pass.writeStatus kind key latest.metadata.resourceVersion (change latest.statusOrEmpty))
      before := by
  have few : tried ≤ limit := Nat.le_of_succ_le within
  apply Meets.bind
  intro answer between answered
  obtain ⟨⟨served, serves, drift⟩, logged⟩ := answered
  obtain ⟨rfl, found⟩ := serves.reads
  have uncommitted := (commits_of_drifts drift).trans going.uncommitted
  apply And.intro (going.tended logged within few (.inl uncommitted))
  rcases found with found | ⟨failure, failed⟩
  · subst found
    cases present : before.1.stored with
    | none =>
        rw [present] at logged
        apply going.settles logged rfl
        · intro failure error
          cases error
        · intro _
          exact uncommitted
        · intro _
          exact .inr rfl
    | some latest =>
        rw [present] at logged
        have opens : Exchange.LeavesOpen ⟨.read kind key, .ok (some latest)⟩ := by
          intro verdict settled
          cases settled
        have knows := knows_of_drifts drift (going.marked.knows present)
        exact (going.tail drift logged opens).write_meets knows within
  · subst failed
    exact going.fails drift logged rfl rfl (Nat.le_succ _)

end Ledger

/-- However many others write in between, an update of a status makes few attempts and has at most one effect:
the status of what was stored just before is changed. If it fails it has none, and it fails at once unless
others were first in all of its attempts; without a resource there is nothing to do. -/
theorem updateStatus_loses_nothing {kind : Kind} (context : Context) (key : ObjectKey)
    (change : kind.Status → kind.Status) {start after : Ledger kind} {log : List (Exchange Effects)}
    {rest : Program Effects (Except Failure Unit)} (marked : start.Marked)
    (uncommitted : start.commits = [])
    (goes : Program.Goes (Ledger.Answers key) (updateStatus context kind key change).run start log
      rest after) :
    after.Tended change (max 1 context.settings.statusWriteAttempts.toNat) log ∧
      ∀ outcome, rest = .done outcome →
        after.Settled key (max 1 context.settings.statusWriteAttempts.toNat) outcome log := by
  let limit := max 1 context.settings.statusWriteAttempts.toNat
  have going : Ledger.Going 0 0 (start, []) :=
    ⟨marked, uncommitted, rfl, Nat.le_refl _, fun _ member => nomatch member⟩
  have attempts : context.settings.statusRetry.maxAttempts = limit := Nat.max_comm _ _
  have meets : Meets (Ledger.Answers key).logged
      (fun _ _ after => after.1.Tended change limit after.2)
      (fun _ after => after.1.Settled key limit (.ok ()) after.2)
      (fun failure after => after.1.Settled key limit (.error failure) after.2)
      (updateStatus context kind key change) (start, []) := by
    apply Meets.retryCounted fun number world => number ≤ limit ∧ Ledger.Going number number world
    · rw [attempts]
      exact Nat.lt_of_lt_of_le Nat.one_pos (Nat.le_max_left _ _)
    · intro number before within ⟨_, going⟩
      rw [attempts] at within ⊢
      refine (going.attempt_meets within).mono (fun _ _ ends => ends) fun failure after ends => ?_
      exact ends.imp_left fun opens conflict => ⟨within, opens conflict⟩
    · intro number before time after ⟨within, going⟩ paused
      obtain ⟨⟨served, serves, drift⟩, logged⟩ := paused
      obtain rfl : served = before.1 := by
        cases serves with
        | elsewhere => rfl
      have opens : Exchange.LeavesOpen ⟨.pause time, ()⟩ := by
        intro verdict settled
        cases settled
      have still := going.tail drift logged opens
      exact ⟨going.tended logged within within (.inl still.uncommitted), within, still⟩
    · exact ⟨Nat.zero_le _, going⟩
  have logged := goes.logged []
  constructor
  · have tended := Program.Meets.holds (fun world : Ledger kind × List (Exchange Effects) =>
      world.1.Tended change limit world.2) logged meets
    exact tended ⟨Nat.zero_le _, Nat.zero_le _, .inl uncommitted⟩
  · intro outcome ended
    rw [ended] at logged
    have ends := meets.goes logged
    cases outcome with
    | ok _ => exact ends
    | error failure => exact ends

/-- A revision of an access list. -/
def Sample.revised (version : String) (status : Option AccessList.Status) : AccessList :=
  ⟨{ (default : Metadata) with resourceVersion := some version }, default, status⟩

/-- Somebody writes another status between the first read and the first write, and the second attempt
changes that one. -/
theorem updateStatus_loses_nothing_overtaken :
    let theirs : AccessList.Status := ⟨none, [default]⟩
    let ours (status : AccessList.Status) : AccessList.Status := { status with id := some 7 }
    let stored := Sample.revised "2" (some theirs)
    ∃ (log : List (Exchange Effects)) (after : Ledger .accessList),
      after.commits = [⟨stored, Sample.revised "3" (some (ours theirs))⟩] ∧
      after.Tended ours 5 log ∧ after.Settled ⟨"", ""⟩ 5 (.ok ()) log := by
  intro theirs ours stored
  let first := Sample.revised "1" none
  let last := Sample.revised "3" (some (ours theirs))
  let start : Ledger .accessList := ⟨some first, ["1"], []⟩
  let overtaken : Ledger .accessList := ⟨some stored, ["2", "1"], []⟩
  let after : Ledger .accessList := ⟨some last, ["3", "2", "1"], [⟨stored, last⟩]⟩
  have marked : start.Marked := by
    intro resource same
    obtain rfl := Option.some.inj same
    exact ⟨"1", List.mem_cons_self, rfl⟩
  have drift : Ledger.Drifts start overtaken := .stored (by decide) rfl
  have read : Ledger.Answers ⟨"", ""⟩ start ⟨.read .accessList ⟨"", ""⟩, .ok (some first)⟩ overtaken :=
    ⟨start, .read, .single drift⟩
  have refused : Ledger.Answers ⟨"", ""⟩ overtaken
      ⟨.writeStatus .accessList ⟨"", ""⟩ (some "1") (ours default), .error (.conflict "")⟩ overtaken :=
    ⟨overtaken, .refused _ _ _, .refl⟩
  have waited (time : Rat) : Ledger.Answers ⟨"", ""⟩ overtaken ⟨.pause time, ()⟩ overtaken :=
    ⟨overtaken, .elsewhere id, .refl⟩
  have again : Ledger.Answers ⟨"", ""⟩ overtaken
      ⟨.read .accessList ⟨"", ""⟩, .ok (some stored)⟩ overtaken :=
    ⟨overtaken, .read, .refl⟩
  have committed : Ledger.Answers ⟨"", ""⟩ overtaken
      ⟨.writeStatus .accessList ⟨"", ""⟩ (some "2") (ours theirs), .ok ()⟩ after := by
    refine ⟨after, .committed rfl ?_ rfl (by decide) rfl, .refl⟩
    intro expected same
    exact same
  obtain ⟨log, goes⟩ : ∃ log, Program.Goes (Ledger.Answers ⟨"", ""⟩)
      (updateStatus default .accessList ⟨"", ""⟩ ours).run start log (.done (.ok ())) after :=
    ⟨_, .ask read (.ask refused (.ask (waited _) (.ask again (.ask committed (.here _ _)))))⟩
  have ⟨tended, settled⟩ := updateStatus_loses_nothing default ⟨"", ""⟩ ours marked rfl goes
  exact ⟨log, after, rfl, tended, settled _ rfl⟩

end ProxyOperator
