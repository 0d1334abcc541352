import ProxyOperator.Proofs.Claims
import ProxyOperator.Proofs.Frames
import ProxyOperator.Proofs.Playing
/-!
What becomes of a resource whose claim is refused: its pass fails before anything is asked of the remote
server, and once it saw who else there is, the failure says that the declaration is invalid.
-/
namespace ProxyOperator

open Attempt Reconcile

/-- The request is made to the remote server within a session. -/
def Effect.isRemote : Effect → Bool
  | .remote _ _ => true
  | _ => false

/-- The request neither is about remote objects nor asks who else there is of a kind. -/
def Effect.Apart (kind : Kind) : Effect → Prop
  | .remote _ _ => False
  | .list other none => other ≠ kind
  | _ => True

theorem Effect.Apart.of_connect {kind : Kind} {effect : Effect}
    (asked : effect.SeeksToken ∨ effect.Connects) : effect.Apart kind := by
  cases effect with
  | list other scope =>
      cases scope with
      | none => exact (asked.elim id id).elim
      | some _ => trivial
  | remote session request => exact (asked.elim id id).elim
  | _ => trivial

/-- All resources of a kind were listed. -/
def Listed (kind : Kind) (log : List (Exchange Effects)) : Prop :=
  ∃ resources, ⟨.list kind none, .ok resources⟩ ∈ log

/-- The exchange shows no other resources of a kind than such that refuse a claim. -/
def Shows {kind : Kind} (refused : List (Resource kind) → Prop) (exchange : Exchange Effects) : Prop :=
  ∀ resources, exchange = ⟨.list kind none, .ok resources⟩ → refused resources

/-- What a pass asked so far, and what is left of it, if its resource does not get what it claims. -/
structure Refused (kind : Kind) (log : List (Exchange Effects)) (rest : Running) : Prop where
  silent : ∀ exchange ∈ log, exchange.request.isRemote = false
  fails : ∀ outcome, rest = .done outcome → ∃ failure, outcome = .error failure ∧
    (Listed kind log → ∃ detail, failure = .invalid detail)

namespace Refused

variable {kind : Kind} {refused : List (Resource kind) → Prop}

/-- A world that answers anything, but shows no other resources than such that refuse a claim. -/
abbrev Answers (refused : List (Resource kind) → Prop) :
    Conduct Effects (Unit × List (Exchange Effects)) :=
  fun before exchange after =>
    (Conduct.free Effects).logged before exchange after ∧ Shows refused exchange

def Silent {σ : Type} (_ : σ) (exchange : Exchange Effects) (_ : σ) : Prop :=
  exchange.request.isRemote = false

/-- A failure is told as one of the declaration once all resources were listed. -/
def Tells (kind : Kind) (failure : Failure) (world : Unit × List (Exchange Effects)) : Prop :=
  Listed kind world.2 → ∃ detail, failure = .invalid detail

theorem Tells.of_unlisted {failure : Failure} {world : Unit × List (Exchange Effects)}
    (unlisted : ¬ Listed kind world.2) : Tells kind failure world :=
  fun listed => (unlisted listed).elim

/-- What is said for the case that all resources were listed holds after any request that lists them not. -/
theorem keeps {said : Prop} (before : Unit × List (Exchange Effects)) (exchange : Exchange Effects)
    (after : Unit × List (Exchange Effects)) (apart : exchange.request.Apart kind)
    (held : Listed kind before.2 → said) (answered : Answers refused before exchange after) :
    Silent before exchange after ∧ (Listed kind after.2 → said) := by
  have silent : exchange.request.isRemote = false := by
    rcases exchange with ⟨request, answer⟩
    cases request with
    | remote session request => exact apart.elim
    | _ => rfl
  apply And.intro silent
  intro ⟨resources, member⟩
  rw [answered.1.2] at member
  rcases List.mem_append.mp member with earlier | last
  · exact held ⟨resources, earlier⟩
  · have same := List.mem_singleton.mp last
    rw [← same] at apart
    exact (apart rfl).elim

/-- Once all resources were listed the claim is found to be refused. -/
theorem listAll_meets {world : Unit × List (Exchange Effects)} {next : List (Resource kind) → Pass Unit}
    (throws : ∀ resources, refused resources →
      ∃ detail, next resources = MonadExcept.throw (.invalid detail))
    (unlisted : ¬ Listed kind world.2) :
    Meets (Answers refused) Silent (fun _ _ => False) (Tells kind)
      (Pass.listAll kind >>= next) world := by
  apply Meets.bind
  intro answer after answered
  apply And.intro rfl
  cases answer with
  | ok resources =>
      obtain ⟨detail, thrown⟩ := throws resources (answered.2 resources rfl)
      show Meets _ _ _ _ (next resources) after
      rw [thrown]
      exact .throw fun _ => ⟨detail, rfl⟩
  | error failure =>
      intro ⟨resources, member⟩
      rw [answered.1.2] at member
      rcases List.mem_append.mp member with earlier | last
      · exact (unlisted ⟨resources, earlier⟩).elim
      · cases List.mem_singleton.mp last

/-- A pass that looks at who else there is, after it set up a session, gets no further. -/
theorem converge_meets {α : Type} {context : Context} {checked : Except Problem Unit}
    {reference : Option ResourceRef} {«namespace» : String} {next : List (Resource kind) → Pass Unit}
    {further : Remote.Session → Staged α} {world : Unit × List (Exchange Effects)}
    (throws : ∀ resources, refused resources →
      ∃ detail, next resources = MonadExcept.throw (.invalid detail))
    (unlisted : ¬ Listed kind world.2) :
    Meets (Answers refused) Silent (fun _ _ => False) (fun stopped => Tells kind stopped.failure)
      (do
        Stage.check checked
        let session ← Stage.token.run (connect context reference «namespace»)
        Stage.claim.run (Pass.listAll kind >>= next)
        further session) world := by
  apply Meets.bind_asks keeps (fun _ _ => Tells.of_unlisted) .check unlisted
  intro _ _ unlisted
  apply Meets.bind_asks keeps (fun _ _ => Tells.of_unlisted)
    (.staged ((connect_seeks _ _ _).mono fun _ => .of_connect)) unlisted
  intro session _ unlisted
  apply Meets.bind
  apply Meets.staged
  exact (listAll_meets throws unlisted).mono (fun _ _ none => none.elim) fun _ _ tells => tells

/-- A pass that fails to converge fails, and tells why. -/
theorem of_pass {α : Type} {context : Context} {resource : Resource kind} {begins : Pass Unit}
    {converge : Staged α} {succeed : α → Pass Action} {log : List (Exchange Effects)} {rest : Running}
    (asks : Asks (Effect.Apart kind) begins)
    (converges : ∀ world, ¬ Listed kind world.2 → Meets (Answers refused) Silent (fun _ _ => False)
      (fun stopped => Tells kind stopped.failure) converge world)
    (goes : Program.Goes (Conduct.free Effects)
      (do hold resource; begins; finish context resource converge succeed : Pass Action).run () log
      rest ())
    (shows : ∀ exchange ∈ log, Shows refused exchange) : Refused kind log rest := by
  have unlisted : ¬ Listed kind ([] : List (Exchange Effects)) := by
    intro ⟨_, member⟩
    cases member
  have meets : Meets (Answers refused) Silent (fun _ _ => False) (Tells kind)
      (do hold resource; begins; finish context resource converge succeed) ((), []) := by
    apply Meets.bind_asks keeps (fun _ _ => Tells.of_unlisted) (hold_asks resource trivial) unlisted
    intro _ held unlisted
    apply Meets.bind_asks keeps (fun _ _ => Tells.of_unlisted) asks unlisted
    intro _ begun unlisted
    apply Meets.finish ((converges begun unlisted).mono (fun _ _ none => none.elim)
      fun _ _ tells => tells)
    · intro stopped event before after tells answered
      exact keeps before _ after trivial tells answered
    · intro stopped before tells change
      exact Meets.of_asks (updateStatus_asks trivial (fun _ _ => trivial) fun _ => trivial) keeps tells
  have logged := Program.goes_sorted_iff.mpr ⟨goes.logged [], shows⟩
  constructor
  · intro exchange member
    obtain ⟨_, _, silent⟩ := Program.Meets.exchanges logged meets exchange member
    exact silent
  · intro outcome ended
    rw [ended] at logged
    have ends := meets.goes logged
    cases outcome with
    | ok action => exact ends.elim
    | error failure => exact ⟨failure, rfl, ends⟩

end Refused

/-! ## Hosts and streams -/

theorem ProxyHost.refused {host : ProxyHost} {context : Context} {log : List (Exchange Effects)}
    {rest : Running} (remains : host.metadata.isDeleting = false)
    (goes : Program.Goes (Conduct.free Effects) (reconcile context .proxyHost host).run () log rest ())
    (shows : ∀ exchange ∈ log, Shows (fun hosts => (host.rival? hosts).isSome = true) exchange) :
    Refused .proxyHost log rest := by
  rw [reconcile, ProxyHosts.reconcile, remains] at goes
  refine Refused.of_pass ?_ ?_ goes shows
  · exact ProxyHosts.begin_asks trivial (fun _ _ => trivial) fun _ => trivial
  intro world unlisted
  apply Refused.converge_meets _ unlisted
  intro hosts refused
  obtain ⟨⟨rival, domain⟩, found⟩ := Option.isSome_iff_exists.mp refused
  rw [found]
  exact ⟨_, rfl⟩

theorem Stream.refused {stream : Stream} {context : Context} {log : List (Exchange Effects)}
    {rest : Running} (remains : stream.metadata.isDeleting = false)
    (goes : Program.Goes (Conduct.free Effects) (reconcile context .stream stream).run () log rest ())
    (shows : ∀ exchange ∈ log, Shows (fun streams => (stream.rival? streams).isSome = true) exchange) :
    Refused .stream log rest := by
  rw [reconcile, Streams.reconcile, remains] at goes
  refine Refused.of_pass ?_ ?_ goes shows
  · exact Streams.begin_asks trivial (fun _ _ => trivial) fun _ => trivial
  intro world unlisted
  apply Refused.converge_meets _ unlisted
  intro streams refused
  obtain ⟨rival, found⟩ := Option.isSome_iff_exists.mp refused
  rw [found]
  exact ⟨_, rfl⟩

/-- Of the hosts and streams of a cluster just one gets what several claim, the one that is first in the
order of claims, and the pass of one that gets nothing fails and leaves the remote server alone. -/
theorem claims_arbitrated :
    (∀ hosts : List ProxyHost, hosts.Pairwise (fun first second => first.key ≠ second.key) →
      Arbitrated ProxyHost.Contests (fun host : ProxyHost => (host.rival? hosts).isSome = true)
        hosts) ∧
    (∀ context (host : ProxyHost) log rest, host.metadata.isDeleting = false →
      Program.Goes (Conduct.free Effects) (reconcile context .proxyHost host).run () log rest () →
      (∀ exchange ∈ log, Shows (fun hosts => (host.rival? hosts).isSome = true) exchange) →
      Refused .proxyHost log rest) ∧
    (∀ streams : List Stream, streams.Pairwise (fun first second => first.key ≠ second.key) →
      Arbitrated Stream.Contests (fun stream : Stream => (stream.rival? streams).isSome = true)
        streams ∧
      ∀ stream ∈ streams, stream.metadata.isDeleting = false →
        ∃! holder, holder ∈ streams ∧ holder.metadata.isDeleting = false ∧
          stream.Contests holder ∧ (holder.rival? streams).isSome = false) ∧
    (∀ context (stream : Stream) log rest, stream.metadata.isDeleting = false →
      Program.Goes (Conduct.free Effects) (reconcile context .stream stream).run () log rest () →
      (∀ exchange ∈ log, Shows (fun streams => (stream.rival? streams).isSome = true) exchange) →
      Refused .stream log rest) := by
  refine ⟨ProxyHost.arbitrated, fun _ _ _ _ => ProxyHost.refused, ?_, fun _ _ _ _ => Stream.refused⟩
  intro streams distinct
  exact ⟨Stream.arbitrated streams distinct, fun stream => Stream.holder_unique distinct⟩

/-- What a cluster with some hosts answers, of which none can be read on its own. -/
def Sample.crowd (hosts : List ProxyHost) : (request : Effect) → Option request.Answer
  | .list .token _ => some (.ok [token])
  | .list .proxyHost _ => some (.ok hosts)
  | .read .proxyHost _ => some (.ok none)
  | .connect _ => some (.ok ())
  | .publish _ => some ()
  | _ => none

theorem Sample.crowd_allowed {hosts : List ProxyHost} (refused : List ProxyHost → Prop)
    (refuses : refused hosts) :
    Program.Allowed (fun before exchange after =>
      Conduct.free Effects before exchange after ∧ Shows refused exchange)
      (fun _ request => (crowd hosts request).map (·, ())) := by
  intro world request answer after answered
  apply And.intro trivial
  intro resources shown
  cases shown
  obtain ⟨_, listed, same⟩ := Option.map_eq_some_iff.mp answered
  cases listed
  cases same
  exact refuses

/-- Two hosts want one domain, and the pass of the second one ends. -/
theorem claims_arbitrated_shared :
    let maker := Sample.host "maker" false []
    let taker := Sample.host "taker" false []
    Arbitrated ProxyHost.Contests
      (fun host : ProxyHost => (host.rival? [taker, maker]).isSome = true) [taker, maker] ∧
    ∃ log outcome, Program.Goes (Conduct.free Effects)
        (reconcile Sample.context .proxyHost taker).run () log (.done outcome) () ∧
      Refused .proxyHost log (.done outcome) := by
  intro maker taker
  have distinct : [taker, maker].Pairwise fun first second => first.key ≠ second.key := by
    decide +kernel
  apply And.intro (claims_arbitrated.1 [taker, maker] distinct)
  have refused : (taker.rival? [taker, maker]).isSome = true := by decide +kernel
  let pass := (reconcile Sample.context .proxyHost taker).run
  obtain ⟨log, goes⟩ := (Sample.crowd_allowed
    (fun hosts => (taker.rival? hosts).isSome = true) refused).goes pass ()
  obtain ⟨outcome, ended⟩ : ∃ outcome, (pass.play (fun _ request =>
      (Sample.crowd [taker, maker] request).map (·, ())) ()).1 = .done outcome :=
    Program.eq_done_of_isDone (by decide +kernel)
  rw [ended] at goes
  obtain ⟨free, shows⟩ := Program.goes_sorted_iff.mp goes
  exact ⟨log, outcome, free, claims_arbitrated.2.1 _ taker log _ (by decide +kernel) free shows⟩

end ProxyOperator
