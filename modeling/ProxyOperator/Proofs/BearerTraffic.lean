import Mathlib.Logic.Function.Basic
import Mathlib.Logic.Relation
import ProxyOperator.Proofs.BearerPasses
import ProxyOperator.Proofs.Playing
/-!
Passes of all kinds that run at the same time, while users edit the Tokens. Every session is set up with a
bearer token that some server issued and some Token's status names together with that server; it is the
server of the session just if the Token still points to the server that its status names.
-/
namespace ProxyOperator

open Attempt Reconcile

/-- The Tokens of a cluster, the passes that run, and all that passes asked and were answered. -/
structure Traffic where
  tokens : ObjectKey → Option Token
  running : List Running
  log : List (Exchange Effects)

namespace Traffic

/-- How the cluster serves a request where Tokens are stored, and which are stored then. Requests may fail,
and a write whose failure is reported may have happened all the same. -/
inductive Serves (tokens : ObjectKey → Option Token) :
    Exchange Effects → (ObjectKey → Option Token) → Prop
  | read (key : ObjectKey) : Serves tokens ⟨.read .token key, .ok (tokens key)⟩ tokens
  | listed (scope : Option String) {answer : List Token}
      (stored : ∀ token ∈ answer, ∃ key, tokens key = some token) :
      Serves tokens ⟨.list .token scope, .ok answer⟩ tokens
  | written {key : ObjectKey} {stored : Token} (known : tokens key = some stored)
      (revision : Option String) (status : Token.Status) (answer : Except Failure Unit) :
      Serves tokens ⟨.writeStatus .token key revision status, answer⟩
        (Function.update tokens key (some { stored with status := some status }))
  | silent {exchange : Exchange Effects} (silent : exchange.tokens = []) :
      Serves tokens exchange tokens

/-- A pass on any resource begins, or one that runs is answered, or users make, edit and delete Tokens, which
have no status then or the one that they had. -/
inductive Step (before : Traffic) : Traffic → Prop
  | begins (context : Context) (kind : Kind) (resource : Resource kind) :
      Step before
        { before with running := (reconcile context kind resource).run :: before.running }
  | goes {earlier later : List Running} {request : Effect} {next : request.Answer → Running}
      {answer : request.Answer} {tokens : ObjectKey → Option Token}
      (turn : before.running = earlier ++ .ask request next :: later)
      (serves : Serves before.tokens ⟨request, answer⟩ tokens) :
      Step before ⟨tokens, earlier ++ next answer :: later, before.log ++ [⟨request, answer⟩]⟩
  | edited {tokens : ObjectKey → Option Token}
      (edit : ∀ key token, tokens key = some token →
        token.status = none ∨ ∃ old, before.tokens key = some old ∧ token.status = old.status) :
      Step before { before with tokens := tokens }

/-- Nothing has happened yet, and no Token has a status. -/
structure Fresh (traffic : Traffic) : Prop where
  tokens : ∀ key token, traffic.tokens key = some token → token.status = none
  running : traffic.running = []
  log : traffic.log = []

/-! ## What stays so -/

/-- The statuses of all Tokens are vouched for, and passes go on as they should and have done so. -/
structure Orderly (traffic : Traffic) : Prop where
  stored : ∀ key token, traffic.tokens key = some token → token.statusOrEmpty.Vouched traffic.log
  running : ∀ pass ∈ traffic.running,
    Program.Meets Trusts Honest (fun _ _ => True) pass traffic.log
  honored : ∀ earlier exchange later, traffic.log = earlier ++ exchange :: later →
    exchange.request.Honors earlier

variable {before after start now : Traffic}

theorem vouched_of_missing {token : Token} (missing : token.status = none)
    (log : List (Exchange Effects)) : token.statusOrEmpty.Vouched log := by
  intro bearer known
  rw [Resource.statusOrEmpty, missing] at known
  cases known

theorem Fresh.orderly (fresh : start.Fresh) : start.Orderly where
  stored key token known := vouched_of_missing (fresh.tokens key token known) _
  running pass member := by
    rw [fresh.running] at member
    cases member
  honored earlier exchange later split := by
    rw [fresh.log] at split
    cases List.append_eq_nil_iff.mp split.symm |>.2

/-- What passes are shown is vouched for. -/
theorem Orderly.trusts (orderly : before.Orderly) {exchange : Exchange Effects}
    {tokens : ObjectKey → Option Token} (serves : Serves before.tokens exchange tokens) :
    Trusts before.log exchange (before.log ++ [exchange]) where
  grows := List.subset_append_left _ _
  heard := List.mem_append_right _ (List.mem_singleton_self _)
  vouched := by
    have grows : before.log ⊆ before.log ++ [exchange] := List.subset_append_left _ _
    intro token shows
    cases serves with
    | read key =>
        have known : before.tokens key = some token := by
          cases found : before.tokens key with
          | none => simp [Exchange.tokens, found] at shows
          | some stored => simp_all [Exchange.tokens]
        exact (orderly.stored key token known).mono grows
    | listed scope stored =>
        rcases stored token shows with ⟨key, known⟩
        exact (orderly.stored key token known).mono grows
    | written => cases shows
    | silent silent =>
        rw [silent] at shows
        cases shows

/-- A pass goes on as it should whatever others have asked in the meantime. -/
theorem meets_later {pass : Running} {earlier later : List (Exchange Effects)}
    (grows : earlier ⊆ later)
    (meets : Program.Meets Trusts Honest (fun _ _ => True) pass earlier) :
    Program.Meets Trusts Honest (fun _ _ => True) pass later := by
  cases pass with
  | done outcome => trivial
  | ask request next =>
      intro answer after trusts
      have ⟨honors, further⟩ :=
        meets answer after ⟨List.Subset.trans grows trusts.grows, trusts.heard, trusts.vouched⟩
      exact ⟨honors.mono grows, further⟩

theorem Orderly.begins (orderly : before.Orderly) (context : Context) (kind : Kind)
    (resource : Resource kind) :
    Orderly { before with running := (reconcile context kind resource).run :: before.running } where
  stored := orderly.stored
  running pass member := by
    rcases List.mem_cons.mp member with rfl | old
    · exact Program.Meets.mono (fun _ _ _ => trivial)
        (reconcile_discreet context kind resource before.log)
    · exact orderly.running pass old
  honored := orderly.honored

/-- A pass that is answered has honored what was known, and so it goes on. -/
theorem Orderly.goes (orderly : before.Orderly) {earlier later : List Running} {request : Effect}
    {next : request.Answer → Running} {answer : request.Answer}
    {tokens : ObjectKey → Option Token}
    (turn : before.running = earlier ++ .ask request next :: later)
    (serves : Serves before.tokens ⟨request, answer⟩ tokens) :
    Orderly ⟨tokens, earlier ++ next answer :: later, before.log ++ [⟨request, answer⟩]⟩ := by
  have grows : before.log ⊆ before.log ++ [⟨request, answer⟩] := List.subset_append_left _ _
  have asks : .ask request next ∈ before.running := by
    rw [turn]
    exact List.mem_append_right _ List.mem_cons_self
  have ⟨honors, further⟩ := orderly.running _ asks answer _ (orderly.trusts serves)
  refine ⟨?_, ?_, ?_⟩
  · intro key token known
    have kept (same : before.tokens key = some token) :
        token.statusOrEmpty.Vouched (before.log ++ [⟨request, answer⟩]) :=
      (orderly.stored key token same).mono grows
    cases serves with
    | read | listed | silent => exact kept known
    | @written target stored found revision status =>
        simp only [Function.update_apply] at known
        split at known
        · rcases Option.some.inj known with rfl
          exact Token.Status.Vouched.mono grows honors
        · exact kept known
  · intro pass member
    rcases List.mem_append.mp member with isEarlier | rest
    · exact meets_later grows (orderly.running pass (turn ▸ List.mem_append_left _ isEarlier))
    · rcases List.mem_cons.mp rest with rfl | isLater
      · exact further
      · have others : pass ∈ before.running := by
          rw [turn]
          exact List.mem_append_right _ (List.mem_cons_of_mem _ isLater)
        exact meets_later grows (orderly.running pass others)
  · intro past exchange rest split
    rcases List.eq_nil_or_concat rest with rfl | ⟨others, last, rfl⟩
    · have ⟨same, now⟩ := List.append_inj' split rfl
      rcases List.cons.inj now with ⟨rfl, _⟩
      exact same ▸ honors
    · rw [List.concat_eq_append, ← List.cons_append, ← List.append_assoc] at split
      exact orderly.honored past exchange others (List.append_inj' split rfl).1

theorem Orderly.step (orderly : before.Orderly) (step : Step before after) : after.Orderly := by
  cases step with
  | begins context kind resource => exact orderly.begins context kind resource
  | goes turn serves => exact orderly.goes turn serves
  | edited edit =>
      refine ⟨fun key token known => ?_, orderly.running, orderly.honored⟩
      rcases edit key token known with missing | ⟨old, stored, same⟩
      · exact vouched_of_missing missing _
      · rw [Resource.statusOrEmpty, same]
        exact orderly.stored key old stored

theorem Orderly.reaches (orderly : start.Orderly) (reaches : Relation.ReflTransGen Step start now) :
    now.Orderly := by
  induction reaches with
  | refl => exact orderly
  | tail _ step induction => exact induction.step step

/-- A pass that goes on by itself goes on so among others. -/
theorem reaches_of_goes {tokens served : ObjectKey → Option Token} {pass rest : Running}
    {log : List (Exchange Effects)} (goes : Program.Goes Serves pass tokens log rest served)
    (others : List Running) (earlier : List (Exchange Effects)) :
    Relation.ReflTransGen Step ⟨tokens, pass :: others, earlier⟩
      ⟨served, rest :: others, earlier ++ log⟩ := by
  induction goes generalizing earlier with
  | here => rw [List.append_nil]
  | @ask request next answer _ _ _ log _ serves _ induction =>
      have further := induction (earlier ++ [⟨request, answer⟩])
      rw [List.append_assoc, List.singleton_append] at further
      have first : Step ⟨_, .ask request next :: others, earlier⟩ _ :=
        Step.goes (List.nil_append _).symm serves
      exact .head first further

/-- A bearer token tells who issued it. -/
def Telling (log : List (Exchange Effects)) : Prop :=
  ∀ first second bearer, Issued first bearer log → Issued second bearer log → first = second

/-- Whenever a session is set up, some Token was shown before that points to the server of the session, and
its status names a server that had issued the bearer token of the session. If bearer tokens tell who issued
them, the server of the session had issued this one just if the status names the server that the Token
points to. -/
theorem presented_iff (fresh : start.Fresh) (reaches : Relation.ReflTransGen Step start now)
    {earlier later : List (Exchange Effects)} {session : Remote.Session}
    {answer : Except Failure Unit}
    (split : now.log = earlier ++ ⟨.connect session, answer⟩ :: later) :
    ∃ exchange ∈ earlier, ∃ token ∈ exchange.tokens, ∃ issuer,
      token.CallsFor session issuer earlier ∧
      (Telling earlier →
        (Issued session.endpoint session.bearer earlier ↔ issuer = token.spec.endpoint)) := by
  rcases (fresh.orderly.reaches reaches).honored _ _ _ split with
    ⟨exchange, heard, token, shows, issuer, calls⟩
  refine ⟨exchange, heard, token, shows, issuer, calls, fun telling => ?_⟩
  rw [calls.endpoint]
  constructor
  · exact fun issued => telling _ _ _ calls.issued issued
  · intro same
    exact same ▸ calls.issued

end Traffic

/-! ## Two runs -/

namespace Sample

/-- The token before a pass on it. -/
def unissued : Token := { token with status := none }

def login : Secret :=
  { (default : Secret) with
    texts := some (Dictionary.empty.insert "identity" "admin" |>.insert "secret" "changeme") }

/-- What a cluster with the one token answers, up to the first session that is to be set up. -/
def issuing? (tokens : ObjectKey → Option Token) : (request : Effect) → Option request.Answer
  | .read .token key => some (.ok (tokens key))
  | .list .token _ => some (.ok (tokens ⟨"apps", "npm"⟩).toList)
  | .writeStatus .token _ _ _ => some (.ok ())
  | .secret _ => some (.ok (some login))
  | .requestToken _ _ _ => some (.ok ⟨"bearer", (Instant.of? 100000 0).getD .epoch⟩)
  | .publish _ => some ()
  | _ => none

def issuingStores (tokens : ObjectKey → Option Token) : Effect → ObjectKey → Option Token
  | .writeStatus .token key _ status =>
      match tokens key with
      | some stored => Function.update tokens key (some { stored with status := some status })
      | none => tokens
  | _ => tokens

def issuing : Responder Effects (ObjectKey → Option Token) := fun tokens request =>
  (issuing? tokens request).map fun answer => (answer, issuingStores tokens request)

theorem issuing_allowed : Program.Allowed Traffic.Serves issuing := by
  intro tokens request answer after answered
  rcases Option.map_eq_some_iff.mp answered with ⟨_, known, same⟩
  rcases Prod.mk.inj same with ⟨rfl, rfl⟩
  unfold issuing? at known
  split at known
  · rcases Option.some.inj known with rfl
    exact .read _
  · rcases Option.some.inj known with rfl
    refine .listed _ fun token member => ⟨⟨"apps", "npm"⟩, ?_⟩
    exact Option.mem_toList.mp member
  · next key revision status =>
    unfold issuingStores
    dsimp only
    split
    · next stored found => exact .written found _ _ _
    · exact .silent rfl
  · exact .silent rfl
  · exact .silent rfl
  · exact .silent rfl
  · cases known

def unissuedTraffic : Traffic where
  tokens key := if key = ⟨"apps", "npm"⟩ then some unissued else none
  running := []
  log := []

def issuePass : Running := (reconcile context .token unissued).run

/-- The tokens after a pass on the token, which then points to another server. -/
def moved (endpoint : String) : ObjectKey → Option Token := fun key =>
  ((issuePass.play issuing unissuedTraffic.tokens).2 key).map fun token =>
    { token with spec := { token.spec with endpoint := endpoint } }

def hostPass : Running := (reconcile context .proxyHost (host "web" false [⟨"10.0.0.1", 80⟩])).run

/-- What the passes on the token and on the host asked before the host's session is to be set up. -/
def asked (endpoint : String) : List (Exchange Effects) :=
  issuePass.heard issuing unissuedTraffic.tokens ++ hostPass.heard issuing (moved endpoint)

def session? : Running → Option Remote.Session
  | .ask (.connect session) _ => some session
  | _ => none

theorem eq_ask_of_session? {pass : Running} {session : Remote.Session}
    (connects : session? pass = some session) : ∃ next, pass = .ask (.connect session) next := by
  unfold session? at connects
  split at connects
  · next other next =>
    rcases Option.some.inj connects with rfl
    exact ⟨next, rfl⟩
  · cases connects

theorem reaches_connect {endpoint : String} {session : Remote.Session}
    (connects : session? (hostPass.play issuing (moved endpoint)).1 = some session) :
    ∃ now, Relation.ReflTransGen Traffic.Step unissuedTraffic now ∧
      now.log = asked endpoint ++ [⟨.connect session, .ok ()⟩] := by
  let tokens := (issuePass.play issuing unissuedTraffic.tokens).2
  let issued := (issuePass.play issuing unissuedTraffic.tokens).1
  let log := issuePass.heard issuing unissuedTraffic.tokens
  have issues := Traffic.reaches_of_goes (issuing_allowed.goes_heard issuePass unissuedTraffic.tokens)
    [] []
  have edits : Traffic.Step ⟨tokens, [issued], log⟩ ⟨moved endpoint, [issued], log⟩ := by
    apply Traffic.Step.edited
    intro key token known
    rcases Option.map_eq_some_iff.mp known with ⟨old, found, rfl⟩
    exact .inr ⟨old, found, rfl⟩
  have seeks := Traffic.reaches_of_goes (issuing_allowed.goes_heard hostPass (moved endpoint))
    [issued] log
  rcases eq_ask_of_session? connects with ⟨next, rest⟩
  rw [rest] at seeks
  have begun : Relation.ReflTransGen Traffic.Step unissuedTraffic ⟨tokens, [issued], log⟩ :=
    .head (.begins context .token unissued) issues
  have sought := ((begun.tail edits).tail
    (.begins context .proxyHost (host "web" false [⟨"10.0.0.1", 80⟩]))).trans seeks
  have serves : Traffic.Serves (hostPass.play issuing (moved endpoint)).2
      ⟨.connect session, .ok ()⟩ _ := .silent rfl
  have connected := sought.tail (.goes (List.nil_append _).symm serves)
  exact ⟨_, connected, rfl⟩

theorem unissuedTraffic_fresh : unissuedTraffic.Fresh where
  tokens key token known := by
    unfold unissuedTraffic at known
    dsimp only at known
    split at known
    · rcases Option.some.inj known with rfl
      rfl
    · cases known
  running := rfl
  log := rfl

end Sample

namespace Traffic

theorem telling_of_one {log : List (Exchange Effects)} {endpoint bearer : String}
    (one : issuances log = [(endpoint, bearer)]) : Telling log := by
  intro first second shared isFirst isSecond
  unfold Issued at isFirst isSecond
  rw [one] at isFirst isSecond
  have fromFirst := List.mem_singleton.mp isFirst
  have fromSecond := List.mem_singleton.mp isSecond
  exact (Prod.mk.inj fromFirst).1.trans (Prod.mk.inj fromSecond).1.symm

/-- As long as the token points to the server that issued its bearer token, a session is set up with what
that server issued. -/
theorem presented_iff_unmoved :
    ∃ (now : Traffic) (earlier : List (Exchange Effects)) (session : Remote.Session),
      Relation.ReflTransGen Step Sample.unissuedTraffic now ∧
      now.log = earlier ++ [⟨.connect session, .ok ()⟩] ∧
      Issued session.endpoint session.bearer earlier := by
  have ⟨now, reaches, split⟩ : ∃ now, Relation.ReflTransGen Step Sample.unissuedTraffic now ∧
      now.log = Sample.asked "http://npm:81" ++ [⟨.connect ⟨"http://npm:81", "bearer"⟩, .ok ()⟩] :=
    Sample.reaches_connect (by decide +kernel)
  have one : issuances (Sample.asked "http://npm:81") = [("http://npm:81", "bearer")] := by
    decide +kernel
  have ⟨exchange, _, token, _, issuer, calls, current⟩ :=
    presented_iff Sample.unissuedTraffic_fresh reaches split
  have same : issuer = token.spec.endpoint := by
    have issued := calls.issued
    unfold Issued at issued
    rw [one] at issued
    exact (Prod.mk.inj (List.mem_singleton.mp issued)).1.trans calls.endpoint.symm
  exact ⟨now, _, _, reaches, split, (current (telling_of_one one)).mpr same⟩

/-- The token points to another server after its bearer token was issued, and before the next pass on it
a host presents the bearer token to that other server. -/
theorem presents_to_stranger :
    ∃ (now : Traffic) (earlier : List (Exchange Effects)) (session : Remote.Session),
      Sample.unissuedTraffic.Fresh ∧
      Relation.ReflTransGen Step Sample.unissuedTraffic now ∧
      now.log = earlier ++ [⟨.connect session, .ok ()⟩] ∧
      Telling earlier ∧ ¬ Issued session.endpoint session.bearer earlier := by
  have ⟨now, reaches, split⟩ : ∃ now, Relation.ReflTransGen Step Sample.unissuedTraffic now ∧
      now.log = Sample.asked "http://new:81" ++ [⟨.connect ⟨"http://new:81", "bearer"⟩, .ok ()⟩] :=
    Sample.reaches_connect (by decide +kernel)
  have one : issuances (Sample.asked "http://new:81") = [("http://npm:81", "bearer")] := by
    decide +kernel
  refine ⟨now, _, _, Sample.unissuedTraffic_fresh, reaches, split, telling_of_one one, ?_⟩
  unfold Issued
  rw [one]
  decide

end Traffic

end ProxyOperator
