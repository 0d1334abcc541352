import ProxyOperator.Proofs.ErrandPasses
/-!
Where bearer tokens come from and where they go. A bearer token is issued by a server, recorded in the status
of a Token together with that server, and presented by passes that find it there. Passes may run at the same
time, so nothing is said here about what the others do, except that nothing that was said is unsaid.
-/
namespace ProxyOperator

open Attempt Reconcile

/-! ## What is known of a bearer token -/

/-- The server that was asked for a bearer token, and the one that it issued. -/
def Exchange.issued? : Exchange Effects → Option (String × String)
  | ⟨.requestToken endpoint _ _, .ok grant⟩ => some (endpoint, grant.bearer)
  | _ => none

def issuances (log : List (Exchange Effects)) : List (String × String) :=
  log.filterMap Exchange.issued?

/-- A server was asked for a bearer token and issued this one. -/
def Issued (endpoint bearer : String) (log : List (Exchange Effects)) : Prop :=
  (endpoint, bearer) ∈ issuances log

/-- A bearer token in a status was issued by the server that the status names. -/
def Token.Status.Vouched (status : Token.Status) (log : List (Exchange Effects)) : Prop :=
  ∀ bearer, status.bearer = some bearer →
    ∃ issuer, status.endpoint = some issuer ∧ Issued issuer bearer log

/-- The tokens that an answer shows. -/
def Exchange.tokens : Exchange Effects → List Token
  | ⟨.read .token _, .ok (some token)⟩ => [token]
  | ⟨.list .token _, .ok tokens⟩ => tokens
  | _ => []

/-- A session is the one that a Token calls for: its server is the one that the Token points to, and its
bearer token was issued by the server that the status names. -/
structure Token.CallsFor (token : Token) (session : Remote.Session) (issuer : String)
    (log : List (Exchange Effects)) : Prop where
  endpoint : token.spec.endpoint = session.endpoint
  bearer : token.statusOrEmpty.bearer = some session.bearer
  named : token.statusOrEmpty.endpoint = some issuer
  issued : Issued issuer session.bearer log

/-- Somebody was shown a Token that calls for a session. -/
def Presentable (session : Remote.Session) (log : List (Exchange Effects)) : Prop :=
  ∃ exchange ∈ log, ∃ token ∈ exchange.tokens, ∃ issuer, token.CallsFor session issuer log

section

variable {earlier later : List (Exchange Effects)}

theorem Issued.mono {endpoint bearer : String} (grows : earlier ⊆ later)
    (issued : Issued endpoint bearer earlier) : Issued endpoint bearer later := by
  rcases List.mem_filterMap.mp issued with ⟨exchange, heard, same⟩
  exact List.mem_filterMap.mpr ⟨exchange, grows heard, same⟩

theorem Token.Status.Vouched.mono {status : Token.Status} (grows : earlier ⊆ later)
    (vouched : status.Vouched earlier) : status.Vouched later := by
  intro bearer known
  rcases vouched bearer known with ⟨issuer, named, issued⟩
  exact ⟨issuer, named, issued.mono grows⟩

theorem Token.CallsFor.mono {token : Token} {session : Remote.Session} {issuer : String}
    (grows : earlier ⊆ later) (calls : token.CallsFor session issuer earlier) :
    token.CallsFor session issuer later :=
  { calls with issued := calls.issued.mono grows }

end

/-! ## What passes live up to -/

/-- While others go on asking, a request is answered, and no Token is shown that is not vouched for. -/
structure Trusts (before : List (Exchange Effects)) (exchange : Exchange Effects)
    (after : List (Exchange Effects)) : Prop where
  grows : before ⊆ after
  heard : exchange ∈ after
  vouched : ∀ token ∈ exchange.tokens, token.statusOrEmpty.Vouched after

/-- A session is set up only as some Token calls for it, and no Token is given a status that is not vouched
for. -/
def Effect.Honors (log : List (Exchange Effects)) : Effect → Prop
  | .connect session => Presentable session log
  | .writeStatus .token _ _ status => status.Vouched log
  | _ => True

theorem Effect.Honors.mono {effect : Effect} {earlier later : List (Exchange Effects)}
    (grows : earlier ⊆ later) (honors : effect.Honors earlier) : effect.Honors later := by
  cases effect with
  | connect session =>
      rcases honors with ⟨exchange, heard, token, shows, issuer, calls⟩
      exact ⟨exchange, grows heard, token, shows, issuer, calls.mono grows⟩
  | writeStatus kind =>
      cases kind with
      | token => exact Token.Status.Vouched.mono grows honors
      | _ => trivial
  | _ => trivial

abbrev Honest (before : List (Exchange Effects)) (exchange : Exchange Effects)
    (_ : List (Exchange Effects)) : Prop :=
  exchange.request.Honors before

/-- Whatever is known when it begins, an attempt presents and records bearer tokens as it should. -/
def Discreet {ε α : Type} (attempt : Attempt ε α) : Prop :=
  ∀ log, Meets Trusts Honest (fun _ _ => True) (fun _ _ => True) attempt log

/-- The request has nothing to do with bearer tokens. -/
def Effect.Plain : Effect → Prop
  | .connect _ => False
  | .writeStatus kind _ _ _ => kind ≠ .token
  | _ => True

namespace Effect

variable {effect : Effect}

theorem Plain.honors {log : List (Exchange Effects)} (plain : effect.Plain) : effect.Honors log := by
  cases effect with
  | connect => exact plain.elim
  | writeStatus kind =>
      cases kind with
      | token => exact (plain rfl).elim
      | _ => trivial
  | _ => trivial

theorem Plain.of_looks (looks : effect.Looks) : effect.Plain := by
  cases effect with
  | connect | writeStatus => exact looks.elim
  | _ => trivial

theorem Plain.of_consults {collection : Remote.Collection} (consults : effect.Consults collection) :
    effect.Plain := by
  cases effect with
  | connect | writeStatus => exact consults.elim
  | _ => trivial

end Effect

namespace Discreet

variable {ε α β : Type}

theorem of_asks {attempt : Attempt ε α} (asks : Asks Effect.Plain attempt) : Discreet attempt :=
  Always.of_asks asks fun _ _ _ plain _ => plain.honors

theorem bind {attempt : Attempt ε α} {next : α → Attempt ε β} (first : Discreet attempt)
    (rest : ∀ value, Discreet (next value)) : Discreet (attempt >>= next) :=
  Always.bind first rest

theorem staged {stage : Stage} {pass : Pass α} (discreet : Discreet pass) :
    Discreet (stage.run pass) :=
  Always.staged discreet

end Discreet

/-! ## Finding a Token and presenting it -/

theorem mem_of_firstByName {tokens : List Token} {token : Token}
    (first : firstByName tokens = some token) : token ∈ tokens := by
  induction tokens with
  | nil => cases first
  | cons head rest induction =>
      unfold firstByName at first
      split at first
      · rcases Option.some.inj first with rfl
        exact List.mem_cons_self
      · next other found =>
        split at first
        · exact List.mem_cons_of_mem _ (induction (found.trans first))
        · rcases Option.some.inj first with rfl
          exact List.mem_cons_self

/-- A Token was shown, and is vouched for. -/
def Token.Shown (token : Token) (log : List (Exchange Effects)) : Prop :=
  (∃ exchange ∈ log, token ∈ exchange.tokens) ∧ token.statusOrEmpty.Vouched log

theorem Trusts.shown {before after : List (Exchange Effects)} {exchange : Exchange Effects}
    {token : Token} (trusts : Trusts before exchange after) (shows : token ∈ exchange.tokens) :
    token.Shown after :=
  ⟨⟨exchange, trusts.heard, shows⟩, trusts.vouched token shows⟩

theorem listIn_shows (scope : String) (log : List (Exchange Effects)) :
    Meets Trusts Honest (fun tokens after => ∀ token ∈ tokens, Token.Shown token after)
      (fun _ _ => True) (Pass.listIn .token scope) log := by
  intro answer after trusts
  apply And.intro trivial
  cases answer with
  | error failure => trivial
  | ok tokens => exact fun token member => trusts.shown member

theorem findToken_shows (context : Context) (reference : Option ResourceRef) («namespace» : String)
    (log : List (Exchange Effects)) :
    Meets Trusts Honest (fun token after => token.Shown after) (fun _ _ => True)
      (findToken context reference «namespace») log := by
  unfold findToken
  cases reference with
  | some reference =>
      apply Meets.bind
      intro answer after trusts
      apply And.intro trivial
      cases answer with
      | error failure => trivial
      | ok found =>
          change Meets _ _ _ _ (Pass.demand _ found) after
          apply Meets.demand
          · intro token same
            subst same
            exact trusts.shown (List.mem_singleton_self _)
          · exact fun _ => trivial
  | none =>
      have picks (candidates : List Token) (failure : Failure) (after : List (Exchange Effects))
          (shown : ∀ token ∈ candidates, token.Shown after) :
          Meets Trusts Honest (fun token after => token.Shown after) (fun _ _ => True)
            (Pass.demand failure (firstByName candidates)) after :=
        .demand (fun token first => shown token (mem_of_firstByName first)) fun _ => trivial
      apply Meets.bind
      apply (listIn_shows _ log).mono _ fun _ _ _ => trivial
      intro own after shown
      dsimp only
      split
      · apply Meets.bind
        apply (listIn_shows _ after).mono _ fun _ _ _ => trivial
        exact fun candidates after shown => picks candidates _ after shown
      · exact picks own _ after shown

theorem bearer_of_usable {token : Token} {now : Instant} {bearer : String}
    (usable : token.usableBearer? now = some bearer) : token.statusOrEmpty.bearer = some bearer := by
  rcases Option.bind_eq_some_iff.mp usable with ⟨status, known, usable⟩
  rw [Resource.statusOrEmpty, known, Option.getD_some]
  unfold Token.Status.usableBearer? at usable
  split at usable
  · split at usable
    · next same _ _ => exact same.trans usable
    · cases usable
  · cases usable

/-- Whoever sets up a session does so as the Token that it found calls for it. -/
theorem connect_discreet (context : Context) (reference : Option ResourceRef)
    («namespace» : String) : Discreet (connect context reference «namespace») := by
  intro log
  apply Meets.bind
  apply (findToken_shows context reference «namespace» log).mono _ fun _ _ _ => trivial
  intro token after shown
  apply Meets.bind
  apply Meets.demand
  · intro bearer usable
    have known := bearer_of_usable usable
    rcases shown.2 bearer known with ⟨issuer, named, issued⟩
    apply Meets.bind
    intro answer later trusts
    refine ⟨?_, ?_⟩
    · rcases shown.1 with ⟨exchange, heard, shows⟩
      exact ⟨exchange, heard, token, shows, issuer, rfl, known, named, issued⟩
    · cases answer <;> trivial
  · exact fun _ => trivial

/-! ## Issuing -/

theorem issue_issues {token : Token} {issue : Staged Remote.Grant}
    (issuing : Tokens.issue token = issue) (log : List (Exchange Effects)) :
    Meets Trusts Honest (fun grant after => Issued token.spec.endpoint grant.bearer after)
      (fun _ _ => True) issue log := by
  have reads (key : ObjectKey) (field : String) (stage : Stage) :
      Discreet (stage.run (secretText key field)) :=
    .staged (.of_asks ((secretText_asks key field).mono fun _ => .of_looks))
  have requests (identity secret : String) (log : List (Exchange Effects)) :
      Meets Trusts Honest (fun grant after => Issued token.spec.endpoint grant.bearer after)
        (fun _ _ => True)
        (Stage.token.run (Pass.requestToken token.spec.endpoint identity secret)) log := by
    apply Meets.staged
    intro answer after trusts
    apply And.intro trivial
    cases answer with
    | error failure => trivial
    | ok grant => exact List.mem_filterMap.mpr ⟨_, trusts.heard, rfl⟩
  have logsIn (log : List (Exchange Effects)) :
      Meets Trusts Honest (fun grant after => Issued token.spec.endpoint grant.bearer after)
        (fun _ _ => True)
        (do
          let key : ObjectKey := ⟨token.metadata.spokenKey.namespace, token.spec.secret.name⟩
          let identity ← Stage.secret.run (secretText key token.spec.secret.identityKey)
          let secret ← Stage.secret.run (secretText key token.spec.secret.secretKey)
          Stage.token.run
            (Pass.requestToken token.spec.endpoint (trimText identity) secret) : Staged Remote.Grant)
        log := by
    apply Meets.bind
    apply (reads _ _ _ log).mono _ fun _ _ _ => trivial
    intro identity after _
    apply Meets.bind
    apply (reads _ _ _ after).mono _ fun _ _ _ => trivial
    exact fun secret after _ => requests _ secret after
  rw [← issuing]
  unfold Tokens.issue
  dsimp only
  split
  · exact .bind (.throw trivial)
  · exact logsIn log

/-- A Token is given a status that is vouched for, however often it is tried. -/
theorem updateStatus_honest {context : Context} {key : ObjectKey}
    {change : Token.Status → Token.Status} {log : List (Exchange Effects)}
    (keeps : ∀ status later, log ⊆ later → Token.Status.Vouched status later →
      (change status).Vouched later) :
    Meets Trusts Honest (fun _ _ => True) (fun _ _ => True)
      (updateStatus context .token key change) log := by
  have begun : log ⊆ log := List.Subset.refl log
  refine Meets.updateStatus (fun latest later => log ⊆ later ∧ latest.statusOrEmpty.Vouched later)
    ?_ ?_ ?_ begun
  · exact fun time before after reached trusts => ⟨trivial, List.Subset.trans reached trusts.grows⟩
  · intro answer before after reached read
    have grown : log ⊆ after := List.Subset.trans reached read.grows
    apply And.intro trivial
    match answer with
    | .error failure => exact ⟨trivial, grown⟩
    | .ok none => trivial
    | .ok (some latest) => exact ⟨grown, read.vouched latest (List.mem_singleton_self _)⟩
  · intro latest revision answer before after ⟨grown, vouched⟩ written
    apply And.intro (keeps _ _ grown vouched)
    cases answer with
    | ok _ => trivial
    | error failure => exact ⟨trivial, List.Subset.trans grown written.grows⟩

/-- What was issued is recorded together with the server that issued it. -/
theorem finish_honest {context : Context} {token : Token} {issue : Staged Remote.Grant}
    {delay : Remote.Grant → Action} {log : List (Exchange Effects)}
    (issues : Meets Trusts Honest (fun grant after => Issued token.spec.endpoint grant.bearer after)
      (fun _ _ => True) issue log) :
    Meets Trusts Honest (fun _ _ => True) (fun _ _ => True)
      (finish context token issue fun grant => do
        announceDone token Event.tokenRefreshed ("valid until " ++ grant.expires.display)
        updateStatus context .token token.metadata.spokenKey
          (Tokens.issued context token.spec.endpoint grant)
        return delay grant) log := by
  apply Meets.finish (issues.mono _ fun _ _ _ => trivial)
  · exact fun _ _ _ _ _ _ => ⟨trivial, trivial⟩
  · intro _ before _ change
    exact updateStatus_honest fun status later _ vouched => vouched
  · intro grant after issued
    have told : Asks Effect.Plain (announceDone token Event.tokenRefreshed
        ("valid until " ++ grant.expires.display)) :=
      announce_asks (fun _ => trivial) _ _ _ _ _
    have keeps (before : List (Exchange Effects)) (exchange : Exchange Effects)
        (later : List (Exchange Effects)) (plain : exchange.request.Plain) (grown : after ⊆ before)
        (trusts : Trusts before exchange later) : Honest before exchange later ∧ after ⊆ later :=
      ⟨plain.honors, List.Subset.trans grown trusts.grows⟩
    apply Meets.bind_asks keeps (fun _ _ _ => trivial) told (List.Subset.refl after)
    intro _ later grown
    apply Meets.bind
    refine (updateStatus_honest fun status latest grows _ => ?_).mono (fun _ _ _ => .pure trivial)
      fun _ _ _ => trivial
    intro bearer same
    rcases Option.some.inj same with rfl
    exact ⟨_, rfl, issued.mono (List.Subset.trans grown grows)⟩

theorem Tokens.reconcile_discreet (context : Context) (token : Token) :
    Discreet (Tokens.reconcile context token) := by
  intro log
  unfold Tokens.reconcile
  dsimp only
  split
  · exact .pure trivial
  · split
    · -- opened, the check of the endpoint would be evaluated
      generalize issuing : Tokens.issue token = issue
      exact finish_honest (issue_issues issuing log)
    · exact .pure trivial

end ProxyOperator
