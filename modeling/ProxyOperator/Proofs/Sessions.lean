import Mathlib.Data.List.Nodup
import Mathlib.Data.String.Basic
import ProxyOperator.Proofs.Bearers
/-!
Which server a pass talks to. It is the one that a Token points to, and which Token that is depends on the
reference that the declaration has, or else on all Tokens that there are: the first by name in the namespace of
the resource, or in the one of the operator if there is none. It is found anew by every pass, and nothing else
is looked at to find it.
-/
namespace ProxyOperator

open Attempt Reconcile

/-! ## Choosing among Tokens -/

/-- The Tokens of a cluster. No two of them are called the same. -/
structure Keyring where
  tokens : List Token
  distinct : (tokens.map (·.metadata.spokenKey)).Nodup

/-- Where a resource looks for its Token. -/
structure TokenSearch where
  /-- The namespace of the operator. -/
  shared : String
  /-- The namespace of the resource. -/
  own : String
  reference : Option ResourceRef

namespace Keyring

variable {keyring : Keyring} {«namespace» : String} {search : TokenSearch} {token other : Token}

/-- A Token is the first one by name in a namespace. -/
structure First (keyring : Keyring) («namespace» : String) (token : Token) : Prop where
  there : token ∈ keyring.tokens
  within : token.metadata.spokenKey.namespace = «namespace»
  first : ∀ other ∈ keyring.tokens, other.metadata.spokenKey.namespace = «namespace» →
    token.metadata.spokenName ≤ other.metadata.spokenName

/-- A Token stands for a resource that looks for one. -/
inductive Selects (keyring : Keyring) : TokenSearch → Token → Prop
  | named {shared own : String} {reference : ResourceRef} {token : Token}
      (there : token ∈ keyring.tokens)
      (called : token.metadata.spokenKey = reference.resolve own) :
      Selects keyring ⟨shared, own, some reference⟩ token
  | own {shared own : String} {token : Token} (first : keyring.First own token) :
      Selects keyring ⟨shared, own, none⟩ token
  | shared {shared own : String} {token : Token}
      (missing : ∀ other ∈ keyring.tokens, other.metadata.spokenKey.namespace ≠ own)
      (first : keyring.First shared token) : Selects keyring ⟨shared, own, none⟩ token

/-- The Token that stands for a resource points to a server. -/
def LeadsTo (keyring : Keyring) (search : TokenSearch) (endpoint : String) : Prop :=
  ∃ token, keyring.Selects search token ∧ token.spec.endpoint = endpoint

theorem eq_of_called (there : token ∈ keyring.tokens) (stays : other ∈ keyring.tokens)
    (same : token.metadata.spokenKey = other.metadata.spokenKey) : token = other :=
  List.inj_on_of_nodup_map keyring.distinct there stays same

theorem First.unique (first : keyring.First «namespace» token)
    (again : keyring.First «namespace» other) : token = other := by
  have sameName : token.metadata.spokenName = other.metadata.spokenName :=
    le_antisymm (first.first other again.there again.within)
      (again.first token first.there first.within)
  have sameSpace := first.within.trans again.within.symm
  apply eq_of_called first.there again.there
  unfold Metadata.spokenKey at sameSpace ⊢
  exact ObjectKey.mk.injEq .. ▸ ⟨sameSpace, sameName⟩

/-- At most one Token stands for a resource. -/
theorem Selects.unique (selects : keyring.Selects search token)
    (again : keyring.Selects search other) : token = other := by
  cases selects with
  | named there called =>
      cases again with
      | named stays named => exact eq_of_called there stays (called.trans named.symm)
  | own first =>
      cases again with
      | own again => exact first.unique again
      | shared missing => exact absurd first.within (missing token first.there)
  | shared missing first =>
      cases again with
      | own again => exact absurd again.within (missing other again.there)
      | shared _ again => exact first.unique again

theorem LeadsTo.unique {first second : String} (leads : keyring.LeadsTo search first)
    (again : keyring.LeadsTo search second) : first = second := by
  obtain ⟨token, selects, rfl⟩ := leads
  obtain ⟨other, chosen, rfl⟩ := again
  rw [selects.unique chosen]

end Keyring

/-! ## Looking for a Token -/

/-- What is answered about Tokens is so. Answers about anything else, and failures, say nothing. -/
def Exchange.Shows (keyring : Keyring) : Exchange Effects → Prop
  | ⟨.read .token key, .ok found⟩ =>
      ∀ token ∈ found, token ∈ keyring.tokens ∧ token.metadata.spokenKey = key
  | ⟨.list .token (some «namespace»), .ok found⟩ =>
      ∀ token, token ∈ found ↔
        token ∈ keyring.tokens ∧ token.metadata.spokenKey.namespace = «namespace»
  | _ => True

/-- Tokens are looked up without failure, all of them are there, and a session is let in. -/
def Exchange.Admits (keyring : Keyring) (session : Remote.Session) : Exchange Effects → Prop
  | ⟨.read .token key, answer⟩ => ∃ found, answer = .ok found ∧ ∀ token,
      found = some token ↔ token ∈ keyring.tokens ∧ token.metadata.spokenKey = key
  | ⟨.list .token (some «namespace»), answer⟩ => ∃ found, answer = .ok found ∧ ∀ token,
      token ∈ found ↔ token ∈ keyring.tokens ∧ token.metadata.spokenKey.namespace = «namespace»
  | ⟨.connect other, answer⟩ => other = session → answer = .ok ()
  | _ => True

/-- A world in which no Token is made, removed or edited. -/
def Showing : Conduct Effects Keyring := fun before exchange after =>
  exchange.Shows before ∧ after = before

/-- Whatever is asked of a server is asked of the one that the Token of a resource points to. -/
def Effect.Heads (keyring : Keyring) (search : TokenSearch) : Effect → Prop
  | .connect session => keyring.LeadsTo search session.endpoint
  | .remote session _ => keyring.LeadsTo search session.endpoint
  | _ => True

abbrev Heading (search : TokenSearch) (before : Keyring) (exchange : Exchange Effects)
    (_ : Keyring) : Prop :=
  exchange.request.Heads before search

/-- Whatever Tokens there are, an attempt talks to no server but the one that they lead to. -/
abbrev Directed {ε α : Type} (search : TokenSearch) (attempt : Attempt ε α) : Prop :=
  Always Showing (Heading search) attempt

/-- The request is made to no server, or within a session, and leaves finalizers alone. -/
def Effect.Within (session : Remote.Session) : Effect → Prop
  | .connect _ => False
  | .addFinalizer _ _ => False
  | .removeFinalizer _ _ => False
  | .remote other _ => other = session
  | _ => True

/-- The request is made to no server. -/
def Effect.Indoors : Effect → Prop
  | .connect _ => False
  | .remote _ _ => False
  | _ => True

namespace Effect

variable {effect : Effect} {session : Remote.Session}

theorem Indoors.heads {keyring : Keyring} {search : TokenSearch} (indoors : effect.Indoors) :
    effect.Heads keyring search := by
  cases effect with
  | connect | remote => exact indoors.elim
  | _ => trivial

theorem Within.heads {keyring : Keyring} {search : TokenSearch} (within : effect.Within session)
    (leads : keyring.LeadsTo search session.endpoint) : effect.Heads keyring search := by
  cases effect with
  | connect => exact within.elim
  | remote other request =>
      obtain rfl : other = session := within
      exact leads
  | _ => trivial

theorem Within.of_looks (looks : effect.Looks) : effect.Within session := by
  cases effect with
  | connect | addFinalizer | removeFinalizer | remote => exact looks.elim
  | _ => trivial

end Effect

namespace Reconcile

theorem eq_nil_of_firstByName {tokens : List Token} (none : firstByName tokens = none) :
    tokens = [] := by
  cases tokens with
  | nil => rfl
  | cons head rest =>
      unfold firstByName at none
      split at none
      · cases none
      · split at none <;> cases none

theorem firstByName_le {tokens : List Token} {token : Token}
    (first : firstByName tokens = some token) :
    ∀ other ∈ tokens, token.metadata.spokenName ≤ other.metadata.spokenName := by
  induction tokens generalizing token with
  | nil => cases first
  | cons head rest induction =>
      intro other member
      unfold firstByName at first
      split at first
      · next none =>
        obtain rfl := Option.some.inj first
        rw [eq_nil_of_firstByName none] at member
        obtain rfl := List.mem_singleton.mp member
        exact le_rfl
      · next best found =>
        have least := induction found
        split at first
        · next before =>
          obtain rfl := Option.some.inj first
          rcases List.mem_cons.mp member with rfl | later
          · exact le_of_lt before
          · exact least other later
        · next before =>
          obtain rfl := Option.some.inj first
          rcases List.mem_cons.mp member with rfl | later
          · exact le_rfl
          · exact (not_lt.mp before).trans (least other later)

variable {keyring : Keyring} {«namespace» : String} {context : Context}
  {reference : Option ResourceRef}

/-- The first one by name of all Tokens of a namespace. -/
theorem first_of_listed {found : List Token} {token : Token}
    (shown : ∀ token, token ∈ found ↔
      token ∈ keyring.tokens ∧ token.metadata.spokenKey.namespace = «namespace»)
    (first : firstByName found = some token) : keyring.First «namespace» token := by
  have ⟨there, within⟩ := (shown token).mp (mem_of_firstByName first)
  refine ⟨there, within, fun other stays same => ?_⟩
  exact firstByName_le first other ((shown other).mpr ⟨stays, same⟩)

/-- Where a pass in a context looks for the Token of a resource. -/
def searchFor (context : Context) (reference : Option ResourceRef) («namespace» : String) :
    TokenSearch :=
  ⟨context.settings.operatorNamespace, «namespace», reference⟩

theorem listIn_answers (keyring : Keyring) («namespace» : String) {search : TokenSearch} :
    Meets Showing (Heading search)
      (fun found after => after = keyring ∧ ∀ token, token ∈ found ↔
        token ∈ keyring.tokens ∧ token.metadata.spokenKey.namespace = «namespace»)
      (fun _ _ => True) (Pass.listIn .token «namespace») keyring := by
  rintro answer after ⟨shown, rfl⟩
  apply And.intro trivial
  cases answer with
  | error failure => trivial
  | ok found => exact ⟨rfl, shown⟩

/-- The Token that is found is the one that stands for the resource. -/
theorem findToken_selects (keyring : Keyring) :
    Meets Showing (Heading (searchFor context reference «namespace»))
      (fun token after => after = keyring ∧
        keyring.Selects (searchFor context reference «namespace») token)
      (fun _ _ => True) (findToken context reference «namespace») keyring := by
  unfold findToken
  cases reference with
  | some reference =>
      apply Meets.bind
      rintro answer after ⟨shown, rfl⟩
      apply And.intro trivial
      cases answer with
      | error failure => trivial
      | ok found =>
          refine Meets.demand (fun token same => ?_) fun _ => trivial
          have ⟨there, called⟩ := shown token same
          exact ⟨rfl, .named there called⟩
  | none =>
      apply Meets.bind
      refine (listIn_answers keyring «namespace»).mono ?_ fun _ _ _ => trivial
      rintro own after ⟨rfl, shown⟩
      dsimp only
      split
      · next empty =>
        apply Meets.bind
        refine (listIn_answers after _).mono ?_ fun _ _ _ => trivial
        rintro candidates _ ⟨rfl, shared⟩
        refine Meets.demand (fun token first => ⟨rfl, .shared ?_ (first_of_listed shared first)⟩)
          fun _ => trivial
        intro other there within
        have listed := (shown other).mpr ⟨there, within⟩
        rw [List.isEmpty_iff.mp empty.1] at listed
        cases listed
      · exact Meets.demand (fun token first => ⟨rfl, .own (first_of_listed shown first)⟩)
          fun _ => trivial

/-- A session is one with the server that the Token of the resource points to. -/
theorem connect_leads (keyring : Keyring) :
    Meets Showing (Heading (searchFor context reference «namespace»))
      (fun session after => after = keyring ∧
        keyring.LeadsTo (searchFor context reference «namespace») session.endpoint)
      (fun _ _ => True) (connect context reference «namespace») keyring := by
  apply Meets.bind
  refine (findToken_selects keyring).mono ?_ fun _ _ _ => trivial
  rintro token after ⟨rfl, selects⟩
  apply Meets.bind
  refine Meets.demand (fun bearer _ => ?_) fun _ => trivial
  have leads : after.LeadsTo (searchFor context reference «namespace») token.spec.endpoint :=
    ⟨token, selects, rfl⟩
  apply Meets.bind
  rintro answer _ ⟨_, rfl⟩
  refine ⟨leads, ?_⟩
  cases answer with
  | error failure => trivial
  | ok _ => exact ⟨rfl, leads⟩

/-! ## Getting in -/

section

variable {σ : Type} {conduct : Conduct Effects σ} {session : Remote.Session} {token : Token}

/-- Of the Tokens that are listed, the one that is chosen is the first one by name of the namespace. -/
theorem firstByName_of_listed {found : List Token} (first : keyring.First «namespace» token)
    (shown : ∀ token, token ∈ found ↔
      token ∈ keyring.tokens ∧ token.metadata.spokenKey.namespace = «namespace») :
    firstByName found = some token := by
  cases chosen : firstByName found with
  | none =>
      have listed := (shown token).mpr ⟨first.there, first.within⟩
      rw [eq_nil_of_firstByName chosen] at listed
      cases listed
  | some other => exact congrArg some ((first_of_listed shown chosen).unique first)

theorem listIn_lists
    (admits : ∀ before exchange after, conduct before exchange after →
      exchange.Admits keyring session) (state : σ) :
    Meets conduct (fun _ _ _ => True)
      (fun found _ => ∀ token, token ∈ found ↔
        token ∈ keyring.tokens ∧ token.metadata.spokenKey.namespace = «namespace»)
      (fun _ _ => False) (Pass.listIn .token «namespace») state := by
  intro answer after answered
  obtain ⟨found, rfl, shown⟩ := admits _ _ _ answered
  exact ⟨trivial, shown⟩

/-- A Token that stands for a resource is found, if Tokens can be looked up. -/
theorem findToken_finds
    (admits : ∀ before exchange after, conduct before exchange after →
      exchange.Admits keyring session)
    (selects : keyring.Selects (searchFor context reference «namespace») token) (state : σ) :
    Meets conduct (fun _ _ _ => True) (fun found _ => found = token) (fun _ _ => False)
      (findToken context reference «namespace») state := by
  unfold findToken
  cases reference with
  | some reference =>
      cases selects with
      | named there called =>
          apply Meets.bind
          intro answer after answered
          obtain ⟨found, rfl, shown⟩ := admits _ _ _ answered
          obtain rfl : found = some token := (shown token).mpr ⟨there, called⟩
          exact ⟨trivial, Meets.pure rfl⟩
  | none =>
      apply Meets.bind
      refine (listIn_lists admits state).mono ?_ fun _ _ none => none
      intro own between shown
      dsimp only
      cases selects with
      | own first =>
          have listed := (shown token).mpr ⟨first.there, first.within⟩
          rw [if_neg fun empty => List.ne_nil_of_mem listed (List.isEmpty_iff.mp empty.1), pure_bind,
            firstByName_of_listed first shown]
          exact Meets.pure rfl
      | shared missing first =>
          have empty : own = [] := List.eq_nil_iff_forall_not_mem.mpr fun other listed =>
            missing other ((shown other).mp listed).1 ((shown other).mp listed).2
          have apart : «namespace» ≠ context.settings.operatorNamespace := by
            rintro rfl
            exact missing token first.there first.within
          rw [if_pos ⟨List.isEmpty_iff.mpr empty, apart⟩]
          apply Meets.bind
          refine (listIn_lists admits between).mono ?_ fun _ _ none => none
          intro candidates _ shared
          rw [firstByName_of_listed first shared]
          exact Meets.pure rfl

/-- A session is set up with the server of the Token that stands for the resource, if it is let in, and nothing
is asked after that. -/
theorem connect_succeeds {bearer : String}
    (admits : ∀ before exchange after, conduct before exchange after →
      exchange.Admits keyring ⟨token.spec.endpoint, bearer⟩)
    (selects : keyring.Selects (searchFor context reference «namespace») token)
    (bears : token.usableBearer? context.now = some bearer) (state : σ) :
    Meets conduct (fun _ _ _ => True)
      (fun session after => ∃ before, conduct before ⟨.connect session, .ok ()⟩ after)
      (fun _ _ => False) (connect context reference «namespace») state := by
  apply Meets.bind
  refine (findToken_finds admits selects state).mono ?_ fun _ _ none => none
  rintro _ between rfl
  rw [bears]
  apply Meets.bind
  intro answer after answered
  obtain rfl : answer = .ok () := admits _ _ _ answered rfl
  exact ⟨trivial, Meets.pure ⟨between, answered⟩⟩

end

/-- In the course of a pass, its Token can be found, has a bearer token that can still be used, and the
server that it points to lets the pass in. -/
def LetsIn (context : Context) (reference : Option ResourceRef) («namespace» : String)
    (log : List (Exchange Effects)) : Prop :=
  ∃ keyring token bearer,
    Keyring.Selects keyring (searchFor context reference «namespace») token ∧
    token.usableBearer? context.now = some bearer ∧
    ∀ exchange ∈ log, exchange.Admits keyring ⟨token.spec.endpoint, bearer⟩

/-! ## Passes -/

variable {kind : Kind} {session : Remote.Session} {search : TokenSearch} {α ε : Type}

theorem directed_of_indoors {attempt : Attempt ε α} (asks : Asks Effect.Indoors attempt) :
    Directed search attempt :=
  .of_asks asks fun _ _ _ indoors _ => indoors.heads

/-- What goes on within a session with the right server talks to no other one. -/
theorem heading_of_within {attempt : Attempt ε α} (leads : keyring.LeadsTo search session.endpoint)
    (asks : Asks (Effect.Within session) attempt) :
    Meets Showing (Heading search) (fun _ _ => True) (fun _ _ => True) attempt keyring := by
  have keeps : ∀ before exchange after, exchange.request.Within session → before = keyring →
      Showing before exchange after → Heading search before exchange after ∧ after = keyring := by
    rintro before exchange after within rfl ⟨_, rfl⟩
    exact ⟨within.heads leads, rfl⟩
  exact (Meets.of_asks asks keeps rfl).mono (fun _ _ _ => trivial) fun _ _ _ => trivial

theorem connected_directed {work : Remote.Session → Pass α}
    (within : ∀ session, Asks (Effect.Within session) (work session)) :
    Directed (searchFor context reference «namespace»)
      (connect context reference «namespace» >>= work) := by
  intro keyring
  apply Meets.bind
  refine (connect_leads keyring).mono ?_ fun _ _ _ => trivial
  rintro session after ⟨rfl, leads⟩
  exact heading_of_within leads (within session)

/-- A declaration is checked and a session is set up, and all the rest goes on within that session. -/
def InSession (context : Context) (reference : Option ResourceRef) («namespace» : String)
    (attempt : Staged α) : Prop :=
  ∃ (check : Except Problem Unit) (rest : Remote.Session → Staged α),
    attempt = (do
      Stage.check check
      rest (← Stage.token.run (connect context reference «namespace»))) ∧
    ∀ session, Asks (Effect.Within session) (rest session)

theorem InSession.directed {attempt : Staged α}
    (inSession : InSession context reference «namespace» attempt) :
    Directed (searchFor context reference «namespace») attempt := by
  obtain ⟨check, rest, rfl, within⟩ := inSession
  refine .bind (directed_of_indoors .check) fun _ keyring => ?_
  apply Meets.bind
  refine Meets.staged ((connect_leads keyring).mono ?_ fun _ _ _ => trivial)
  rintro session after ⟨rfl, leads⟩
  exact heading_of_within leads (within session)

theorem upkeep_indoors {key : ObjectKey} : Upkeep Effect.Indoors kind key :=
  ⟨trivial, fun _ _ => trivial, fun _ => trivial, fun _ => trivial⟩

theorem upkeep_within {key : ObjectKey} : Upkeep (Effect.Within session) kind key :=
  ⟨trivial, fun _ _ => trivial, fun _ => trivial, fun _ => trivial⟩

theorem finish_directed {resource : Resource kind} {converge : Staged α}
    {succeed : α → Pass Action} (converges : Directed search converge)
    (succeeds : ∀ outcome, Asks Effect.Indoors (succeed outcome)) :
    Directed search (finish context resource converge succeed) :=
  .finish (fun _ _ _ _ => trivial) (fun _ => directed_of_indoors upkeep_indoors.updateStatus)
    converges fun outcome => directed_of_indoors (succeeds outcome)

theorem cleanup_directed (adopting : Adopting kind) {resource : Resource kind} :
    Directed (searchFor context (adopting.token resource.spec)
        resource.metadata.spokenKey.namespace)
      (dismiss resource (adopting.cleanup context resource)) := by
  refine .dismiss (fun _ _ _ _ => trivial) (fun _ _ _ _ => trivial) fun pass member => ?_
  obtain rfl := Adopting.eq_of_cleanup member
  exact connected_directed fun session => Adopting.cleanUp_asks (fun _ _ _ => rfl)
    (fun _ _ => rfl) (fun _ _ => rfl) fun _ _ => rfl

theorem ProxyHosts.upgrade_within {host : ProxyHost} {certificate : HostCertificate}
    {accessListId : Option UInt32} {remote : Remote.Host} :
    Asks (Effect.Within session) (upgrade session host certificate accessListId remote) := by
  refine .bind (.staged ((resolveTargets_asks host true).mono fun _ => .of_looks)) fun targets => ?_
  split
  · exact .pure
  · exact .staged ⟨rfl, fun _ => trivial⟩

theorem ProxyHosts.converge_inSession (host : ProxyHost) :
    InSession context host.spec.token host.metadata.spokenKey.namespace (converge context host) := by
  refine ⟨_, _, rfl, fun session => ?_⟩
  refine .bind (.staged ((checkClaims_asks host).mono fun _ => .of_looks)) fun _ => ?_
  refine .bind (Adopting.findRemote_asks upkeep_within rfl fun _ => rfl) fun found => ?_
  refine .bind (.staged (HostCertificate.resolve_permitted _ _ _ _ _ (fun _ _ => rfl)
    (fun _ _ _ _ => trivial) fun _ _ _ _ => trivial)) fun certificate => ?_
  refine .bind (.staged (HostAccess.resolve_permitted _ _ _ (fun _ _ => rfl)
    fun _ _ _ _ => trivial)) fun accessListId => ?_
  refine .bind (.staged ((resolveTargets_asks host _).mono fun _ => .of_looks)) fun targets => ?_
  refine .bind (.staged (Adopting.write_asks upkeep_within (fun _ => rfl) rfl)) fun first => ?_
  have enables : ∀ remote : Remote.Host, Asks (Effect.Within session) (do
      unless remote.enabled do
        Stage.remote.run (session.enable .proxyHosts remote.id)
      return ⟨remote.id, found.2, remote.health.online, certificate⟩ : Staged Converged) :=
    fun remote => .doUnless (.staged ⟨rfl, fun _ => trivial⟩) fun _ => .pure
  dsimp only
  split
  · exact .bind upgrade_within enables
  · exact enables first

theorem ProxyHosts.reconcile_directed (host : ProxyHost) :
    Directed (searchFor context host.spec.token host.metadata.spokenKey.namespace)
      (reconcile context host) := by
  unfold reconcile
  split
  · exact cleanup_directed .proxyHosts
  · refine .bind (directed_of_indoors (hold_asks host trivial)) fun _ => ?_
    refine .bind (directed_of_indoors (begin_asks trivial (fun _ _ => trivial) fun _ => trivial))
      fun _ => ?_
    exact finish_directed (converge_inSession host).directed fun _ =>
      .bind upkeep_indoors.updateStatus fun _ => .pure

theorem Streams.converge_inSession (stream : Stream) :
    InSession context stream.spec.token stream.metadata.spokenKey.namespace
      (converge context stream) := by
  refine ⟨_, _, rfl, fun session => ?_⟩
  refine .bind (.staged ((checkClaims_asks stream).mono fun _ => .of_looks)) fun _ => ?_
  refine .bind (Adopting.findRemote_asks upkeep_within rfl fun _ => rfl) fun found => ?_
  refine .bind (.staged ((Target.resolve_asks _ _ _).mono fun _ => .of_looks)) fun target => ?_
  refine .bind (.staged (Adopting.write_asks upkeep_within (fun _ => rfl) rfl)) fun remote => ?_
  exact .doUnless (.staged ⟨rfl, fun _ => trivial⟩) fun _ => .pure

theorem Streams.reconcile_directed (stream : Stream) :
    Directed (searchFor context stream.spec.token stream.metadata.spokenKey.namespace)
      (reconcile context stream) := by
  unfold reconcile
  split
  · exact cleanup_directed .streams
  · refine .bind (directed_of_indoors (hold_asks stream trivial)) fun _ => ?_
    refine .bind (directed_of_indoors (begin_asks trivial (fun _ _ => trivial) fun _ => trivial))
      fun _ => ?_
    exact finish_directed (converge_inSession stream).directed fun _ =>
      .bind upkeep_indoors.updateStatus fun _ => .pure

end Reconcile

end ProxyOperator
