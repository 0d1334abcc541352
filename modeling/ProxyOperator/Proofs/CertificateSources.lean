import ProxyOperator.Proofs.Errands
import ProxyOperator.Proofs.Frames
import ProxyOperator.Proofs.Logs
import ProxyOperator.Proofs.Requests
/-!
The sources of a host's certificate. The first one that is declared decides alone, whatever comes of it: what is
declared after it might as well not be there.
-/
namespace ProxyOperator

open Attempt

namespace ProxyHost.Ssl

/-- Where a certificate may be taken from. -/
inductive Source where
  /-- A LetsEncryptCertificate. -/
  | issued (reference : ResourceRef)
  /-- A CustomCertificate. -/
  | uploaded (reference : ResourceRef)
  /-- The id of a remote certificate. -/
  | given (id : UInt32)
  /-- A certificate that is found or requested for the domains. -/
  | requested

variable (ssl : Ssl)

/-- The first source that is declared, in the order of precedence. -/
def first? : Option Source :=
  ssl.letsEncryptCertificate.map .issued <|> ssl.customCertificate.map .uploaded <|>
    ssl.certificateId.map .given <|> if ssl.autoRequest then some .requested else none

/-- The same without the sources that come after the first one. -/
def foremost : Ssl :=
  match ssl.first? with
  | some (.issued _) =>
      { ssl with customCertificate := none, certificateId := none, autoRequest := false }
  | some (.uploaded _) => { ssl with certificateId := none, autoRequest := false }
  | some (.given _) => { ssl with autoRequest := false }
  | some .requested => ssl
  | none => ssl

theorem first?_foremost : ssl.foremost.first? = ssl.first? := by
  rcases ssl with ⟨given, uploaded, issued, requests, _⟩
  cases issued with
  | some => rfl
  | none =>
      cases uploaded with
      | some => rfl
      | none =>
          cases given with
          | some => rfl
          | none => cases requests <;> rfl

theorem email_foremost : ssl.foremost.email = ssl.email := by
  unfold foremost
  split <;> rfl

end ProxyHost.Ssl

namespace HostCertificate

open ProxyHost (Ssl)

section

variable (session : Remote.Session) (domains : List String) («namespace» : String)

def ofSource (email : Option String) : Ssl.Source → Pass HostCertificate
  | .issued reference => do
      confirm session (← ofResource .letsEncryptCertificate (·.id) (reference.resolve «namespace»))
  | .uploaded reference => do
      confirm session (← ofResource .customCertificate (·.id) (reference.resolve «namespace»))
  | .given id => confirm session id
  | .requested => findOrRequest session domains email

/-- A certificate is taken from the first source. -/
theorem resolve_eq (ssl : Ssl) (defaultEmail : Option String) :
    resolve session (some ssl) domains «namespace» defaultEmail =
      match ssl.first? with
      | some source => ofSource session domains «namespace» (ssl.email <|> defaultEmail) source
      | .none => pure none := by
  rcases ssl with ⟨given, uploaded, issued, requests, _⟩
  cases issued with
  | some => rfl
  | none =>
      cases uploaded with
      | some => rfl
      | none =>
          cases given with
          | some => rfl
          | none => cases requests <;> rfl

theorem resolve_foremost (ssl : Ssl) (defaultEmail : Option String) :
    resolve session (some ssl) domains «namespace» defaultEmail =
      resolve session (some ssl.foremost) domains «namespace» defaultEmail := by
  rw [resolve_eq, resolve_eq, ssl.first?_foremost, ssl.email_foremost]

end

/-! ## Requests for certificates -/

section

variable {session : Remote.Session} {domains : List String} {«namespace» : String} {email : Option String}
  {σ : Type} {conduct : Conduct Effects σ}

/-- From any other source no certificate is requested. -/
theorem ofSource_asks {source : Ssl.Source} (other : source ≠ .requested) :
    Asks (·.creates .certificates = false) (ofSource session domains «namespace» email source) := by
  have confirms (id : UInt32) : Asks (·.creates .certificates = false) (confirm session id) :=
    .bind ⟨rfl, fun _ => trivial⟩ fun _ => .pure
  have reads {kind : Kind} (idOf : kind.Status → Option UInt32) (key : ObjectKey) :
      Asks (·.creates .certificates = false) (ofResource kind idOf key) := by
    apply ofResource_asks
    rfl
  cases source with
  | issued => exact .bind (reads _ _) fun _ => confirms _
  | uploaded => exact .bind (reads _ _) fun _ => confirms _
  | given => exact confirms _
  | requested => exact absurd rfl other

theorem resolve_unrequested {ssl : Ssl} {defaultEmail : Option String} (other : ssl.first? ≠ some .requested) :
    Asks (·.creates .certificates = false)
      (resolve session (some ssl) domains «namespace» defaultEmail) := by
  rw [resolve_eq]
  cases first : ssl.first? with
  | none => exact .pure
  | some source => exact ofSource_asks fun requested => other (first.trans (congrArg some requested))

/-- A certificate is requested, if at all, when the certificates were listed and none of them will do. -/
def RequestsLast (session : Remote.Session) (domains : List String)
    (earlier : List (Exchange Effects)) (exchange : Exchange Effects) : Prop :=
  exchange.request.creates .certificates = true →
    ∃ listed, earlier = [⟨.remote session (.list .certificates), .ok listed⟩] ∧
      Remote.findCertificate domains listed = .none

/-- Every exchange comes after what calls for it. -/
def Step (session : Remote.Session) (domains : List String) (before : σ × List (Exchange Effects))
    (exchange : Exchange Effects) (_ : σ × List (Exchange Effects)) : Prop :=
  RequestsLast session domains before.2 exchange

theorem findOrRequest_requests (state : σ) :
    Meets conduct.logged (Step session domains) (fun _ _ => True) (fun _ _ => True)
      (findOrRequest session domains email) (state, []) := by
  have lists {answer : Except Failure (List Remote.Certificate)} {later : σ × List (Exchange Effects)} :
      Step session domains (state, []) ⟨.remote session (.list .certificates), answer⟩ later := by
    intro creates
    cases creates
  apply Meets.bind
  refine Meets.remote (fun listed later answered => ⟨lists, ?_⟩) fun _ _ _ => ⟨lists, trivial⟩
  split
  · exact .pure trivial
  · next unfound =>
    have lacking {exchange : Exchange Effects} {last : σ × List (Exchange Effects)} :
        Step session domains later exchange last :=
      fun _ => ⟨listed, answered.2, unfound⟩
    apply Meets.bind
    refine .demand (fun email _ => ?_) fun _ => trivial
    apply Meets.bind
    exact Meets.remote (fun _ _ _ => ⟨lacking, .pure trivial⟩) fun _ _ _ => ⟨lacking, trivial⟩

end

/-- Whatever the cluster and the server answer, the certificate of a host is resolved as if nothing but its first
source were declared, with the same requests and the same outcome. One is requested only if that source is the
automatic request, when the certificates were listed and none of them will do. -/
theorem first_source_decides {σ : Type} {conduct : Conduct Effects σ} {state last : σ}
    {log : List (Exchange Effects)} {rest : Program Effects (Except Failure HostCertificate)}
    (session : Remote.Session) (ssl : Ssl) (domains : List String) («namespace» : String)
    (defaultEmail : Option String) :
    (Program.Goes conduct (resolve session (some ssl) domains «namespace» defaultEmail).run state log
        rest last ↔
      Program.Goes conduct (resolve session (some ssl.foremost) domains «namespace» defaultEmail).run
        state log rest last) ∧
    (Program.Goes conduct (resolve session (some ssl) domains «namespace» defaultEmail).run state log
        rest last →
      ∀ earlier exchange later, log = earlier ++ exchange :: later →
        exchange.request.creates .certificates = true →
          ssl.first? = some .requested ∧
            ∃ listed, earlier = [⟨.remote session (.list .certificates), .ok listed⟩] ∧
              Remote.findCertificate domains listed = .none) := by
  refine ⟨by rw [resolve_foremost], fun goes earlier exchange later split creates => ?_⟩
  by_cases first : ssl.first? = some .requested
  · rw [resolve_eq, first] at goes
    exact ⟨first, Program.Meets.along (RequestsLast session domains) (goes.logged [])
      (findOrRequest_requests state) earlier exchange later split creates⟩
  · have member : exchange ∈ log := by simp [split]
    have unrequested := (resolve_unrequested first).exchanges goes exchange member
    cases unrequested.symm.trans creates

namespace Sample

def session : Remote.Session := ⟨"http://npm:81", "secret"⟩

def requesting : Ssl :=
  { (default : Ssl) with autoRequest := true, email := some "admin@a.example" }

/-- A certificate that will not do for another domain. -/
def listed : Remote.Certificate := { (default : Remote.Certificate) with id := 4, domains := ["b.example"] }

def issued : Remote.Certificate := { (default : Remote.Certificate) with id := 5, domains := ["a.example"] }

def listing : Exchange Effects := ⟨.remote session (.list .certificates), .ok [listed]⟩

def request : Exchange Effects :=
  ⟨.remote session (.create .certificates (.issue ["a.example"] "admin@a.example")), .ok issued⟩

theorem unfound : Remote.findCertificate ["a.example"] [listed] = .none := by decide +kernel

theorem requests : Program.Goes (Conduct.free Effects)
    (resolve session (some requesting) ["a.example"] "apps" .none).run () [listing, request]
    (.done (.ok ⟨some 5, false⟩)) () := by
  refine .ask trivial (?_ : Program.Goes _ _ () _ _ _)
  dsimp only [Program.bind, ExceptT.bindCont]
  rw [unfound]
  exact .ask trivial (.here _ _)

end Sample

/-- The only certificate there is was issued for another domain, so one is requested. -/
theorem first_source_decides_requested :
    Program.Goes (Conduct.free Effects)
      (resolve Sample.session (some Sample.requesting) ["a.example"] "apps" .none).run ()
      [Sample.listing, Sample.request] (.done (.ok ⟨some 5, false⟩)) () ∧
    Sample.requesting.first? = some .requested ∧
    ∃ listed, [Sample.listing] = [⟨.remote Sample.session (.list .certificates), .ok listed⟩] ∧
      Remote.findCertificate ["a.example"] listed = .none :=
  ⟨Sample.requests, (first_source_decides Sample.session Sample.requesting ["a.example"] "apps" .none).2
    Sample.requests [Sample.listing] Sample.request [] rfl rfl⟩

end HostCertificate

end ProxyOperator
