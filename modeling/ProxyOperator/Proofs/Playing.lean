import ProxyOperator.Proofs.Footing
import ProxyOperator.Rehearsal.World
/-!
Runs that can be computed. A world that knows what to answer to some requests plays a program up to the
first request that it does not know, and as long as its answers are ones that may be given, the program
can get so far.
-/
namespace ProxyOperator

/-- A world that knows what to answer to some requests, and what becomes of it then. -/
abbrev Responder (interface : Interface) (σ : Type) :=
  σ → (request : interface.Request) → Option (interface.Answer request × σ)

namespace Program

variable {interface : Interface} {σ α : Type}

/-- What is left of a program, and the world, after all requests that the world knows. -/
def play (respond : Responder interface σ) : Program interface α → σ → Program interface α × σ
  | .done value, state => (.done value, state)
  | .ask request next, state =>
      match respond state request with
      | none => (.ask request next, state)
      | some (answer, after) => (next answer).play respond after

def isDone : Program interface α → Bool
  | .done _ => true
  | .ask _ _ => false

def request? : Program interface α → Option interface.Request
  | .done _ => none
  | .ask request _ => some request

theorem eq_done_of_isDone {program : Program interface α} (ended : program.isDone = true) :
    ∃ value, program = .done value := by
  cases program with
  | done value => exact ⟨value, rfl⟩
  | ask request next => cases ended

def succeeds {ε : Type} : Program interface (Except ε α) → Bool
  | .done outcome => outcome.isOk
  | .ask _ _ => false

theorem eq_done_ok_of_succeeds {ε : Type} {program : Program interface (Except ε α)}
    (ended : program.succeeds = true) : ∃ value, program = .done (.ok value) := by
  cases program with
  | done outcome =>
      cases outcome with
      | ok value => exact ⟨value, rfl⟩
      | error failure => cases ended
  | ask request next => cases ended

/-- The failure that a program has ended with. -/
def failure? {ε : Type} : Program interface (Except ε α) → Option ε
  | .done (.error failure) => some failure
  | _ => none

theorem eq_done_error_of_failure? {ε : Type} {program : Program interface (Except ε α)} {failure : ε}
    (ended : program.failure? = some failure) : program = .done (.error failure) := by
  cases program with
  | done outcome =>
      cases outcome with
      | ok value => cases ended
      | error other =>
          rcases Option.some.inj ended with rfl
          rfl
  | ask request next => cases ended

theorem eq_ask_of_request? {program : Program interface α} {request : interface.Request}
    (asks : program.request? = some request) : ∃ next, program = .ask request next := by
  cases program with
  | done value => cases asks
  | ask other next =>
      rcases Option.some.inj asks with rfl
      exact ⟨next, rfl⟩

/-- Every answer of a world is one that may be given. -/
def Allowed (conduct : Conduct interface σ) (respond : Responder interface σ) : Prop :=
  ∀ state request answer after, respond state request = some (answer, after) →
    conduct state ⟨request, answer⟩ after

/-- What a program asks of a world, up to the first request that the world does not know. -/
def heard (respond : Responder interface σ) : Program interface α → σ → List (Exchange interface)
  | .done _, _ => []
  | .ask request next, state =>
      match respond state request with
      | none => []
      | some (answer, after) => ⟨request, answer⟩ :: (next answer).heard respond after

theorem Allowed.goes_heard {conduct : Conduct interface σ} {respond : Responder interface σ}
    (allowed : Allowed conduct respond) (program : Program interface α) (state : σ) :
    Goes conduct program state (program.heard respond state) (program.play respond state).1
      (program.play respond state).2 := by
  induction program generalizing state with
  | done value => exact .here _ _
  | ask request next induction =>
      unfold play heard
      cases answered : respond state request with
      | none => exact .here _ _
      | some response =>
          rcases response with ⟨answer, after⟩
          exact .ask (allowed _ _ _ _ answered) (induction answer after)

theorem Allowed.goes {conduct : Conduct interface σ} {respond : Responder interface σ}
    (allowed : Allowed conduct respond) (program : Program interface α) (state : σ) :
    ∃ log, Goes conduct program state log (program.play respond state).1
      (program.play respond state).2 :=
  ⟨_, allowed.goes_heard program state⟩

end Program

/-- A pass that is running goes on in a course as it goes on by itself. -/
theorem Setting.reaches_of_goes {σ : Type} {setting : Setting σ} {pass rest : Running}
    {before after : σ} {log : List (Exchange Effects)}
    (goes : Program.Goes setting.conduct pass before log rest after) :
    setting.Reaches ⟨before, some pass⟩ ⟨after, some rest⟩ := by
  induction goes with
  | here => exact .refl
  | ask answered _ induction => exact .head (.exchange answered) induction

/-! ## Scenes -/

namespace Scene

/-- What a scene answers: it serves reads and writes of the status of its host, sessions are set up, and
what is listed or made comes from elsewhere. -/
def answer? (elsewhere : (request : Effect) → Option request.Answer) (scene : Scene .proxyHost) :
    (request : Effect) → Option request.Answer
  | .read .proxyHost key =>
      if key = scene.subject.metadata.spokenKey then some (.ok (some scene.stored)) else none
  | .writeStatus .proxyHost key _ _ =>
      if key = scene.subject.metadata.spokenKey then some (.ok ()) else none
  | .connect _ => some (.ok ())
  | .list kind scope => elsewhere (.list kind scope)
  | .remote session (.list collection) => elsewhere (.remote session (.list collection))
  | .remote session (.create collection payload) =>
      elsewhere (.remote session (.create collection payload))
  | _ => none

def storedAfter (scene : Scene .proxyHost) : Effect → ProxyHost
  | .writeStatus .proxyHost _ _ status => { scene.stored with status := some status }
  | _ => scene.stored

def respond (elsewhere : (request : Effect) → Option request.Answer) :
    Responder Effects (Scene .proxyHost) :=
  fun scene request => (scene.answer? elsewhere request).map fun answer =>
    (answer, ⟨scene.storedAfter request, scene.subject, scene.seen ++ [⟨request, answer⟩]⟩)

theorem respond_allowed (elsewhere : (request : Effect) → Option request.Answer) :
    Program.Allowed Answers (respond elsewhere) := by
  intro scene request answer after answered
  rcases Option.map_eq_some_iff.mp answered with ⟨_, known, same⟩
  rcases Prod.mk.inj same with ⟨rfl, rfl⟩
  have edit (stored : ProxyHost) : stored.Edited stored := ⟨rfl, rfl⟩
  refine ⟨⟨_, ?_, edit _⟩, ?_, rfl, rfl⟩
  · unfold answer? at known
    split at known
    · split at known
      · next key same =>
        rcases same with rfl
        rcases Option.some.inj known with rfl
        exact .read
      · cases known
    · split at known
      · next key revision status same =>
        rcases same with rfl
        rcases Option.some.inj known with rfl
        exact .written _ _
      · cases known
    · exact .elsewhere not_false
    · exact .elsewhere not_false
    · exact .elsewhere not_false
    · exact .elsewhere not_false
    · cases known
  · unfold answer? at known
    split at known <;> trivial

/-- What concerns a host in a scene is answered only if it is the host that the pass was given. -/
theorem answer?_concerns {elsewhere : (request : Effect) → Option request.Answer}
    {scene : Scene .proxyHost} {request : Effect} {answer : request.Answer} {key : ObjectKey}
    (known : scene.answer? elsewhere request = some answer)
    (concerns : request.Concerns .proxyHost key) : key = scene.subject.metadata.spokenKey := by
  unfold answer? at known
  split at known
  · split at known
    · next same => exact concerns.2.symm.trans same
    · cases known
  · split at known
    · next same => exact concerns.2.symm.trans same
    · cases known
  · exact concerns.elim
  · exact concerns.elim
  · exact concerns.elim
  · exact concerns.elim
  · cases known

end Scene

/-! ## Stored resources -/

section

variable {kind : Kind} {key : ObjectKey} {writes : Except Failure Unit}
  {elsewhere : (request : Effect) → Option request.Answer}

/-- A stored resource that is read and whose status is written, or not if writes fail. What else is asked
is answered from elsewhere. -/
def Resource.serve (key : ObjectKey) (writes : Except Failure Unit)
    (elsewhere : (request : Effect) → Option request.Answer) : Responder Effects (Resource kind)
  | stored, .read other target =>
      if same : other = kind ∧ target = key then some (.ok (some (same.1 ▸ stored)), stored)
      else (elsewhere (.read other target)).map (·, stored)
  | stored, .writeStatus other target revision status =>
      if same : other = kind ∧ target = key then
        match writes with
        | .ok () => some (.ok (), { stored with status := some (same.1 ▸ status) })
        | .error failure => some (.error failure, stored)
      else (elsewhere (.writeStatus other target revision status)).map (·, stored)
  | stored, request => (elsewhere request).map (·, stored)

theorem Resource.serve_serves {stored served : Resource kind} {request : Effect}
    {answer : request.Answer}
    (answered : stored.serve key writes elsewhere request = some (answer, served)) :
    Serves key stored ⟨request, answer⟩ served ∧
      (request.Concerns kind key ∨ elsewhere request = some answer) := by
  have passed {request : Effect} {answer : request.Answer} (other : ¬ request.Concerns kind key)
      (known : (elsewhere request).map (·, stored) = some (answer, served)) :
      Serves key stored ⟨request, answer⟩ served ∧
        (request.Concerns kind key ∨ elsewhere request = some answer) := by
    rcases Option.map_eq_some_iff.mp known with ⟨_, source, same⟩
    rcases Prod.mk.inj same with ⟨rfl, rfl⟩
    exact ⟨.elsewhere other, .inr source⟩
  unfold Resource.serve at answered
  split at answered
  · split at answered
    · next same =>
      rcases same with ⟨rfl, rfl⟩
      rcases Prod.mk.inj (Option.some.inj answered) with ⟨rfl, rfl⟩
      exact ⟨.read, .inl ⟨rfl, rfl⟩⟩
    · next different => exact passed different answered
  · split at answered
    · next same =>
      rcases same with ⟨rfl, rfl⟩
      split at answered
      · rcases Prod.mk.inj (Option.some.inj answered) with ⟨rfl, rfl⟩
        exact ⟨.written _ _, .inl ⟨rfl, rfl⟩⟩
      · rcases Prod.mk.inj (Option.some.inj answered) with ⟨rfl, rfl⟩
        exact ⟨.refused _ _ _, .inl ⟨rfl, rfl⟩⟩
    · next different => exact passed different answered
  · next reads writes =>
    refine passed (fun concerns => ?_) answered
    cases request with
    | read => exact reads _ _ rfl
    | writeStatus => exact writes _ _ _ _ rfl
    | _ => exact concerns

theorem Resource.serve_faithful {stored served : Resource kind} {request : Effect}
    {answer : request.Answer}
    (faithful : ∀ request answer, elsewhere request = some answer →
      Exchange.Faithful ⟨request, answer⟩)
    (answered : stored.serve key writes elsewhere request = some (answer, served)) :
    Exchange.Faithful ⟨request, answer⟩ := by
  rcases (Resource.serve_serves answered).2 with concerns | known
  · cases request with
    | remote session request => exact concerns.elim
    | _ => trivial
  · exact faithful _ _ known

end

namespace Scene

variable {kind : Kind} {elsewhere : (request : Effect) → Option request.Answer}

/-- A scene in which the status of the resource is served. What else is asked is answered from elsewhere. -/
def serving (elsewhere : (request : Effect) → Option request.Answer) :
    Responder Effects (Scene kind) := fun scene request =>
  (scene.stored.serve scene.subject.metadata.spokenKey (.ok ()) elsewhere request).map fun served =>
    (served.1, ⟨served.2, scene.subject, scene.seen ++ [⟨request, served.1⟩]⟩)

theorem serving_allowed (faithful : ∀ request answer, elsewhere request = some answer →
      Exchange.Faithful ⟨request, answer⟩) :
    Program.Allowed Answers (serving elsewhere : Responder Effects (Scene kind)) := by
  intro scene request answer after answered
  rcases Option.map_eq_some_iff.mp answered with ⟨⟨_, stored⟩, served, same⟩
  rcases Prod.mk.inj same with ⟨rfl, rfl⟩
  exact ⟨⟨stored, (Resource.serve_serves served).1, rfl, rfl⟩,
    Resource.serve_faithful faithful served, rfl, rfl⟩

/-- What a pass on a resource leaves, in a scene that serves it. -/
def passed (elsewhere : (request : Effect) → Option request.Answer) (context : Context)
    (resource : Resource kind) : Scene kind :=
  ((reconcile context kind resource).run.play (serving elsewhere) ⟨resource, resource, []⟩).2

theorem reaches_passed (faithful : ∀ request answer, elsewhere request = some answer →
      Exchange.Faithful ⟨request, answer⟩) (context : Context) (scene : Scene kind)
    (remains : scene.stored.metadata.isDeleting = false) :
    (Scene.setting kind).Reaches (.still scene) (.still (passed elsewhere context scene.stored)) := by
  let pass := (reconcile context kind scene.stored).run
  rcases (serving_allowed faithful).goes pass ⟨scene.stored, scene.stored, []⟩ with ⟨log, goes⟩
  have begun : (Scene.setting kind).Step (.still scene) ⟨⟨scene.stored, scene.stored, []⟩, some pass⟩ :=
    .begin ⟨remains, ⟨_, rfl⟩, ⟨rfl, rfl⟩, rfl, rfl⟩
  exact ((Relation.ReflTransGen.single begun).trans (Setting.reaches_of_goes goes)).tail
    (.leave _ _)

/-- What is left after a pass, an edit of the declaration and a further pass. -/
def resumed (elsewhere : (request : Effect) → Option request.Answer) (context : Context)
    (resource : Resource kind) (spec : kind.Spec) : Scene kind :=
  passed elsewhere context { (passed elsewhere context resource).stored with spec := spec }

theorem reaches_resumed (faithful : ∀ request answer, elsewhere request = some answer →
      Exchange.Faithful ⟨request, answer⟩) (context : Context) (resource : Resource kind)
    (spec : kind.Spec)
    (remains : (passed elsewhere context resource).stored.metadata.isDeleting = false) :
    (Scene.setting kind).Reaches (.still (passed elsewhere context resource))
      (.still (resumed elsewhere context resource spec)) := by
  let adopted := passed elsewhere context resource
  let edited : Scene kind := { adopted with stored := { adopted.stored with spec := spec } }
  have edit : (Scene.setting kind).Step (.still adopted) (.still edited) := .disturb ⟨rfl, rfl⟩
  exact (Relation.ReflTransGen.single edit).trans (reaches_passed faithful context edited remains)

end Scene

/-- The object of an id is written over. -/
def Effect.updates (collection : Remote.Collection) (id : UInt32) : Effect → Bool
  | .remote _ (.update other target _) => other = collection && target = id
  | _ => false

/-! ## Passes in the rehearsal world -/

namespace Rehearsal

def visit (context : Context) (kind : Kind) (key : ObjectKey) : Acting (Except Failure Action) := do
  match ← readObject (Resource.codec kind) kind.name key with
  | .ok (some resource) => perform (reconcile context kind resource)
  | .ok none => return .ok .awaitChange
  | .error failure => return .error failure

def askDeletion (kind : Kind) (key : ObjectKey) (time : Instant) : Acting Unit :=
  modify fun world => world.changeObject kind.name key fun object =>
    some (putMetadata object "deletionTimestamp" (.string time.display))

def stored? (world : World) (kind : Kind) (key : ObjectKey) : Option (Resource kind) :=
  (world.object? kind.name key).bind fun object => (readAs (Resource.codec kind) object).toOption

def reportedHosts (world : World) : Except Failure (List Remote.Host) :=
  (world.remoteObjects .proxyHosts).mapM (readAs Remote.Host.codec)

end Rehearsal

/-! ## A small world -/

namespace Sample

def context : Context := ⟨.standard, .epoch, .epoch⟩

/-- A token that anybody in its namespace may use. -/
def token : Token where
  metadata := { (default : Metadata) with name := some "npm", «namespace» := some "apps" }
  spec := ⟨"http://npm:81", default⟩
  status := some { (default : Token.Status) with
    bearer := some "secret", expires := Instant.of? 1000 0 }

def host (name : String) (binds : Bool) (backends : List Backend) : ProxyHost where
  metadata := { (default : Metadata) with
    name := some name, «namespace» := some "apps", finalizers := some [finalizer] }
  spec := { (default : ProxyHost.Spec) with
    domains := ["a.example"]
    forward := { (default : Forward) with hosts := some backends }
    bindExisting := binds }
  status := none

def deleting {kind : Kind} (resource : Resource kind) : Resource kind :=
  { resource with metadata.deletion := some .epoch }

theorem edited_deleting {kind : Kind} (resource : Resource kind) :
    resource.Edited (deleting resource) := ⟨rfl, rfl⟩

def remote (unscoped : Option String) : Remote.Host :=
  { (default : Remote.Host) with
    id := 99, domains := ["a.example"], scheme := "http", host := "legacy", port := 8080
    enabled := true, unscopedConfig := some unscoped }

def tunnel (incomingPort : UInt16) (backend : Backend) : Stream where
  metadata := { (default : Metadata) with
    name := some "tunnel", «namespace» := some "apps", finalizers := some [finalizer] }
  spec := { (default : Stream.Spec) with
    incomingPort := incomingPort
    forward := { (default : Forward) with hosts := some [backend] }
    tcp := true
    bindExisting := true }
  status := none

def legacyStream : Remote.Stream :=
  { (default : Remote.Stream) with
    id := 7, incomingPort := 9000, host := "legacy", port := 22, tcp := true, udp := true }

/-- A remote server with one host and one stream, which it reports as they were whatever is written over
them. -/
def server (remote : Remote.Host) : (request : Effect) → Option request.Answer
  | .list .token (some «namespace») =>
      some (.ok ([token].filter (·.metadata.spokenKey.namespace = «namespace»)))
  | .list .proxyHost _ => some (.ok [])
  | .list .stream _ => some (.ok [])
  | .connect _ => some (.ok ())
  | .publish _ => some ()
  | .remote _ (.list .proxyHosts) => some (.ok [remote])
  | .remote _ (.get .proxyHosts id) => some (.ok { remote with id := id })
  | .remote _ (.update .proxyHosts id _) => some (.ok { remote with id := id })
  | .remote _ (.enable .proxyHosts _) => some (.ok ())
  | .remote _ (.list .streams) => some (.ok [legacyStream])
  | .remote _ (.get .streams id) => some (.ok { legacyStream with id := id })
  | .remote _ (.update .streams id _) => some (.ok { legacyStream with id := id })
  | .remote _ (.enable .streams _) => some (.ok ())
  | _ => none

theorem server_faithful (remote : Remote.Host) (request : Effect) (answer : request.Answer)
    (known : server remote request = some answer) : Exchange.Faithful ⟨request, answer⟩ := by
  unfold server at known
  split at known
  case h_14 => cases known
  case h_7 | h_8 | h_11 | h_12 =>
    rcases Option.some.inj known with rfl
    intro object same
    rcases Except.ok.inj same with rfl
    rfl
  all_goals trivial

/-- A remote server with one host, to which others can be added. -/
def elsewhere (remote : Remote.Host) : (request : Effect) → Option request.Answer
  | .list .token _ => some (.ok [token])
  | .list .proxyHost _ => some (.ok [])
  | .remote _ (.list .proxyHosts) => some (.ok [remote])
  | .remote _ (.create .proxyHosts _) => some (.ok remote)
  | _ => none

end Sample

end ProxyOperator
