import ProxyOperator.Proofs.FootingCourse
import ProxyOperator.Proofs.HostRequests
import ProxyOperator.Proofs.Playing
import ProxyOperator.Proofs.Sessions
/-!
On which server the remote object of a host or a stream is dealt with. What is recorded of an object does not
say where it is, and every pass finds its server anew. So an object is asked about on the server that it came
from just where the Token that leads there now points to the same server as the one that led there then.
-/
namespace ProxyOperator

open Attempt Reconcile

/-- A scene, the Tokens that there are, and the context of the pass that runs, or ran last. -/
structure Locale (kind : Kind) where
  scene : Scene kind
  keyring : Keyring
  context : Context

/-- A pass on `subject` was given an object of an id within a session: it was made, or it was listed and is the
one that the declaration is about. -/
inductive Exchange.Brings {kind : Kind} (adopting : Adopting kind) (subject : Resource kind)
    (session : Remote.Session) (id : UInt32) : Exchange Effects → Prop
  | made {payload : adopting.collection.Payload} {object : adopting.collection.Object}
      (same : adopting.collection.idOf object = id) :
      Brings adopting subject session id
        ⟨.remote session (.create adopting.collection payload), .ok object⟩
  | listed {objects : List adopting.collection.Object} {object : adopting.collection.Object}
      (found : adopting.wanted subject.spec objects = some object)
      (same : adopting.collection.idOf object = id) :
      Brings adopting subject session id
        ⟨.remote session (.list adopting.collection), .ok objects⟩

namespace Locale

variable {kind : Kind} {adopting : Adopting kind}

/-- Where the pass that runs, or ran last, looks for its Token. -/
def search (adopting : Adopting kind) (locale : Locale kind) : TokenSearch :=
  searchFor locale.context (adopting.token locale.scene.subject.spec)
    locale.scene.subject.metadata.spokenKey.namespace

/-- While a pass runs, no Token is made, removed or edited. -/
structure Answers (before : Locale kind) (exchange : Exchange Effects) (after : Locale kind) : Prop
    where
  scene : before.scene.Answers exchange after.scene
  shows : exchange.Shows before.keyring
  keyring : after.keyring = before.keyring
  context : after.context = before.context

/-- A pass begins on the resource as it is stored, whether or not its deletion was asked for. -/
structure Begins (before : Locale kind) (pass : Running) (after : Locale kind) : Prop where
  pass : pass = (reconcile after.context kind before.scene.stored).run
  stored : before.scene.stored.Edited after.scene.stored
  subject : after.scene.subject = before.scene.stored
  seen : after.scene.seen = []

/-- Between passes the Tokens and the context may change in any way, and users edit the resource. -/
structure Drifts (before after : Locale kind) : Prop where
  stored : before.scene.stored.Edited after.scene.stored
  seen : after.scene.seen = []

def setting (kind : Kind) : Setting (Locale kind) := ⟨Answers, Begins, Drifts⟩

/-- The footing belongs together, and all that the pass asked a server was asked of the right one. -/
structure Oriented (adopting : Adopting kind) (locale : Locale kind) : Prop where
  sound : (adopting.footingOf locale.scene.stored).Sound
  headed : ∀ exchange ∈ locale.scene.seen,
    exchange.request.Heads locale.keyring (locale.search adopting)

structure Proceeds (adopting : Adopting kind) (before : Locale kind) (exchange : Exchange Effects)
    (after : Locale kind) : Prop where
  keeps : Scene.Keeps adopting before.scene exchange after.scene
  heads : exchange.request.Heads before.keyring (before.search adopting)

/-- An id came on record in a run: it was brought within a session, while a Token stood for the resource. -/
structure Origin (adopting : Adopting kind) (start moment : Moment (Locale kind)) (id : UInt32)
    (session : Remote.Session) (token : Token) : Prop where
  recorded : ∃ before after, (setting kind).Reaches start before ∧
    (setting kind).Step before after ∧ (setting kind).Reaches after moment ∧
    adopting.footingOf before.world.scene.stored = .nothing ∧
    (adopting.footingOf after.world.scene.stored).id = some id ∧
    (∃ exchange ∈ before.world.scene.seen,
      exchange.Brings adopting before.world.scene.subject session id) ∧
    before.world.keyring.Selects (before.world.search adopting) token

variable {before after : Locale kind} {exchange : Exchange Effects}

theorem Answers.search (answered : before.Answers exchange after) :
    after.search adopting = before.search adopting := by
  unfold Locale.search
  rw [answered.context, answered.scene.subject]

theorem Oriented.answered (oriented : before.Oriented adopting)
    (answered : before.Answers exchange after) (proceeds : Proceeds adopting before exchange after) :
    after.Oriented adopting where
  sound := proceeds.keeps.sound oriented.sound
  headed other member := by
    rw [answered.search, answered.keyring]
    rw [answered.scene.seen] at member
    rcases List.mem_append.mp member with earlier | last
    · exact oriented.headed other earlier
    · obtain rfl := List.mem_singleton.mp last
      exact proceeds.heads

theorem Oriented.unseen (oriented : before.Oriented adopting)
    (edit : before.scene.stored.Edited after.scene.stored) (seen : after.scene.seen = []) :
    after.Oriented adopting where
  sound := Scene.footingOf_edited adopting edit ▸ oriented.sound
  headed exchange member := by
    rw [seen] at member
    cases member

end Locale

/-! ## Passes -/

/-- What a pass on a resource of a kind does to the footing and on which server. -/
structure Adopting.Passes {kind : Kind} (adopting : Adopting kind) : Prop where
  keeps : ∀ {context : Context} {resource : Resource kind} {scene : Scene kind},
    resource.metadata.isDeleting = false → (adopting.footingOf resource).Sound →
    scene.Stands adopting resource [] (adopting.footingOf resource) →
    Meets Scene.Answers (Scene.Keeps adopting) (fun _ _ => True) (fun _ _ => True)
      (reconcile context kind resource) scene
  dismisses : ∀ {context : Context} {resource : Resource kind},
    resource.metadata.isDeleting = true →
    reconcile context kind resource = dismiss resource (adopting.cleanup context resource)
  directed : ∀ (context : Context) (resource : Resource kind),
    Directed (searchFor context (adopting.token resource.spec)
      resource.metadata.spokenKey.namespace) (reconcile context kind resource)

theorem Adopting.proxyHosts_passes : Adopting.proxyHosts.Passes :=
  ⟨ProxyHosts.reconcile_meets, fun deleted => if_pos deleted,
    fun _ host => ProxyHosts.reconcile_directed host⟩

theorem Adopting.streams_passes : Adopting.streams.Passes :=
  ⟨Streams.reconcile_meets, fun deleted => if_pos deleted,
    fun _ stream => Streams.reconcile_directed stream⟩

theorem Adopting.dismiss_quiet {kind : Kind} (adopting : Adopting kind) (context : Context)
    (resource : Resource kind) :
    Asks Effect.Quiet (dismiss resource (adopting.cleanup context resource)) := by
  have connects : Asks Effect.Quiet (connect context (adopting.token resource.spec)
      resource.metadata.spokenKey.namespace) :=
    (connect_asks _ _ _).mono fun _ => Or.rec .of_looks .of_connects
  exact dismiss_asks (fun _ => trivial) trivial (Adopting.cleanup_permitted connects fun _ _ => trivial)

namespace Locale

variable {kind : Kind} {adopting : Adopting kind} {before after : Locale kind}

theorem Oriented.keeps (passes : adopting.Passes) {pass : Running}
    (oriented : before.Oriented adopting) (begun : before.Begins pass after) :
    Program.Meets Scene.Answers (Scene.Keeps adopting) (fun _ _ => True) pass after.scene := by
  have stands : after.scene.Stands adopting before.scene.stored []
      (adopting.footingOf before.scene.stored) :=
    ⟨begun.subject, fun _ member => (nomatch member), Scene.footingOf_edited adopting begun.stored⟩
  rw [begun.pass]
  cases deleted : before.scene.stored.metadata.isDeleting with
  | false =>
      exact Program.Meets.mono (fun _ _ _ => trivial) (passes.keeps deleted oriented.sound stands)
  | true =>
      rw [passes.dismisses deleted]
      exact Program.Meets.mono (fun _ _ _ => trivial)
        (stands.of_quiet (adopting.dismiss_quiet _ _))

/-- A pass that begins changes the footing only as it may, and talks to the right server only. -/
theorem Oriented.begins (passes : adopting.Passes) {pass : Running}
    (oriented : before.Oriented adopting) (begun : before.Begins pass after) :
    Program.Meets Answers (Proceeds adopting) (fun _ _ => True) pass after := by
  have onScene : ∀ before exchange after, @Answers kind before exchange after →
      Scene.Answers before.scene exchange after.scene :=
    fun _ _ _ answered => answered.scene
  have onKeyring : ∀ before exchange after, @Answers kind before exchange after →
      Showing before.keyring exchange after.keyring :=
    fun _ _ _ answered => ⟨answered.shows, answered.keyring⟩
  have heads : Program.Meets Showing (Heading (after.search adopting)) (fun _ _ => True) pass
      after.keyring := by
    rw [begun.pass]
    unfold Locale.search
    rw [begun.subject]
    exact Program.Meets.mono (fun _ _ _ => trivial)
      (passes.directed after.context before.scene.stored after.keyring)
  have both := (Program.Meets.view onScene (oriented.keeps passes begun)).both
    (Program.Meets.view onKeyring heads)
  refine Program.Meets.mono (fun _ _ _ => trivial)
    (both.within (fun locale => locale.search adopting = after.search adopting) ?_ rfl)
  rintro first exchange second same answered ⟨kept, headed⟩
  exact ⟨⟨kept, same ▸ headed⟩, answered.search.trans same⟩

theorem upholds (passes : adopting.Passes) :
    (setting kind).Upholds (Oriented adopting) (Proceeds adopting) where
  begins oriented begun := ⟨oriented.unseen begun.stored begun.seen, oriented.begins passes begun⟩
  exchanges oriented answered proceeds := oriented.answered answered proceeds
  disturbs oriented drifts := oriented.unseen drifts.stored drifts.seen

/-! ## Where an id comes from -/

variable {start moment : Moment (Locale kind)} {id : UInt32} {session : Remote.Session}
  {token : Token}

/-- An object is brought by the server that the Token leads to. -/
theorem leads_of_brings {subject : Resource kind} {exchange : Exchange Effects} {keyring : Keyring}
    {search : TokenSearch} (brings : exchange.Brings adopting subject session id)
    (heads : exchange.request.Heads keyring search) : keyring.LeadsTo search session.endpoint := by
  cases brings <;> exact heads

/-- An id is on record already, or it comes there by an object that was brought. -/
theorem brings_of_change {subject : Resource kind} {seen : List (Exchange Effects)}
    {older newer : Footing adopting.Snapshot}
    (change : Footing.Change adopting subject seen older newer) (known : newer.id = some id) :
    older.id = some id ∨ older = .nothing ∧
      ∃ session, ∃ exchange ∈ seen, exchange.Brings adopting subject session id := by
  cases change with
  | kept => exact .inl known
  | made answered => exact .inr ⟨rfl, _, _, answered, .made (Option.some.inj known)⟩
  | adopted answered _ found =>
      exact .inr ⟨rfl, _, _, answered, .listed found (Option.some.inj known)⟩

theorem change_of_shift (shift : (setting kind).Shift (Proceeds adopting) before after) :
    Footing.Change adopting before.scene.subject before.scene.seen
      (adopting.footingOf before.scene.stored) (adopting.footingOf after.scene.stored) := by
  cases shift with
  | begin begun => exact Scene.footingOf_edited adopting begun.stored ▸ .kept _
  | exchange _ proceeds => exact proceeds.keeps
  | leave => exact .kept _
  | disturb drifts => exact Scene.footingOf_edited adopting drifts.stored ▸ .kept _

/-- Whatever id is on record, it has come there in the run. -/
theorem exists_origin (passes : adopting.Passes)
    (standing : (setting kind).Standing (Oriented adopting) (Proceeds adopting) start)
    (nothing : adopting.footingOf start.world.scene.stored = .nothing)
    (reaches : (setting kind).Reaches start moment)
    (known : (adopting.footingOf moment.world.scene.stored).id = some id) :
    ∃ session token, Origin adopting start moment id session token := by
  induction reaches with
  | refl =>
      rw [nothing] at known
      cases known
  | @tail before after earlier taken induction =>
      have reached := (upholds passes).reaches standing earlier
      have shift := ((upholds passes).advance reached taken).2
      rcases brings_of_change (change_of_shift shift) known with
        older | ⟨empty, session, exchange, member, brings⟩
      · obtain ⟨session, token, first, second, came, step, further, rest⟩ := induction older
        exact ⟨session, token, first, second, came, step, further.tail taken, rest⟩
      · obtain ⟨token, selects, _⟩ :=
          leads_of_brings brings (reached.steady.headed exchange member)
        exact ⟨session, token, before, after, earlier, taken, .refl, empty, known,
          ⟨exchange, member, brings⟩, selects⟩

/-- The server that an id came from is the one that the Token pointed to then. -/
theorem Origin.endpoint (passes : adopting.Passes)
    (standing : (setting kind).Standing (Oriented adopting) (Proceeds adopting) start)
    (origin : Origin adopting start moment id session token) :
    token.spec.endpoint = session.endpoint := by
  obtain ⟨before, _, earlier, _, _, _, _, ⟨exchange, member, brings⟩, selects⟩ := origin.recorded
  have oriented := ((upholds passes).reaches standing earlier).steady
  exact Keyring.LeadsTo.unique ⟨token, selects, rfl⟩
    (leads_of_brings brings (oriented.headed exchange member))

/-- What is about to be asked of a server is asked of the one that the Token points to. -/
theorem leads_of_asks
    (standing : (setting kind).Standing (Oriented adopting) (Proceeds adopting) moment)
    {request : Remote.Request} {next : Except Failure request.Result → Running}
    (asks : moment.running = some (.ask (.remote session request) next)) :
    moment.world.keyring.LeadsTo (moment.world.search adopting) session.endpoint := by
  -- what the pass lives up to is said of requests that are answered, and this one may fail
  let failed : Exchange Effects := ⟨.remote session request, .error default⟩
  let scene := moment.world.scene
  have answered : moment.world.Answers failed
      ⟨⟨scene.stored, scene.subject, scene.seen ++ [failed]⟩, moment.world.keyring,
        moment.world.context⟩ := by
    refine ⟨⟨⟨scene.stored, .elsewhere not_false, rfl, rfl⟩, ?_, rfl, rfl⟩, trivial, rfl, rfl⟩
    cases request <;> first | trivial | exact fun _ same => nomatch same
  exact (standing.running _ asks _ _ answered).1.heads

/-- The server that is asked at a moment while an id is on record: there is one that the id came from, in a
session that some Token led to; the one that is asked is the one that the Token leads to now; and they are the
same just if the Token that stands for the resource points to where the one pointed that stood for it then. -/
structure LedBack (adopting : Adopting kind) (start moment : Moment (Locale kind)) (id : UInt32)
    (session : Remote.Session) : Prop where
  origin : ∃ first old, Origin adopting start moment id first old
  leads : moment.world.keyring.LeadsTo (moment.world.search adopting) session.endpoint
  back_iff : ∀ first old token, Origin adopting start moment id first old →
    moment.world.keyring.Selects (moment.world.search adopting) token →
    (session.endpoint = first.endpoint ↔ token.spec.endpoint = old.spec.endpoint)

theorem ledBack (passes : adopting.Passes) {resource : Resource kind} {keyring : Keyring}
    {context : Context} {request : Remote.Request}
    {next : Except Failure request.Result → Running} (fresh : resource.status = none)
    (reaches : (setting kind).Reaches (.still ⟨⟨resource, resource, []⟩, keyring, context⟩) moment)
    (asks : moment.running = some (.ask (.remote session request) next))
    (known : (adopting.footingOf moment.world.scene.stored).id = some id) :
    LedBack adopting (.still ⟨⟨resource, resource, []⟩, keyring, context⟩) moment id session := by
  have nothing := adopting.footingOf_fresh fresh
  have standing : (setting kind).Standing (Oriented adopting) (Proceeds adopting)
      (.still ⟨⟨resource, resource, []⟩, keyring, context⟩) :=
    .still ⟨nothing ▸ .nothing, fun _ member => nomatch member⟩
  have leads := leads_of_asks ((upholds passes).reaches standing reaches) asks
  refine ⟨exists_origin passes standing nothing reaches known, leads, ?_⟩
  intro first old token origin selects
  have pointed := origin.endpoint passes standing
  have points := Keyring.LeadsTo.unique ⟨token, selects, rfl⟩ leads
  rw [← pointed, ← points]

end Locale

/-- Whatever is asked of a server while the id of a remote host or stream is on record, in a run that starts
without a status: it is asked on the server that the id came from just if the Token that stands for the resource
points to the same server as the one that stood for it when the id came on record. -/
theorem asked_where_led {keyring : Keyring} {context : Context} {session : Remote.Session}
    {request : Remote.Request} {next : Except Failure request.Result → Running} {id : UInt32} :
    (∀ {host : ProxyHost} {moment : Moment (Locale .proxyHost)}, host.status = none →
      (Locale.setting .proxyHost).Reaches (.still ⟨⟨host, host, []⟩, keyring, context⟩) moment →
      moment.running = some (.ask (.remote session request) next) →
      ProxyHost.remoteId moment.world.scene.stored = some id →
      Locale.LedBack .proxyHosts (.still ⟨⟨host, host, []⟩, keyring, context⟩) moment id session) ∧
    (∀ {stream : Stream} {moment : Moment (Locale .stream)}, stream.status = none →
      (Locale.setting .stream).Reaches (.still ⟨⟨stream, stream, []⟩, keyring, context⟩) moment →
      moment.running = some (.ask (.remote session request) next) →
      Stream.remoteId moment.world.scene.stored = some id →
      Locale.LedBack .streams (.still ⟨⟨stream, stream, []⟩, keyring, context⟩) moment id session) := by
  constructor
  · intro host moment fresh reaches asks known
    rw [← Adopting.proxyHosts_footingOf_id] at known
    exact Locale.ledBack Adopting.proxyHosts_passes fresh reaches asks known
  · intro stream moment fresh reaches asks known
    rw [← Adopting.streams_footingOf_id] at known
    exact Locale.ledBack Adopting.streams_passes fresh reaches asks known

/-! ## Two runs -/

/-- The session that a request is made in. -/
def Effect.session? : Effect → Option Remote.Session
  | .remote session _ => some session
  | _ => none

theorem Effect.eq_remote_of_session? {effect : Effect} {session : Remote.Session}
    (within : effect.session? = some session) : ∃ request, effect = .remote session request := by
  unfold session? at within
  split at within
  · next other request =>
    obtain rfl := Option.some.inj within
    exact ⟨request, rfl⟩
  · cases within

namespace Sample

/-- What a keyring shows of Tokens, and a server of its remote hosts. -/
def showing (keyring : Keyring) : (request : Effect) → Option request.Answer
  | .list .token (some «namespace») =>
      some (.ok (keyring.tokens.filter (·.metadata.spokenKey.namespace = «namespace»)))
  | request => elsewhere (remote none) request

def locating : Responder Effects (Locale .proxyHost) := fun locale request =>
  match request with
  | .publish event =>
      some ((), { locale with scene :=
        { locale.scene with seen := locale.scene.seen ++ [⟨.publish event, ()⟩] } })
  | request =>
      (Scene.respond (showing locale.keyring) locale.scene request).map fun response =>
        (response.1, { locale with scene := response.2 })

theorem showing_shows {keyring : Keyring} {scene : Scene .proxyHost} {request : Effect}
    {answer : request.Answer} (known : scene.answer? (showing keyring) request = some answer) :
    Exchange.Shows keyring ⟨request, answer⟩ := by
  unfold Scene.answer? at known
  split at known
  · trivial
  · trivial
  · trivial
  · next kind scope =>
    cases kind with
    | token =>
        cases scope with
        | none => trivial
        | some «namespace» =>
            obtain rfl := Option.some.inj known
            exact fun token => List.mem_filter.trans (and_congr_right fun _ => decide_eq_true_iff)
    | _ => trivial
  · trivial
  · trivial
  · cases known

theorem locating_allowed : Program.Allowed Locale.Answers locating := by
  intro locale request answer after answered
  unfold locating at answered
  split at answered
  · obtain ⟨rfl, rfl⟩ := Prod.mk.inj (Option.some.inj answered)
    exact ⟨⟨⟨_, .elsewhere not_false, rfl, rfl⟩, trivial, rfl, rfl⟩, trivial, rfl, rfl⟩
  · obtain ⟨⟨_, scene⟩, served, same⟩ := Option.map_eq_some_iff.mp answered
    obtain ⟨rfl, rfl⟩ := Prod.mk.inj same
    have own := Scene.respond_allowed _ _ _ _ _ served
    obtain ⟨_, known, same⟩ := Option.map_eq_some_iff.mp served
    obtain rfl := (Prod.mk.inj same).1
    exact ⟨own, showing_shows known, rfl, rfl⟩

/-- A Token of a name that points to a server. -/
def pointing (name endpoint : String) : Token :=
  { token with
    metadata := { token.metadata with name := some name }
    spec := { token.spec with endpoint := endpoint } }

def oneToken : Keyring := ⟨[pointing "npm" "http://npm:81"], by decide⟩

/-- Another Token comes first now. -/
def anotherToken : Keyring :=
  ⟨[pointing "npm" "http://npm:81", pointing "backup" "http://backup:81"], by decide⟩

def located : Locale .proxyHost :=
  let host := host "web" false [⟨"10.0.0.1", 80⟩]
  ⟨⟨host, host, []⟩, oneToken, context⟩

/-- A pass on the host as it is stored is about to begin. -/
def reopened (locale : Locale .proxyHost) : Locale .proxyHost :=
  { locale with scene := ⟨locale.scene.stored, locale.scene.stored, []⟩, context := context }

/-- What is left of a pass on the host, and what is there then. -/
def locate (locale : Locale .proxyHost) : Running × Locale .proxyHost :=
  (reconcile context .proxyHost locale.scene.stored).run.play locating (reopened locale)

def locateLog (locale : Locale .proxyHost) : List (Exchange Effects) :=
  (reconcile context .proxyHost locale.scene.stored).run.heard locating (reopened locale)

theorem locate_goes (locale : Locale .proxyHost) :
    Program.Goes Locale.Answers (reconcile context .proxyHost locale.scene.stored).run
      (reopened locale) (locateLog locale) (locate locale).1 (locate locale).2 :=
  locating_allowed.goes_heard _ _

theorem locate_reaches (locale : Locale .proxyHost) :
    (Locale.setting .proxyHost).Reaches (.still locale)
      ⟨(locate locale).2, some (locate locale).1⟩ := by
  have begun : (Locale.setting .proxyHost).Step (.still locale)
      ⟨reopened locale, some (reconcile context .proxyHost locale.scene.stored).run⟩ :=
    .begin ⟨rfl, ⟨rfl, rfl⟩, rfl, rfl⟩
  exact .head begun (Setting.reaches_of_goes (locate_goes locale))

/-- The deletion of the host is asked for, and there is another Token. -/
def relocated (locale : Locale .proxyHost) : Locale .proxyHost :=
  ⟨⟨deleting locale.scene.stored, locale.scene.subject, []⟩, anotherToken, context⟩

end Sample

/-- A second pass asks for the remote host that the first one made. -/
theorem asked_where_led_again :
    ∃ (moment : Moment (Locale .proxyHost)) (session : Remote.Session) (request : Remote.Request)
      (next : Except Failure request.Result → Running),
      (Locale.setting .proxyHost).Reaches (.still Sample.located) moment ∧
      moment.running = some (.ask (.remote session request) next) ∧
      ProxyHost.remoteId moment.world.scene.stored = some 99 ∧
      Locale.LedBack .proxyHosts (.still Sample.located) moment 99 session := by
  let made := (Sample.locate Sample.located).2
  let last := Sample.locate made
  have reaches : (Locale.setting .proxyHost).Reaches (.still Sample.located) ⟨last.2, some last.1⟩ :=
    ((Sample.locate_reaches Sample.located).tail (.leave _ _)).trans (Sample.locate_reaches made)
  have within : last.1.request?.bind Effect.session? = some ⟨"http://npm:81", "secret"⟩ := by
    decide +kernel
  have known : ProxyHost.remoteId last.2.scene.stored = some 99 := by decide +kernel
  obtain ⟨effect, asks, within⟩ := Option.bind_eq_some_iff.mp within
  obtain ⟨next, rest⟩ := Program.eq_ask_of_request? asks
  obtain ⟨request, rfl⟩ := Effect.eq_remote_of_session? within
  rw [rest] at reaches
  exact ⟨_, _, request, next, reaches, rfl, known, asked_where_led.1 rfl reaches rfl known⟩

/-- A host is made on one server; then there is a Token of another server, which comes first by name; and when the
host is let go, what has its id on the other server is to be deleted. -/
theorem asked_where_led_astray :
    ∃ (made : List (Exchange Effects)) (between : Locale .proxyHost) (action : Action)
      (last : Moment (Locale .proxyHost)) (effect : Effect) (next : effect.Answer → Running)
      (first second : Remote.Session),
      Program.Goes Locale.Answers
        (reconcile Sample.context .proxyHost Sample.located.scene.stored).run Sample.located made
        (.done (.ok action)) between ∧
      (∃ exchange ∈ made, exchange.made? .proxyHosts = some 99 ∧
        exchange.request.session? = some first) ∧
      ProxyHost.remoteId between.scene.stored = some 99 ∧
      (Locale.setting .proxyHost).Reaches (.still between) last ∧
      last.running = some (.ask effect next) ∧ ProxyHost.remoteId last.world.scene.stored = some 99 ∧
      effect.deletedHost? = some 99 ∧ effect.session? = some second ∧
      first.endpoint = "http://npm:81" ∧ second.endpoint = "http://backup:81" := by
  let between := (Sample.locate Sample.located).2
  let last := Sample.locate (Sample.relocated between)
  have succeeds : (Sample.locate Sample.located).1.succeeds = true := by decide +kernel
  obtain ⟨action, ended⟩ := Program.eq_done_ok_of_succeeds succeeds
  have goes := Sample.locate_goes Sample.located
  rw [ended] at goes
  have brought : ∃ exchange ∈ Sample.locateLog Sample.located,
      exchange.made? .proxyHosts = some 99 ∧
        exchange.request.session? = some ⟨"http://npm:81", "secret"⟩ := by decide +kernel
  have drifts : (Locale.setting .proxyHost).Step (.still between)
      (.still (Sample.relocated between)) := .disturb ⟨⟨rfl, rfl⟩, rfl⟩
  have reaches : (Locale.setting .proxyHost).Reaches (.still between) ⟨last.2, some last.1⟩ :=
    .head drifts (Sample.locate_reaches _)
  have within : last.1.request?.map (fun effect => (effect.deletedHost?, effect.session?)) =
      some (some 99, some ⟨"http://backup:81", "secret"⟩) := by decide +kernel
  obtain ⟨effect, asks, same⟩ := Option.map_eq_some_iff.mp within
  obtain ⟨next, rest⟩ := Program.eq_ask_of_request? asks
  rw [rest] at reaches
  have known : ProxyHost.remoteId between.scene.stored = some 99 := by decide +kernel
  have still : ProxyHost.remoteId last.2.scene.stored = some 99 := by decide +kernel
  exact ⟨_, between, action, _, effect, next, _, _, goes, brought, known, reaches, rfl, still,
    (Prod.mk.inj same).1, (Prod.mk.inj same).2, rfl, rfl⟩

end ProxyOperator
