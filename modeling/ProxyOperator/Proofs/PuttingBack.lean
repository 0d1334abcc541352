import ProxyOperator.Proofs.FootingCourse
import ProxyOperator.Proofs.Records
import ProxyOperator.Proofs.Playing
import ProxyOperator.Proofs.Sessions
/-!
How an adopted object is put back when the resource that adopted it is deleted: what a deletion pass asks of
a server that writes the members of a body over those it has, and what that leaves there. The object is put
back by every pass that gets a session, and every pass gets one that finds a Token and is let in with it.
-/
namespace ProxyOperator

open Attempt

/-! ## The server while an adopted object is put back -/

namespace Effect

/-- The request changes the object of an id in a collection. -/
def Changes (collection : Remote.Collection) (id : UInt32) : Effect → Prop
  | .remote _ (.update other target _) => other = collection ∧ target = id
  | .remote _ (.delete other target) => other = collection ∧ target = id
  | .remote _ (.enable other target) => other = collection ∧ target = id
  | .remote _ (.disable other target) => other = collection ∧ target = id
  | _ => False

def Beside (collection : Remote.Collection) (id : UInt32) (effect : Effect) : Prop :=
  ¬ effect.Changes collection id ∧ ¬ effect.Connects

theorem Beside.of_looks {collection : Remote.Collection} {id : UInt32} {effect : Effect}
    (looks : effect.Looks) : effect.Beside collection id := by
  cases effect with
  | read | list | secret | service | pods | node => exact ⟨not_false, not_false⟩
  | _ => exact looks.elim

end Effect

/-- What a server has of an object, and whether a session with it was set up. -/
structure Custody where
  /-- The members of the object, as long as there is one. -/
  members : Option (List (String × Json))
  connected : Bool

namespace Custody

abbrev Any : Custody → Exchange Effects → Custody → Prop := fun _ _ _ => True

/-- Requests that change the object of an id succeed: the members of a body are written over those that
are there, and the object is switched on and off by its flag. Nothing else changes it. -/
inductive Stores (collection : Remote.Collection) (id : UInt32) : Conduct Effects Custody
  | updated {members : List (String × Json)} {connected : Bool} {session : Remote.Session}
      {payload : collection.Payload} {reported : collection.Object} :
      Stores collection id ⟨some members, connected⟩
        ⟨.remote session (.update collection id payload), .ok reported⟩
        ⟨some (Json.cover members (collection.payloadCodec.encode payload).members), connected⟩
  | enabled {members : List (String × Json)} {connected : Bool} {session : Remote.Session} :
      Stores collection id ⟨some members, connected⟩
        ⟨.remote session (.enable collection id), .ok ()⟩
        ⟨some (Json.putMember "enabled" (.bool true) members), connected⟩
  | disabled {members : List (String × Json)} {connected : Bool} {session : Remote.Session} :
      Stores collection id ⟨some members, connected⟩
        ⟨.remote session (.disable collection id), .ok ()⟩
        ⟨some (Json.putMember "enabled" (.bool false) members), connected⟩
  | deleted {members : List (String × Json)} {connected : Bool} {session : Remote.Session} :
      Stores collection id ⟨some members, connected⟩
        ⟨.remote session (.delete collection id), .ok ()⟩ ⟨none, connected⟩
  | connected {custody : Custody} {session : Remote.Session} :
      Stores collection id custody ⟨.connect session, .ok ()⟩ { custody with connected := true }
  | refused {custody : Custody} {session : Remote.Session} {failure : Failure} :
      Stores collection id custody ⟨.connect session, .error failure⟩ custody
  | beside {custody : Custody} {exchange : Exchange Effects}
      (beside : exchange.request.Beside collection id) :
      Stores collection id custody exchange custody

section

variable {collection : Remote.Collection} {id : UInt32} {custody : Custody}
  {members : List (String × Json)} {connected : Bool} {session : Remote.Session}

theorem Stores.of_beside {before after : Custody} {exchange : Exchange Effects}
    (stores : Stores collection id before exchange after)
    (beside : exchange.request.Beside collection id) : after = before := by
  cases stores with
  | updated | enabled | disabled | deleted => exact (beside.1 ⟨rfl, rfl⟩).elim
  | connected => exact (beside.2 trivial).elim
  | refused | beside => rfl

theorem Stores.of_asks {ε α : Type} {attempt : Attempt ε α}
    (asks : Asks (Effect.Beside collection id) attempt) :
    Meets (Stores collection id) Any (fun _ after => after = custody)
      (fun _ after => after = custody) attempt custody := by
  refine .of_asks asks (fun _ _ _ beside same stores => ⟨trivial, ?_⟩) rfl
  exact (stores.of_beside beside).trans same

theorem Stores.connect_meets {context : Context} {reference : Option ResourceRef}
    {«namespace» : String} :
    Meets (Stores collection id) Any (fun _ after => after = ⟨some members, true⟩)
      (fun _ after => after = ⟨some members, false⟩)
      (Reconcile.connect context reference «namespace») ⟨some members, false⟩ := by
  refine .bind ((of_asks ((Reconcile.findToken_asks _ _ _).mono fun _ => .of_looks)).mono ?_
    fun _ _ same => same)
  rintro token _ rfl
  refine .bind ((of_asks .demand).mono ?_ fun _ _ same => same)
  rintro bearer _ rfl
  refine .bind fun answer after answered => ⟨trivial, ?_⟩
  cases answered with
  | connected => exact .pure rfl
  | refused => rfl
  | beside beside => exact (beside.2 trivial).elim

theorem Stores.update_meets {payload : collection.Payload} :
    Meets (Stores collection id) Any
      (fun _ after => after =
        ⟨some (Json.cover members (collection.payloadCodec.encode payload).members), connected⟩)
      (fun _ _ => False) (session.update collection id payload) ⟨some members, connected⟩ := by
  refine .remote (fun _ after stores => ⟨trivial, ?_⟩) fun _ after stores => ⟨trivial, ?_⟩
  · cases stores with
    | updated => rfl
    | beside beside => exact (beside.1 ⟨rfl, rfl⟩).elim
  · cases stores with
    | beside beside => exact beside.1 ⟨rfl, rfl⟩

theorem Stores.enable_meets :
    Meets (Stores collection id) Any
      (fun _ after => after = ⟨some (Json.putMember "enabled" (.bool true) members), connected⟩)
      (fun _ _ => False) (session.enable collection id) ⟨some members, connected⟩ := by
  refine .remote (fun _ after stores => ⟨trivial, ?_⟩) fun _ after stores => ⟨trivial, ?_⟩
  · cases stores with
    | enabled => rfl
    | beside beside => exact (beside.1 ⟨rfl, rfl⟩).elim
  · cases stores with
    | beside beside => exact beside.1 ⟨rfl, rfl⟩

theorem Stores.disable_meets :
    Meets (Stores collection id) Any
      (fun _ after => after = ⟨some (Json.putMember "enabled" (.bool false) members), connected⟩)
      (fun _ _ => False) (session.disable collection id) ⟨some members, connected⟩ := by
  refine .remote (fun _ after stores => ⟨trivial, ?_⟩) fun _ after stores => ⟨trivial, ?_⟩
  · cases stores with
    | disabled => rfl
    | beside beside => exact (beside.1 ⟨rfl, rfl⟩).elim
  · cases stores with
    | beside beside => exact beside.1 ⟨rfl, rfl⟩

end

/-! ### In a session -/

/-- Such a server, if the session is let in, and the Tokens that there are can be looked up. -/
def Opens (collection : Remote.Collection) (id : UInt32) (keyring : Keyring)
    (session : Remote.Session) : Conduct Effects Custody :=
  fun before exchange after =>
    Stores collection id before exchange after ∧ exchange.Admits keyring session

section

variable {collection : Remote.Collection} {id : UInt32} {keyring : Keyring} {token : Token}
  {bearer : String} {context : Context}

/-- A pass that finds its Token and is let in gets a session. -/
theorem Opens.connect_meets {reference : Option ResourceRef} {«namespace» : String}
    (selects : keyring.Selects (Reconcile.searchFor context reference «namespace») token)
    (bears : token.usableBearer? context.now = some bearer) (custody : Custody) :
    Meets (Opens collection id keyring ⟨token.spec.endpoint, bearer⟩) Any
      (fun _ after => after.connected = true) (fun _ _ => False)
      (Reconcile.connect context reference «namespace») custody := by
  refine (Reconcile.connect_succeeds (fun _ _ _ opens => opens.2) selects bears custody).mono ?_
    fun _ _ none => none
  rintro session after ⟨before, stores, -⟩
  cases stores with
  | connected => rfl
  | beside beside => exact (beside.2 trivial).elim

/-- A session that was set up stays so. -/
theorem Opens.connected_meets {session : Remote.Session} {ε α : Type} (attempt : Attempt ε α)
    {custody : Custody} (begun : custody.connected = true) :
    Meets (Opens collection id keyring session) Any (fun _ after => after.connected = true)
      (fun _ after => after.connected = true) attempt custody := by
  refine .of_asks (Program.Asks.anything attempt.run)
    (fun before exchange after _ begun opens => ⟨trivial, ?_⟩) begun
  cases opens.1 with
  | connected => rfl
  | _ => exact begun

end

/-- A server that keeps the object of an id. What it reports of it comes from elsewhere, and so do the
Tokens. -/
def respond (collection : Remote.Collection) (id : UInt32)
    (elsewhere : (request : Effect) → Option request.Answer) : Responder Effects Custody
  | ⟨some members, connected⟩, .remote session (.update other target payload) =>
      match elsewhere (.remote session (.update other target payload)) with
      | some (.ok reported) =>
          if other = collection ∧ target = id then
            some (.ok reported,
              ⟨some (Json.cover members (other.payloadCodec.encode payload).members), connected⟩)
          else none
      | _ => none
  | ⟨some members, connected⟩, .remote _ (.enable other target) =>
      if other = collection ∧ target = id then
        some (.ok (), ⟨some (Json.putMember "enabled" (.bool true) members), connected⟩)
      else none
  | ⟨some members, connected⟩, .remote _ (.disable other target) =>
      if other = collection ∧ target = id then
        some (.ok (), ⟨some (Json.putMember "enabled" (.bool false) members), connected⟩)
      else none
  | custody, .connect _ => some (.ok (), { custody with connected := true })
  | custody, .list kind scope => (elsewhere (.list kind scope)).map (·, custody)
  | custody, .publish _ => some ((), custody)
  | custody, .removeFinalizer _ _ => some (.ok (), custody)
  | _, _ => none

theorem respond_allowed {collection : Remote.Collection} {id : UInt32} {keyring : Keyring}
    {session : Remote.Session} {elsewhere : (request : Effect) → Option request.Answer}
    (admits : ∀ request answer, elsewhere request = some answer →
      Exchange.Admits keyring session ⟨request, answer⟩) :
    Program.Allowed (Opens collection id keyring session) (respond collection id elsewhere) := by
  intro custody request answer after answered
  unfold respond at answered
  split at answered
  · split at answered
    · split at answered
      · next same =>
        rcases same with ⟨rfl, rfl⟩
        rcases Prod.mk.inj (Option.some.inj answered) with ⟨rfl, rfl⟩
        exact ⟨.updated, trivial⟩
      · cases answered
    · cases answered
  · split at answered
    · next same =>
      rcases same with ⟨rfl, rfl⟩
      rcases Prod.mk.inj (Option.some.inj answered) with ⟨rfl, rfl⟩
      exact ⟨.enabled, trivial⟩
    · cases answered
  · split at answered
    · next same =>
      rcases same with ⟨rfl, rfl⟩
      rcases Prod.mk.inj (Option.some.inj answered) with ⟨rfl, rfl⟩
      exact ⟨.disabled, trivial⟩
    · cases answered
  · rcases Prod.mk.inj (Option.some.inj answered) with ⟨rfl, rfl⟩
    exact ⟨.connected, fun _ => rfl⟩
  · rcases Option.map_eq_some_iff.mp answered with ⟨_, known, same⟩
    rcases Prod.mk.inj same with ⟨rfl, rfl⟩
    exact ⟨.beside ⟨not_false, not_false⟩, admits _ _ known⟩
  · rcases Prod.mk.inj (Option.some.inj answered) with ⟨rfl, rfl⟩
    exact ⟨.beside ⟨not_false, not_false⟩, trivial⟩
  · rcases Prod.mk.inj (Option.some.inj answered) with ⟨rfl, rfl⟩
    exact ⟨.beside ⟨not_false, not_false⟩, trivial⟩
  · cases answered

end Custody

namespace Adopting

open Custody

variable {kind : Kind} (adopting : Adopting kind)

/-- The members of an object after the body of a snapshot was written over them and the object was
switched on or off as it was then. -/
def putBack (snapshot : adopting.Snapshot) (members : List (String × Json)) :
    List (String × Json) :=
  let body := adopting.collection.payloadCodec.encode (adopting.payload snapshot)
  Json.putMember "enabled" (.bool (adopting.enabled snapshot)) (Json.cover members body.members)

section

variable {adopting} {id : UInt32} {snapshot : adopting.Snapshot} {members : List (String × Json)}
  {connected : Bool} {session : Remote.Session} {context : Context} {resource : Resource kind}

/-- Once there is a session, all that is needed to put an object back succeeds. -/
theorem restore_meets :
    Meets (Stores adopting.collection id) Any
      (fun _ after => after = ⟨some (adopting.putBack snapshot members), connected⟩)
      (fun _ _ => False) (adopting.cleanUp session (.restore id snapshot))
      ⟨some members, connected⟩ := by
  refine .bind (Stores.update_meets.mono ?_ fun _ _ none => none)
  rintro reported _ rfl
  unfold putBack
  dsimp only
  split
  · next enabled =>
    rw [enabled]
    exact .bind (Stores.enable_meets.mono (fun _ _ same => .pure same) fun _ _ none => none)
  · next disabled =>
    rw [eq_false_of_ne_true disabled]
    exact .bind (Stores.disable_meets.mono (fun _ _ same => .pure same) fun _ _ none => none)

def PutBack (adopting : Adopting kind) (snapshot : adopting.Snapshot)
    (members : List (String × Json)) (after : Custody) : Prop :=
  after.connected = true → after.members = some (adopting.putBack snapshot members)

theorem farewell_meets {type : EventType} {reason : String} {note : Option String}
    {custody : Custody} :
    Meets (Stores adopting.collection id) Any (fun _ after => after = custody)
      (fun _ after => after = custody)
      (do
        Reconcile.announce resource type reason Event.delete note
        Pass.removeFinalizer kind resource.metadata.spokenKey
        return Action.awaitChange) custody := by
  refine Stores.of_asks (.bind ?_ fun _ => .bind ⟨⟨not_false, not_false⟩, fun _ => trivial⟩ fun _ => .pure)
  exact Reconcile.announce_asks (fun _ => ⟨not_false, not_false⟩) _ _ _ _ _

/-- A resource that has an adopted object puts it back while it is let go, if it gets a session. -/
theorem release_meets (recorded : adopting.footingOf resource = .adopted id snapshot) :
    Meets (Stores adopting.collection id) Any (fun _ => adopting.PutBack snapshot members)
      (fun _ => adopting.PutBack snapshot members)
      (Reconcile.release resource (adopting.cleanup context resource)) ⟨some members, false⟩ := by
  unfold cleanup
  rw [recorded]
  have unconnected : adopting.PutBack snapshot members ⟨some members, false⟩ := by
    intro impossible
    cases impossible
  refine .bind (.outcome (.bind (Stores.connect_meets.mono ?_ ?_)))
  · rintro session _ rfl
    refine restore_meets.mono ?_ fun _ _ none => none.elim
    rintro reason _ rfl
    refine farewell_meets.mono ?_ ?_
    · rintro _ _ rfl _
      rfl
    · rintro _ _ rfl _
      rfl
  · rintro failure _ rfl
    refine farewell_meets.mono ?_ ?_
    · rintro _ _ rfl
      exact unconnected
    · rintro _ _ rfl
      exact unconnected

theorem dismiss_meets (recorded : adopting.footingOf resource = .adopted id snapshot) :
    Meets (Stores adopting.collection id) Any (fun _ => adopting.PutBack snapshot members)
      (fun _ => adopting.PutBack snapshot members)
      (Reconcile.dismiss resource (adopting.cleanup context resource)) ⟨some members, false⟩ := by
  unfold Reconcile.dismiss
  split
  · exact release_meets recorded
  · exact .pure nofun

/-- A resource that has an adopted object gets a session while it is let go, if its Token can be found and the
server lets it in. -/
theorem dismiss_connects {keyring : Keyring} {token : Token} {bearer : String}
    (recorded : adopting.footingOf resource = .adopted id snapshot) (held : resource.isHeld = true)
    (selects : keyring.Selects (Reconcile.searchFor context (adopting.token resource.spec)
      resource.metadata.spokenKey.namespace) token)
    (bears : token.usableBearer? context.now = some bearer) :
    Meets (Opens adopting.collection id keyring ⟨token.spec.endpoint, bearer⟩) Any
      (fun _ after => after.connected = true) (fun _ after => after.connected = true)
      (Reconcile.dismiss resource (adopting.cleanup context resource)) ⟨some members, false⟩ := by
  unfold Reconcile.dismiss cleanup
  rw [recorded, if_pos held]
  refine .bind (.outcome (.bind ((Opens.connect_meets selects bears _).mono ?_ fun _ _ none => none.elim)))
  intro session after connected
  exact (Opens.connected_meets _ connected).mono (fun _ _ connected => Opens.connected_meets _ connected)
    fun _ _ connected => Opens.connected_meets _ connected

/-- Where a pass ends on a resource that is deleted and has an adopted object. It has got a session if it could,
and if it has got one the object is put back. -/
theorem PutBack.of_goes {log : List (Exchange Effects)} {result : Except Failure Action}
    {after : Custody} (recorded : adopting.footingOf resource = .adopted id snapshot)
    (goes : Program.Goes (Stores adopting.collection id)
      (Reconcile.dismiss resource (adopting.cleanup context resource)).run ⟨some members, false⟩ log
      (.done result) after) :
    (resource.isHeld = true → Reconcile.LetsIn context (adopting.token resource.spec)
      resource.metadata.spokenKey.namespace log → after.connected = true) ∧
    adopting.PutBack snapshot members after := by
  constructor
  · rintro held ⟨keyring, token, bearer, selects, bears, admits⟩
    have ends := (dismiss_connects recorded held selects bears).goes
      (Program.goes_sorted_iff.mpr ⟨goes, admits⟩)
    cases result with
    | ok action => exact ends
    | error failure => exact ends
  · have ends := (dismiss_meets recorded).goes goes
    cases result with
    | ok action => exact ends
    | error failure => exact ends

end

/-! ## From adoption to deletion -/

/-- A pass of a run adopted an object: it listed it, and it was the one that the declaration, which asked
for adoption, was about. -/
def Adopted (adopting : Adopting kind) (start moment : Moment (Scene kind))
    (object : adopting.collection.Object) : Prop :=
  ∃ before after, (Scene.setting kind).Reaches start before ∧
    (Scene.setting kind).Step before after ∧ (Scene.setting kind).Reaches after moment ∧
    adopting.footingOf before.world.stored = .nothing ∧
    adopting.footingOf after.world.stored =
      .adopted (adopting.collection.idOf object) (adopting.snapshot object) ∧
    adopting.binds before.world.subject.spec = true ∧
    ∃ session objects,
      ⟨.remote session (.list adopting.collection), .ok objects⟩ ∈ before.world.seen ∧
      adopting.wanted before.world.subject.spec objects = some object

variable {adopting} in
theorem Recorded.adopted {start moment : Moment (Scene kind)}
    (recorded : adopting.Recorded start moment)
    (bound : (adopting.footingOf moment.world.stored).bound = true) :
    ∃ object, adopting.footingOf moment.world.stored =
        .adopted (adopting.collection.idOf object) (adopting.snapshot object) ∧
      adopting.Adopted start moment object := by
  rcases recorded.eq_adopted bound with ⟨id, snapshot, footing⟩
  rcases recorded.found id snapshot footing with
    ⟨before, after, earlier, step, further, nothing, adopted, found⟩
  rcases found with ⟨session, objects, object, listed, asked, wanted, rfl, rfl⟩
  exact ⟨object, footing, before, after, earlier, step, further, nothing, adopted, asked, session,
    objects, listed, wanted⟩

end Adopting

namespace Sample

def keyring : Keyring := ⟨[token], by decide⟩

def session : Remote.Session := ⟨token.spec.endpoint, "secret"⟩

theorem keyring_selects : keyring.Selects (Reconcile.searchFor context none "apps") token := by
  refine .own ⟨List.mem_singleton_self token, rfl, fun other there _ => ?_⟩
  rw [List.mem_singleton.mp there]

theorem server_admits (remote : Remote.Host) (request : Effect) (answer : request.Answer)
    (known : server remote request = some answer) :
    Exchange.Admits keyring session ⟨request, answer⟩ := by
  unfold server at known
  split at known
  case h_1 =>
    rcases Option.some.inj known with rfl
    exact ⟨_, rfl, fun token => List.mem_filter.trans (and_congr_right fun _ => decide_eq_true_iff)⟩
  case h_4 =>
    rcases Option.some.inj known with rfl
    exact fun _ => rfl
  case h_14 => cases known
  all_goals trivial

/-- A pass that comes to an end where the server keeps an object and lets the pass in. -/
theorem exists_kept {kind : Kind} (adopting : Adopting kind) (remote : Remote.Host)
    (resource : Resource kind) (id : UInt32) (members : List (String × Json))
    (place : adopting.token resource.spec = none ∧ resource.metadata.spokenKey.namespace = "apps")
    (ends : ((reconcile context kind resource).run.play
      (Custody.respond adopting.collection id (server remote)) ⟨some members, false⟩).1.isDone = true) :
    ∃ log result after,
      Program.Goes (Custody.Stores adopting.collection id) (reconcile context kind resource).run
        ⟨some members, false⟩ log (.done result) after ∧
      Reconcile.LetsIn context (adopting.token resource.spec) resource.metadata.spokenKey.namespace
        log := by
  rcases (Custody.respond_allowed (server_admits remote)).goes _ _ with ⟨log, goes⟩
  rcases Program.eq_done_of_isDone ends with ⟨result, ended⟩
  rw [ended] at goes
  have ⟨stores, admits⟩ := Program.goes_sorted_iff.mp goes
  refine ⟨log, result, _, stores, ?_⟩
  rw [place.1, place.2]
  exact ⟨keyring, token, "secret", keyring_selects, by decide, admits⟩

end Sample

end ProxyOperator
