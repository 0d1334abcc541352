import ProxyOperator.Proofs.CreatedOnce
import ProxyOperator.Proofs.StatusPatches
import ProxyOperator.Proofs.Ways
/-!
What passes that fail leave behind. As long as nobody else writes, a pass that stops at its work changes
no status but that of its own resource, and there nothing but the conditions and what it has just made or
adopted.
-/
namespace ProxyOperator

open Attempt Reconcile

/-! ## What is stored in the cluster -/

/-- The resources of all kinds. -/
abbrev Registry := (kind : Kind) → ObjectKey → Option (Resource kind)

namespace Registry

variable {registry before after : Registry} {kind : Kind} {key : ObjectKey}

/-- The status of a resource; one that has none yet has the empty one. -/
def status (registry : Registry) (kind : Kind) (key : ObjectKey) : Option kind.Status :=
  (registry kind key).map (·.statusOrEmpty)

/-- A resource is there before and after, with the same status, or on neither side. -/
def AlikeAt (before after : Registry) (kind : Kind) (key : ObjectKey) : Prop :=
  (after kind key).map (·.status) = (before kind key).map (·.status)

/-- What happens to the resources besides their statuses is left open. -/
def Alike (before after : Registry) : Prop := ∀ kind key, before.AlikeAt after kind key

/-- A status was laid over the one that a resource has, and no other status was changed. -/
structure Written (before : Registry) (kind : Kind) (key : ObjectKey) (status : kind.Status)
    (after : Registry) : Prop where
  own : (after kind key).map (·.status) =
    (before kind key).map fun stored => some (kind.overlaid stored.statusOrEmpty status)
  others : ∀ other place, (⟨other, place⟩ : Kind × ObjectKey) ≠ ⟨kind, key⟩ →
    before.AlikeAt after other place

theorem AlikeAt.status (alike : before.AlikeAt after kind key) :
    after.status kind key = before.status kind key := by
  have same := congrArg (Option.map (·.getD kind.emptyStatus)) alike
  rw [Option.map_map, Option.map_map] at same
  exact same

theorem Written.status {status : kind.Status} (written : before.Written kind key status after) :
    after.status kind key = (before.status kind key).map fun older => kind.overlaid older status := by
  have same := congrArg (Option.map (·.getD kind.emptyStatus)) written.own
  rw [Option.map_map, Option.map_map] at same
  unfold Registry.status
  rw [Option.map_map]
  exact same

end Registry

/-- How requests are answered while nobody else writes. A status that is written may be stored though the write
is reported to have failed. -/
inductive Solitary : Conduct Effects Registry
  | read {before after : Registry} {kind : Kind} {key : ObjectKey} (alike : before.Alike after) :
      Solitary before ⟨.read kind key, .ok (before kind key)⟩ after
  | unread {before after : Registry} {kind : Kind} {key : ObjectKey} (failure : Failure)
      (alike : before.Alike after) : Solitary before ⟨.read kind key, .error failure⟩ after
  | written {before after : Registry} {kind : Kind} {key : ObjectKey} {status : kind.Status}
      (revision : Option String) (answer : Except Failure Unit)
      (written : before.Written kind key status after) :
      Solitary before ⟨.writeStatus kind key revision status, answer⟩ after
  | refused {before after : Registry} {kind : Kind} {key : ObjectKey} {status : kind.Status}
      (revision : Option String) (failure : Failure) (alike : before.Alike after) :
      Solitary before ⟨.writeStatus kind key revision status, .error failure⟩ after
  | elsewhere {before after : Registry} {exchange : Exchange Effects}
      (other : ∀ kind key, ¬exchange.request.Concerns kind key) (alike : before.Alike after) :
      Solitary before exchange after

/-! ## What may change -/

namespace Kind

/-- A status without its conditions. -/
def bare (kind : Kind) (status : kind.Status) : kind.Status := kind.mapConditions (fun _ => []) status

/-- A status without all that a pass that fails may change. -/
def lasting : (kind : Kind) → kind.Status → kind.Status
  | .proxyHost, status =>
      { status with id := none, bound := false, initial := none, conditions := [] }
  | .stream, status => { status with id := none, bound := false, initial := none, conditions := [] }
  | .customCertificate, status => { status with id := none, conditions := [] }
  | .token, status => { status with conditions := [] }
  | .letsEncryptCertificate, status => { status with conditions := [] }
  | .accessList, status => { status with conditions := [] }

end Kind

/-- With this exchange a remote object was made, or one was found that the declaration asks to adopt. -/
inductive Adopting.Acquires {kind : Kind} (adopting : Adopting kind) (spec : kind.Spec) :
    Exchange Effects → Prop
  | made {session : Remote.Session} {payload : adopting.collection.Payload}
      {object : adopting.collection.Object} :
      Acquires adopting spec
        ⟨.remote session (.create adopting.collection payload), .ok object⟩
  | adopted {session : Remote.Session} {objects : List adopting.collection.Object}
      {object : adopting.collection.Object} (asked : adopting.binds spec = true)
      (found : adopting.wanted spec objects = some object) :
      Acquires adopting spec ⟨.remote session (.list adopting.collection), .ok objects⟩

/-- A remote object was made or adopted whose id is recorded before a pass comes to its end. -/
def Kind.Acquires : (kind : Kind) → kind.Spec → Exchange Effects → Prop
  | .proxyHost, spec => Adopting.proxyHosts.Acquires spec
  | .stream, spec => Adopting.streams.Acquires spec
  | .customCertificate, _ => fun exchange => (exchange.made? .certificates).isSome
  | .token, _ => fun _ => False
  | .letsEncryptCertificate, _ => fun _ => False
  | .accessList, _ => fun _ => False

/-- What a pass that failed has left of the statuses: the others are as they were, and its own is so but for the
conditions and for what is said of the remote object, and the latter only if one was acquired. -/
structure Spared {kind : Kind} (subject : Resource kind) (before : Registry)
    (log : List (Exchange Effects)) (after : Registry) : Prop where
  others : ∀ other place,
    (⟨other, place⟩ : Kind × ObjectKey) ≠ ⟨kind, subject.metadata.spokenKey⟩ →
      before.AlikeAt after other place
  own : (after.status kind subject.metadata.spokenKey).map kind.lasting =
    (before.status kind subject.metadata.spokenKey).map kind.lasting
  unacquired : (∀ exchange ∈ log, ¬kind.Acquires subject.spec exchange) →
    (after.status kind subject.metadata.spokenKey).map kind.bare =
      (before.status kind subject.metadata.spokenKey).map kind.bare

/-! ## Parts that spare all but a part of a status -/

section

variable {kind : Kind} {key : ObjectKey} {sort : Exchange Effects → Prop}
  {erase : kind.Status → kind.Status} {start : Registry}

/-- Up to a part that is erased from the one status, the statuses are what they were. -/
structure Stays (key : ObjectKey) (erase : kind.Status → kind.Status) (start registry : Registry) :
    Prop where
  others : ∀ other place, (⟨other, place⟩ : Kind × ObjectKey) ≠ ⟨kind, key⟩ →
    start.AlikeAt registry other place
  own : (registry.status kind key).map erase = (start.status kind key).map erase

theorem Stays.refl (key : ObjectKey) (erase : kind.Status → kind.Status) (start : Registry) :
    Stays key erase start start := ⟨fun _ _ _ => rfl, rfl⟩

theorem Stays.alike {before after : Registry} (stays : Stays key erase start before)
    (alike : before.Alike after) : Stays key erase start after where
  others other place away := (alike other place).trans (stays.others other place away)
  own := by
    rw [(alike kind key).status]
    exact stays.own

theorem Stays.written {before after : Registry} {status : kind.Status}
    (stays : Stays key erase start before) (written : before.Written kind key status after)
    (same : ∀ stored, before.status kind key = some stored →
      erase (kind.overlaid stored status) = erase stored) :
    Stays key erase start after where
  others other place away := (written.others other place away).trans (stays.others other place away)
  own := by
    rw [written.status, ← stays.own]
    cases known : before.status kind key with
    | none => rfl
    | some stored => exact congrArg some (same stored known)

/-- The exchanges of one sort, while nobody else writes. -/
def solitary (sort : Exchange Effects → Prop) : Conduct Effects Registry :=
  fun before exchange after => Solitary before exchange after ∧ sort exchange

/-- A part of a pass spares all but a part of the status, however it ends. -/
structure Spares (sort : Exchange Effects → Prop) (key : ObjectKey)
    (erase : kind.Status → kind.Status) (start : Registry) {ε α : Type} (attempt : Attempt ε α) :
    Prop where
  meets : ∀ registry, Stays key erase start registry →
    Meets (solitary sort) (fun _ _ _ => True) (fun _ => Stays key erase start)
      (fun _ => Stays key erase start) attempt registry

namespace Spares

variable {ε α β : Type}

theorem pure {value : α} : Spares sort key erase start (pure value : Attempt ε α) :=
  ⟨fun _ stays => stays⟩

theorem throw {failure : ε} : Spares sort key erase start (throw failure : Attempt ε α) :=
  ⟨fun _ stays => stays⟩

theorem bind {attempt : Attempt ε α} {next : α → Attempt ε β}
    (first : Spares sort key erase start attempt)
    (further : ∀ value, Spares sort key erase start (next value)) :
    Spares sort key erase start (attempt >>= next) := by
  refine ⟨fun registry stays => .bind ?_⟩
  exact (first.meets registry stays).mono (fun value => (further value).meets) fun _ _ ends => ends

theorem staged {stage : Stage} {pass : Pass α} (spares : Spares sort key erase start pass) :
    Spares sort key erase start (stage.run pass) :=
  ⟨fun registry stays => .staged (spares.meets registry stays)⟩

theorem outcome {attempt : Attempt ε α} {ε' : Type} (spares : Spares sort key erase start attempt) :
    Spares sort key erase start (ExceptT.lift attempt.run : Attempt ε' (Except ε α)) :=
  ⟨fun registry stays => .outcome (spares.meets registry stays)⟩

/-- Requests that write no status leave the statuses alone. -/
theorem of_asks {attempt : Attempt ε α} (asks : Asks Effect.Quiet attempt) :
    Spares sort key erase start attempt := by
  refine ⟨fun registry stays => .of_asks asks (fun before exchange after quiet stays answered => ?_)
    stays⟩
  refine ⟨trivial, ?_⟩
  cases answered.1 with
  | read alike | unread _ alike | refused _ _ alike | elsewhere _ alike => exact stays.alike alike
  | written => exact quiet.elim

/-- What follows an answer of the remote server may depend on the sort of that answer. -/
theorem remote {session : Remote.Session} {request : Remote.Request}
    {next : request.Result → Pass β}
    (further : ∀ value, sort ⟨.remote session request, .ok value⟩ →
      Spares sort key erase start (next value)) :
    Spares sort key erase start
      (((Effect.remote session request).ask : Pass request.Result) >>= next) := by
  refine ⟨fun registry stays => .bind ?_⟩
  refine Meets.remote (fun value after answered => ⟨trivial, ?_⟩) fun _ after answered => ⟨trivial, ?_⟩
  · cases answered.1 with
    | elsewhere _ alike => exact (further value answered.2).meets after (stays.alike alike)
  · cases answered.1 with
    | elsewhere _ alike => exact stays.alike alike

/-- A change of what is erased is spared. -/
theorem updateStatus {context : Context} {change : kind.Status → kind.Status}
    (same : ∀ status, erase (kind.overlaid status (change status)) = erase status) :
    Spares sort key erase start (updateStatus context kind key change) := by
  refine ⟨fun registry stays => .updateStatus (fun latest after => Stays key erase start after ∧
    after.status kind key = some latest.statusOrEmpty) ?_ ?_ ?_ stays⟩
  · intro time before after stays waited
    cases waited.1 with
    | elsewhere _ alike => exact ⟨trivial, stays.alike alike⟩
  · intro answer before after stays answered
    apply And.intro trivial
    cases answered.1 with
    | elsewhere other => exact absurd ⟨rfl, rfl⟩ (other kind key)
    | unread failure alike => exact ⟨stays.alike alike, stays.alike alike⟩
    | read alike =>
        have kept := stays.alike alike
        cases found : before kind key with
        | none => exact kept
        | some latest =>
            refine ⟨kept, ?_⟩
            rw [(alike kind key).status, Registry.status, found]
            rfl
  · intro latest revision answer before after ⟨kept, stored⟩ answered
    apply And.intro trivial
    have written (written : before.Written kind key (change latest.statusOrEmpty) after) :
        Stays key erase start after := by
      refine kept.written written fun status known => ?_
      obtain rfl := Option.some.inj (stored.symm.trans known)
      exact same latest.statusOrEmpty
    cases answered.1 with
    | elsewhere other => exact absurd ⟨rfl, rfl⟩ (other kind key)
    | refused revision failure alike => exact ⟨kept.alike alike, kept.alike alike⟩
    | written revision answer stored =>
        cases answer with
        | ok _ => exact written stored
        | error failure => exact ⟨written stored, written stored⟩

theorem concludes {attempt : Attempt ε α} {log : List (Exchange Effects)} {outcome : Except ε α}
    {before after : Registry} (spares : Spares sort key erase start attempt)
    (stays : Stays key erase start before)
    (concludes : Concludes (solitary sort) attempt before log outcome after) :
    Stays key erase start after := by
  have ends := (spares.meets before stays).goes concludes
  cases outcome with
  | ok value => exact ends
  | error failure => exact ends

end Spares

end

/-! ## The parts of passes -/

theorem Kind.bare_mapConditions (kind : Kind) (change : List Condition → List Condition)
    (status : kind.Status) : kind.bare (kind.mapConditions change status) = kind.bare status := by
  cases kind <;> rfl

theorem Kind.lasting_mapConditions (kind : Kind) (change : List Condition → List Condition)
    (status : kind.Status) :
    kind.lasting (kind.mapConditions change status) = kind.lasting status := by
  cases kind <;> rfl

theorem Kind.bare_overlaid {kind : Kind} {older newer : kind.Status}
    (same : kind.bare newer = kind.bare older) :
    kind.bare (kind.overlaid older newer) = kind.bare older := by
  have within : kind.bare (kind.overlaid older newer) =
      kind.bare (kind.overlaid (kind.bare older) (kind.bare newer)) := by
    cases kind <;> rfl
  rw [within, same, overlaid_self]
  exact kind.bare_mapConditions _ _

theorem Kind.lasting_overlaid {kind : Kind} {older newer : kind.Status}
    (same : kind.lasting newer = kind.lasting older) :
    kind.lasting (kind.overlaid older newer) = kind.lasting older := by
  have within : kind.lasting (kind.overlaid older newer) =
      kind.lasting (kind.overlaid (kind.lasting older) (kind.lasting newer)) := by
    cases kind <;> rfl
  rw [within, same, overlaid_self]
  cases kind <;> rfl

/-- What is erased from a status covers all that may change with exchanges of a sort: the conditions, and what is
said of the remote object if one may be acquired. -/
structure Covers (kind : Kind) (spec : kind.Spec) (sort : Exchange Effects → Prop)
    (erase : kind.Status → kind.Status) : Prop where
  overlaid : ∀ older newer, erase newer = erase older →
    erase (kind.overlaid older newer) = erase older
  conditions : ∀ change status, erase (kind.mapConditions change status) = erase status
  acquired : ∀ exchange, sort exchange → kind.Acquires spec exchange →
    ∀ one other, kind.lasting one = kind.lasting other → erase one = erase other

theorem Covers.lasting (kind : Kind) (spec : kind.Spec) :
    Covers kind spec (fun _ => True) kind.lasting :=
  ⟨fun _ _ => kind.lasting_overlaid, kind.lasting_mapConditions, fun _ _ _ _ _ same => same⟩

theorem Covers.bare (kind : Kind) (spec : kind.Spec) :
    Covers kind spec (fun exchange => ¬kind.Acquires spec exchange) kind.bare :=
  ⟨fun _ _ => kind.bare_overlaid, kind.bare_mapConditions, fun _ no acquires => absurd acquires no⟩

section

variable {kind : Kind} {subject : Resource kind} {context : Context}
  {sort : Exchange Effects → Prop} {erase : kind.Status → kind.Status} {start : Registry}

namespace Spares

theorem updateConditions (covers : Covers kind subject.spec sort erase)
    {change : List Condition → List Condition} :
    Spares sort subject.metadata.spokenKey erase start
      (Reconcile.updateStatus context kind subject.metadata.spokenKey
        (kind.mapConditions change)) :=
  updateStatus fun _ => covers.overlaid _ _ (covers.conditions change _)

theorem recordFailure (covers : Covers kind subject.spec sort erase) {stopped : StageFailure} :
    Spares sort subject.metadata.spokenKey erase start
      (Reconcile.recordFailure context subject stopped) :=
  .bind (.outcome (updateConditions covers)) fun _ => .pure

theorem connect {reference : Option ResourceRef} {own : String} :
    Spares sort subject.metadata.spokenKey erase start (connect context reference own) :=
  .of_asks <| (connect_asks context reference own).mono fun _ => Or.rec .of_looks .of_connects

theorem looks {ε α : Type} {attempt : Attempt ε α} (asks : Asks Effect.Looks attempt) :
    Spares sort subject.metadata.spokenKey erase start attempt :=
  .of_asks <| asks.mono fun _ => Effect.Quiet.of_looks

end Spares

/-! ### Resources that adopt -/

namespace Adopting

variable {adopting : Adopting kind} {session : Remote.Session}

/-- What is acquired for a kind is recorded in the part of its status that may change. -/
structure Records (adopting : Adopting kind) : Prop where
  acquires : ∀ spec exchange, adopting.Acquires spec exchange → kind.Acquires spec exchange
  lasting : ∀ said status, kind.lasting (adopting.withFooting said status) = kind.lasting status

theorem proxyHosts_records : proxyHosts.Records := ⟨fun _ _ acquires => acquires, fun _ _ => rfl⟩

theorem streams_records : streams.Records := ⟨fun _ _ acquires => acquires, fun _ _ => rfl⟩

variable (records : adopting.Records) (covers : Covers kind subject.spec sort erase)

include records covers

theorem recordRemote_spares {exchange : Exchange Effects} {id : UInt32}
    {snapshot : Option adopting.Snapshot} {reason : String} (sorted : sort exchange)
    (acquires : adopting.Acquires subject.spec exchange) :
    Spares sort subject.metadata.spokenKey erase start
      (adopting.recordRemote context subject id snapshot reason) := by
  refine .bind (.updateStatus fun status => ?_) fun _ => .of_asks ⟨trivial, fun _ => trivial⟩
  apply covers.overlaid
  exact covers.acquired exchange sorted (records.acquires _ _ acquires) _ _ (records.lasting _ status)

theorem adopt_spares (binds : adopting.binds subject.spec = true) :
    Spares sort subject.metadata.spokenKey erase start (adopting.adopt context session subject) := by
  refine .remote fun objects sorted => ?_
  dsimp only
  cases found : adopting.wanted subject.spec objects with
  | none => exact .pure
  | some remote =>
      exact .bind (recordRemote_spares records covers sorted (.adopted binds found)) fun _ => .pure

theorem findRemote_spares :
    Spares sort subject.metadata.spokenKey erase start
      (adopting.findRemote context session subject) := by
  unfold findRemote
  dsimp only
  split
  · exact .bind (.staged (.of_asks ⟨trivial, fun _ => trivial⟩)) fun _ => .pure
  · split
    · next binds => exact .bind (.staged (adopt_spares records covers binds)) fun _ => .pure
    · exact .pure

theorem write_spares {existing : Option adopting.collection.Object}
    {payload : adopting.collection.Payload} :
    Spares sort subject.metadata.spokenKey erase start
      (adopting.write context session subject existing payload) := by
  cases existing with
  | some remote => exact .of_asks ⟨trivial, fun _ => trivial⟩
  | none =>
      refine .remote fun remote sorted => ?_
      exact .bind (recordRemote_spares records covers sorted .made) fun _ => .pure

end Adopting

end

/-! ### The work of each kind -/

namespace Reconcile

variable {context : Context} {sort : Exchange Effects → Prop} {start : Registry}

theorem hold_spares {kind : Kind} {subject : Resource kind} {erase : kind.Status → kind.Status} :
    Spares sort subject.metadata.spokenKey erase start (hold subject) :=
  .of_asks (hold_asks subject trivial)

namespace ProxyHosts

variable {host : ProxyHost} {erase : Kind.proxyHost.Status → Kind.proxyHost.Status}

theorem begin_spares (covers : Covers .proxyHost host.spec sort erase) :
    Spares sort host.metadata.spokenKey erase start (begin context host) := by
  unfold begin
  dsimp only
  split
  · exact .updateConditions covers
  · exact .pure

theorem upgrade_spares {session : Remote.Session} {certificate : HostCertificate}
    {accessListId : Option UInt32} {remote : Remote.Host} :
    Spares sort host.metadata.spokenKey erase start
      (upgrade session host certificate accessListId remote) := by
  refine .bind (.staged (.looks (resolveTargets_asks host true))) fun targets => ?_
  split
  · exact .pure
  · exact .staged (.of_asks ⟨trivial, fun _ => trivial⟩)

theorem converge_spares (covers : Covers .proxyHost host.spec sort erase) :
    Spares sort host.metadata.spokenKey erase start (converge context host) := by
  unfold converge
  refine .bind (.of_asks .check) fun _ => ?_
  refine .bind (.staged .connect) fun session => ?_
  refine .bind (.staged (.looks (checkClaims_asks host))) fun _ => ?_
  refine .bind (Adopting.findRemote_spares Adopting.proxyHosts_records covers) fun found => ?_
  refine .bind (.staged (.of_asks ((HostCertificate.resolve_asks _ _ _ _ _).mono
    fun _ => Or.rec .of_looks .of_consults))) fun certificate => ?_
  refine .bind (.staged (.of_asks ((HostAccess.resolve_asks _ _ _).mono
    fun _ => Or.rec .of_looks .of_consults))) fun accessListId => ?_
  refine .bind (.staged (.looks (resolveTargets_asks host _))) fun targets => ?_
  refine .bind (.staged (Adopting.write_spares Adopting.proxyHosts_records covers)) fun first => ?_
  -- What is left is the same after an upgrade and without one.
  have enables (remote : Remote.Host) : Spares sort host.metadata.spokenKey erase start (do
      unless remote.enabled do
        Stage.remote.run (session.enable .proxyHosts remote.id)
      return (⟨remote.id, found.2, remote.health.online, certificate⟩ : Converged)) := by
    split
    · exact .pure
    · exact .bind (.staged (.of_asks ⟨trivial, fun _ => trivial⟩)) fun _ => .pure
  dsimp only
  split
  · exact .bind upgrade_spares enables
  · exact enables first

end ProxyHosts

namespace Streams

variable {stream : Stream} {erase : Kind.stream.Status → Kind.stream.Status}

theorem begin_spares (covers : Covers .stream stream.spec sort erase) :
    Spares sort stream.metadata.spokenKey erase start (begin context stream) := by
  unfold begin
  dsimp only
  split
  · exact .updateConditions covers
  · exact .pure

theorem converge_spares (covers : Covers .stream stream.spec sort erase) :
    Spares sort stream.metadata.spokenKey erase start (converge context stream) := by
  unfold converge
  refine .bind (.of_asks .check) fun _ => ?_
  refine .bind (.staged .connect) fun session => ?_
  refine .bind (.staged (.looks (checkClaims_asks stream))) fun _ => ?_
  refine .bind (Adopting.findRemote_spares Adopting.streams_records covers) fun found => ?_
  refine .bind (.staged (.looks (Target.resolve_asks _ _ _))) fun target => ?_
  refine .bind (.staged (Adopting.write_spares Adopting.streams_records covers)) fun remote => ?_
  dsimp only
  split
  · exact .pure
  · exact .bind (.staged (.of_asks ⟨trivial, fun _ => trivial⟩)) fun _ => .pure

end Streams

theorem Tokens.issue_spares {token : Token} {erase : Kind.token.Status → Kind.token.Status} :
    Spares sort token.metadata.spokenKey erase start (issue token) := by
  have texts (field : String) : Asks Effect.Quiet
      (secretText ⟨token.metadata.spokenKey.namespace, token.spec.secret.name⟩ field) :=
    (secretText_asks _ _).mono fun _ => .of_looks
  unfold issue
  -- Nothing depends on how the endpoint is trimmed, and unfolding that takes long.
  generalize trimText token.spec.endpoint = endpoint
  apply Spares.of_asks
  refine .doIf .check fun _ => ?_
  refine .bind (.staged (texts _)) fun identity => ?_
  refine .bind (.staged (texts _)) fun secret => ?_
  exact .staged ⟨trivial, fun _ => trivial⟩

theorem AccessLists.converge_spares {list : AccessList}
    {erase : Kind.accessList.Status → Kind.accessList.Status} :
    Spares sort list.metadata.spokenKey erase start (converge context list) := by
  unfold converge
  refine .bind (.of_asks .check) fun _ => ?_
  refine .bind (.staged (.looks (.mapM (login_asks _) _))) fun logins => ?_
  refine .bind (.staged .connect) fun session => ?_
  unfold write
  split
  · exact .staged (.of_asks (.bind ⟨trivial, fun _ => trivial⟩ fun _ => .pure))
  · exact .staged (.of_asks (.bind ⟨trivial, fun _ => trivial⟩ fun _ => .pure))

theorem LetsEncryptCertificates.converge_spares {certificate : LetsEncryptCertificate}
    {erase : Kind.letsEncryptCertificate.Status → Kind.letsEncryptCertificate.Status} :
    Spares sort certificate.metadata.spokenKey erase start (converge context certificate) := by
  have requests (session : Remote.Session) :
      Asks Effect.Quiet (request context session certificate) := by
    refine .bind (.staged .demand) fun email => ?_
    refine .bind (.staged ((withChallenge_asks _ _ _).mono fun _ => .of_looks)) fun payload => ?_
    exact .staged ⟨trivial, fun _ => trivial⟩
  unfold converge
  refine .bind (.of_asks .check) fun _ => ?_
  refine .bind (.staged .connect) fun session => ?_
  split
  · exact .bind (.staged (.of_asks ⟨trivial, fun _ => trivial⟩)) fun _ => .pure
  · refine .bind (.staged (.of_asks ⟨trivial, fun _ => trivial⟩)) fun listed => ?_
    split
    · exact .pure
    · exact .bind (.of_asks (requests session)) fun _ => .pure

namespace CustomCertificates

variable {certificate : CustomCertificate}
  {erase : Kind.customCertificate.Status → Kind.customCertificate.Status}

theorem make_spares {session : Remote.Session}
    (covers : Covers .customCertificate certificate.spec sort erase) :
    Spares sort certificate.metadata.spokenKey erase start (make context session certificate) := by
  refine .remote fun remote sorted => ?_
  refine .bind (.updateStatus fun status => ?_) fun _ => .pure
  exact covers.overlaid _ _ (covers.acquired _ sorted rfl _ _ rfl)

theorem converge_spares (covers : Covers .customCertificate certificate.spec sort erase) :
    Spares sort certificate.metadata.spokenKey erase start (converge context certificate) := by
  unfold converge
  refine .bind (.of_asks .check) fun _ => ?_
  refine .bind (.staged (.looks (readMaterial_asks certificate))) fun material => ?_
  refine .bind (.staged .connect) fun session => ?_
  have gets (id : UInt32) (due : Bool) : Spares sort certificate.metadata.spokenKey erase start (do
      return (⟨← Stage.remote.run (session.get .certificates id), material.fingerprint, due⟩ :
        Converged)) :=
    .bind (.staged (.of_asks ⟨trivial, fun _ => trivial⟩)) fun _ => .pure
  -- What is left is the same for a certificate on record and for one just made.
  have uploads (id : UInt32) : Spares sort certificate.metadata.spokenKey erase start (do
      let due := certificate.statusOrEmpty.id.isNone ||
        certificate.statusOrEmpty.materialHash ≠ some material.fingerprint
      if due then Stage.remote.run (session.upload id material)
      return (⟨← Stage.remote.run (session.get .certificates id), material.fingerprint, due⟩ :
        Converged)) := by
    dsimp only
    split
    · exact .bind (.staged (.of_asks ⟨trivial, fun _ => trivial⟩)) fun _ => gets id _
    · exact gets id _
  dsimp only
  split
  · exact .bind .pure uploads
  · exact .bind (.staged (make_spares covers)) uploads

end CustomCertificates
end Reconcile

/-! ## Passes that stop at their work -/

/-- What a pass does before it comes to one of its two branches: it opens, and does its work. -/
structure Undertaking where
  Outcome : Type
  opening : Pass Unit
  work : Staged Outcome

/-- What a pass on a resource that stays undertakes. On a Token whose bearer token is not yet due for renewal
it is nothing. -/
def undertaking? (context : Context) : (kind : Kind) → Resource kind → Option Undertaking
  | .proxyHost, host =>
      some ⟨_, hold host >>= fun _ => ProxyHosts.begin context host,
        ProxyHosts.converge context host⟩
  | .stream, stream =>
      some ⟨_, hold stream >>= fun _ => Streams.begin context stream,
        Streams.converge context stream⟩
  | .token, token =>
      if Tokens.needsRefresh token context.now context.settings.refreshMargin then
        some ⟨_, pure (), Tokens.issue token⟩
      else none
  | .letsEncryptCertificate, certificate =>
      some ⟨_, hold certificate, LetsEncryptCertificates.converge context certificate⟩
  | .customCertificate, certificate =>
      some ⟨_, hold certificate, CustomCertificates.converge context certificate⟩
  | .accessList, list => some ⟨_, hold list, AccessLists.converge context list⟩

section

variable {kind : Kind} {context : Context} {subject : Resource kind} {undertaking : Undertaking}

/-- A pass ends in its error branch: it opens, and its work stops. -/
inductive StopsAt (context : Context) (subject : Resource kind) (start : Registry)
    (log : List (Exchange Effects)) (stopped : StageFailure) : Prop
  | intro {undertaking : Undertaking} {opening working rest : List (Exchange Effects)}
      {opened worked : Registry} (undertakes : undertaking? context kind subject = some undertaking)
      (opens : Concludes Solitary undertaking.opening start opening (.ok ()) opened)
      (stops : Concludes Solitary undertaking.work opened working (.error stopped) worked)
      (begun : log = opening ++ working ++ rest) : StopsAt context subject start log stopped

theorem undertaking?_token {token : Token}
    (undertakes : undertaking? context .token token = some undertaking) :
    Tokens.needsRefresh token context.now context.settings.refreshMargin = true ∧
      undertaking = ⟨_, pure (), Tokens.issue token⟩ := by
  by_cases due : Tokens.needsRefresh token context.now context.settings.refreshMargin = true
  · exact ⟨due, (Option.some.inj ((if_pos due).symm.trans undertakes)).symm⟩
  · cases (if_neg due).symm.trans undertakes

/-- A pass on a resource that stays is finished as the work of its undertaking ended. -/
theorem reconcile_undertaking (remains : subject.metadata.isDeleting = false)
    (undertakes : undertaking? context kind subject = some undertaking) :
    ∃ succeed, reconcile context kind subject =
      undertaking.opening >>= fun _ => finish context subject undertaking.work succeed := by
  have goesOn {α : Type} (first second : α) :
      (if subject.metadata.isDeleting then first else second) = second := by
    rw [remains]
    rfl
  cases kind with
  | proxyHost | stream =>
      obtain rfl := Option.some.inj undertakes
      exact ⟨_, (goesOn _ _).trans (bind_assoc _ _ _).symm⟩
  | letsEncryptCertificate | customCertificate | accessList =>
      obtain rfl := Option.some.inj undertakes
      exact ⟨_, goesOn _ _⟩
  | token =>
      obtain ⟨due, rfl⟩ := undertaking?_token undertakes
      have ⟨succeed, same⟩ : ∃ succeed, Tokens.reconcile context subject =
          finish context subject (Tokens.issue subject) succeed := by
        unfold Tokens.reconcile
        rw [goesOn]
        exact ⟨_, if_pos due⟩
      refine ⟨succeed, ?_⟩
      dsimp only
      rw [pure_bind]
      exact same

theorem undertaking_spares {sort : Exchange Effects → Prop} {erase : kind.Status → kind.Status}
    (start : Registry) (covers : Covers kind subject.spec sort erase)
    (undertakes : undertaking? context kind subject = some undertaking) :
    Spares sort subject.metadata.spokenKey erase start undertaking.opening ∧
      Spares sort subject.metadata.spokenKey erase start undertaking.work := by
  cases kind with
  | proxyHost =>
      obtain rfl := Option.some.inj undertakes
      exact ⟨.bind hold_spares fun _ => ProxyHosts.begin_spares covers,
        ProxyHosts.converge_spares covers⟩
  | stream =>
      obtain rfl := Option.some.inj undertakes
      exact ⟨.bind hold_spares fun _ => Streams.begin_spares covers, Streams.converge_spares covers⟩
  | letsEncryptCertificate =>
      obtain rfl := Option.some.inj undertakes
      exact ⟨hold_spares, LetsEncryptCertificates.converge_spares⟩
  | customCertificate =>
      obtain rfl := Option.some.inj undertakes
      exact ⟨hold_spares, CustomCertificates.converge_spares covers⟩
  | accessList =>
      obtain rfl := Option.some.inj undertakes
      exact ⟨hold_spares, AccessLists.converge_spares⟩
  | token =>
      obtain ⟨_, rfl⟩ := undertaking?_token undertakes
      dsimp only
      exact ⟨.pure, Tokens.issue_spares⟩

/-- What is left to do when the work stopped: tell about it, record it and fail. -/
def concede (context : Context) (subject : Resource kind) (stopped : StageFailure) : Pass Action := do
  if announcesFailure kind then
    announce subject .warning Event.syncFailed Event.reconcile (some stopped.text)
  recordFailure context subject stopped
  throw stopped.failure

theorem concede_spares {sort : Exchange Effects → Prop} {erase : kind.Status → kind.Status}
    {start : Registry} {stopped : StageFailure} (covers : Covers kind subject.spec sort erase) :
    Spares sort subject.metadata.spokenKey erase start (concede context subject stopped) := by
  have records : Spares sort subject.metadata.spokenKey erase start (do
      recordFailure context subject stopped
      throw stopped.failure : Pass Action) :=
    .bind (.recordFailure covers) fun _ => .throw
  unfold concede
  split
  · exact .bind (.of_asks ⟨trivial, fun _ => trivial⟩) fun _ => records
  · exact records

theorem concede_fails {σ : Type} {conduct : Conduct Effects σ} {before after : σ}
    {log : List (Exchange Effects)} {outcome : Except Failure Action} {stopped : StageFailure}
    (concludes : Concludes conduct (concede context subject stopped) before log outcome after) :
    outcome = .error stopped.failure := by
  have records {state : σ} {log : List (Exchange Effects)}
      (concludes : Concludes conduct (do
        recordFailure context subject stopped
        throw stopped.failure : Pass Action) state log outcome after) :
      outcome = .error stopped.failure := by
    rcases concludes.of_bind with ⟨_, recorded, _⟩ | ⟨_, _, _, _, _, failed, _⟩
    -- The failure to record a failure is passed over.
    · rcases recorded.of_bind with ⟨_, written, _⟩ | ⟨_, _, _, _, _, passed, _⟩
      · obtain ⟨_, _, ends⟩ := written.of_outcome
        cases ends
      · obtain ⟨_, ends, _⟩ := passed.of_pure
        cases ends
    · exact failed.of_throw.2.1
  unfold concede at concludes
  split at concludes
  · obtain ⟨_, _, _, further⟩ := concludes.of_announce
    exact records further
  · exact records concludes

/-- A pass whose work stops goes through its opening and its work, and concedes then. -/
theorem StopsAt.split {σ : Type} {conduct : Conduct Effects σ} {before after : σ}
    {start : Registry} {log : List (Exchange Effects)} {outcome : Except Failure Action}
    {stopped : StageFailure} (stops : StopsAt context subject start log stopped)
    (remains : subject.metadata.isDeleting = false)
    (concludes : Concludes conduct (reconcile context kind subject) before log outcome after) :
    ∃ undertaking opening working conceding opened worked,
      undertaking? context kind subject = some undertaking ∧
      Concludes conduct undertaking.opening before opening (.ok ()) opened ∧
      Concludes conduct undertaking.work opened working (.error stopped) worked ∧
      Concludes conduct (concede context subject stopped) worked conceding outcome after := by
  obtain ⟨undertakes, opens, works, begun⟩ := stops
  obtain ⟨succeed, same⟩ := reconcile_undertaking remains undertakes
  rw [same] at concludes
  rw [List.append_assoc] at begun
  rcases concludes.of_bind with ⟨failure, failed, _⟩ | ⟨_, opened, first, _, opening, further, split⟩
  · have ⟨_, ends⟩ := opens.same_end failed (begun.symm.trans (List.append_nil log).symm)
    cases ends
  obtain ⟨rfl, _⟩ := opens.same_end opening (begun.symm.trans split)
  have rest := List.append_cancel_left (begun.symm.trans split)
  rcases Concludes.of_bind further with ⟨_, failed, _⟩ | ⟨result, worked, _, _, worked', conceded, later⟩
  · obtain ⟨_, _, ends⟩ := failed.of_outcome
    cases ends
  obtain ⟨_, working, ends⟩ := worked'.of_outcome
  obtain rfl := Except.ok.inj ends
  obtain ⟨rfl, rfl⟩ := works.same_end working (rest.trans later)
  exact ⟨_, _, _, _, _, _, undertakes, opening, working, conceded⟩

/-- A pass on a resource that stays, while nobody else writes: if it ends in its error branch it fails with what
stopped it, changes no other status, and of its own only the conditions and what it has just made or adopted. -/
theorem failed_pass_spares {start after : Registry} {log : List (Exchange Effects)}
    {outcome : Except Failure Action} {stopped : StageFailure}
    (remains : subject.metadata.isDeleting = false)
    (goes : Program.Goes Solitary (reconcile context kind subject).run start log (.done outcome)
      after) (stops : StopsAt context subject start log stopped) :
    outcome = .error stopped.failure ∧ Spared subject start log after := by
  have stays {sort : Exchange Effects → Prop} {erase : kind.Status → kind.Status}
      (covers : Covers kind subject.spec sort erase) (sorted : ∀ exchange ∈ log, sort exchange) :
      outcome = .error stopped.failure ∧
        Stays subject.metadata.spokenKey erase start after := by
    have whole := Program.goes_sorted_iff.mpr ⟨goes, sorted⟩
    obtain ⟨_, _, _, _, _, _, undertakes, opening, working, conceding⟩ :=
      stops.split remains whole
    have ⟨opens, works⟩ := undertaking_spares start covers undertakes
    have opened := opens.concludes (.refl _ _ _) opening
    have worked := works.concludes opened working
    exact ⟨concede_fails conceding, (concede_spares covers).concludes worked conceding⟩
  have ⟨failed, lasting⟩ := stays (.lasting kind subject.spec) fun _ _ => trivial
  exact ⟨failed, lasting.others, lasting.own,
    fun unacquired => (stays (.bare kind subject.spec) unacquired).2.own⟩

end

/-! ## A host that cannot be enabled -/

/-- The opening and the work of a pass, and what it concedes, make up the pass. -/
theorem Attempt.Concludes.of_undertaking {kind : Kind} {context : Context} {subject : Resource kind}
    {undertaking : Undertaking} {σ : Type} {conduct : Conduct Effects σ}
    {before opened worked after : σ} {opening working conceding : List (Exchange Effects)}
    {outcome : Except Failure Action} {stopped : StageFailure}
    (remains : subject.metadata.isDeleting = false)
    (undertakes : undertaking? context kind subject = some undertaking)
    (opens : Concludes conduct undertaking.opening before opening (.ok ()) opened)
    (stops : Concludes conduct undertaking.work opened working (.error stopped) worked)
    (concedes : Concludes conduct (concede context subject stopped) worked conceding outcome after) :
    Concludes conduct (reconcile context kind subject) before (opening ++ working ++ conceding)
      outcome after := by
  obtain ⟨succeed, same⟩ := reconcile_undertaking remains undertakes
  rw [same, List.append_assoc]
  exact opens.bind (Program.Goes.append (Program.Goes.bind (Program.Goes.bind stops)) concedes)

namespace Registry

/-- The same cluster with another host in one place. -/
def put (registry : Registry) (key : ObjectKey) (host : ProxyHost) : Registry
  | .proxyHost, place => if place = key then some host else registry .proxyHost place
  | other, place => registry other place

variable {registry : Registry} {key : ObjectKey} {stored : ProxyHost}

theorem put_proxyHost (registry : Registry) (key place : ObjectKey) (host : ProxyHost) :
    registry.put key host .proxyHost place =
      if place = key then some host else registry .proxyHost place := rfl

theorem alike_put (found : registry .proxyHost key = some stored) :
    registry.Alike (registry.put key stored) := by
  intro kind place
  cases kind with
  | proxyHost =>
      rw [AlikeAt, put_proxyHost]
      split
      · next same => rw [same, found]
      · rfl
  | _ => rfl

theorem written_put (found : registry .proxyHost key = some stored)
    (status : Kind.proxyHost.Status) :
    registry.Written .proxyHost key status
      (registry.put key
        { stored with status := some (Kind.proxyHost.overlaid stored.statusOrEmpty status) }) where
  own := by
    rw [put_proxyHost, if_pos rfl, found]
    rfl
  others other place away := by
    cases other with
    | proxyHost => rw [AlikeAt, put_proxyHost, if_neg fun same => away (congrArg _ same)]
    | _ => rfl

end Registry

namespace Sample

def web : ObjectKey := ⟨"apps", "web"⟩

/-- A cluster of which the host `web` is served, with a server that cannot enable hosts. -/
def unable : Responder Effects Registry := fun registry request => do
  let stored ← registry .proxyHost web
  let answer ← obliging? (.error default) stored request
  let after :=
    match request with
    | .writeStatus .proxyHost _ _ status =>
        { stored with status := some (Kind.proxyHost.overlaid stored.statusOrEmpty status) }
    | _ => stored
  return (answer, registry.put web after)

theorem unable_allowed : Program.Allowed Solitary unable := by
  intro registry request answer after answered
  obtain ⟨stored, found, responds⟩ := Option.bind_eq_some_iff.mp answered
  obtain ⟨_, known, returned⟩ := Option.bind_eq_some_iff.mp responds
  obtain ⟨rfl, rfl⟩ := Prod.mk.inj (Option.some.inj returned)
  have alike := Registry.alike_put found
  unfold obliging? at known
  split at known
  · split at known
    · next key same =>
      obtain rfl := Option.some.inj known
      obtain rfl := same
      exact found ▸ .read alike
    · cases known
  · split at known
    · next revision status _ same =>
      obtain rfl := same
      exact .written revision _ (Registry.written_put found status)
    · cases known
  · exact .elsewhere (fun _ _ => not_false) alike
  · exact .elsewhere (fun _ _ => not_false) alike
  · exact .elsewhere (fun _ _ => not_false) alike
  · exact .elsewhere (fun _ _ => not_false) alike
  · exact .elsewhere (fun _ _ => not_false) alike
  · exact .elsewhere (fun _ _ => not_false) alike
  · exact .elsewhere (fun _ _ => not_false) alike
  · exact .elsewhere (fun _ _ => not_false) alike
  · cases known

end Sample

/-- A host is made that cannot be enabled: its id stays on record, and nothing else of the status has changed
but the conditions. -/
theorem failed_pass_spares_unable :
    ∃ start log stopped after,
      Program.Goes Solitary
        (reconcile Sample.context .proxyHost (Sample.host "web" false [⟨"10.0.0.1", 80⟩])).run start
        log (.done (.error stopped.failure)) after ∧
      StopsAt Sample.context (Sample.host "web" false [⟨"10.0.0.1", 80⟩]) start log stopped ∧
      Spared (Sample.host "web" false [⟨"10.0.0.1", 80⟩]) start log after ∧
      (after.status .proxyHost Sample.web).map (·.id) = some (some 99) := by
  let subject := Sample.host "web" false [⟨"10.0.0.1", 80⟩]
  let stopped : StageFailure := ⟨.remote, default⟩
  let start : Registry := Registry.put (fun _ _ => none) Sample.web subject
  let undertaking : Undertaking :=
    ⟨_, hold subject >>= fun _ => ProxyHosts.begin Sample.context subject,
      ProxyHosts.converge Sample.context subject⟩
  let conceding := (concede Sample.context subject stopped).run
  let opened := (undertaking.opening.run.play Sample.unable start).2
  let worked := (undertaking.work.run.play Sample.unable opened).2
  have opens := Sample.unable_allowed.goes_heard undertaking.opening.run start
  have works := Sample.unable_allowed.goes_heard undertaking.work.run opened
  have concedes := Sample.unable_allowed.goes_heard conceding worked
  obtain ⟨_, ended⟩ : ∃ done, (undertaking.opening.run.play Sample.unable start).1 = .done (.ok done) :=
    Program.eq_done_ok_of_succeeds (by decide +kernel)
  have halted : (undertaking.work.run.play Sample.unable opened).1 = .done (.error stopped) :=
    Program.eq_done_error_of_failure? (by decide +kernel)
  have failed : (conceding.play Sample.unable worked).1 = .done (.error stopped.failure) :=
    Program.eq_done_error_of_failure? (by decide +kernel)
  rw [ended] at opens
  rw [halted] at works
  rw [failed] at concedes
  have goes : Program.Goes Solitary (reconcile Sample.context .proxyHost subject).run start _ _ _ :=
    Concludes.of_undertaking (by decide +kernel) rfl opens works concedes
  have stops : StopsAt Sample.context subject start (_ ++ _ ++ conceding.heard Sample.unable worked)
      stopped :=
    .intro rfl opens works rfl
  have spared := (failed_pass_spares (by decide +kernel) goes stops).2
  exact ⟨start, _, stopped, _, goes, stops, spared, by decide +kernel⟩

end ProxyOperator
