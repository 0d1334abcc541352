import Mathlib.Data.List.Induction
import ProxyOperator.Proofs.Footing
import ProxyOperator.Proofs.Logs
/-!
Errands: what a pass does about the remote object of its resource. What a pass asked and was answered tells
which object it has in hand, and the object in hand decides what the pass may ask next. So a pass is
described by its log alone, whatever the world answers.
-/
namespace ProxyOperator

/-- What a status says of the remote object of its resource. -/
structure Entry where
  id : Option UInt32
  /-- Whether the object was there before. -/
  bound : Bool
  deriving DecidableEq

/-- How resources of a kind have a remote object of their own. -/
structure Holding (kind : Kind) where
  collection : Remote.Collection
  /-- The object that is taken, if it is there, and not made. -/
  wanted : kind.Spec → List collection.Object → Option collection.Object
  entry : kind.Status → Entry
  /-- Conditions are not about the object. -/
  entry_mapConditions : ∀ change status, entry (kind.mapConditions change status) = entry status

@[reducible] def Adopting.holding {kind : Kind} (adopting : Adopting kind) : Holding kind where
  collection := adopting.collection
  wanted := adopting.wanted
  entry status := ⟨(adopting.footing status).id, (adopting.footing status).bound⟩
  entry_mapConditions change status := by rw [adopting.footing_mapConditions]

namespace Holding

@[reducible] def letsEncryptCertificates : Holding .letsEncryptCertificate where
  collection := .certificates
  wanted spec := Remote.findExactCertificate spec.domains
  entry status := ⟨status.id, status.bound⟩
  entry_mapConditions _ _ := rfl

@[reducible] def customCertificates : Holding .customCertificate where
  collection := .certificates
  wanted _ _ := none
  entry status := ⟨status.id, false⟩
  entry_mapConditions _ _ := rfl

@[reducible] def accessLists : Holding .accessList where
  collection := .accessLists
  wanted _ _ := none
  entry status := ⟨status.id, false⟩
  entry_mapConditions _ _ := rfl

end Holding

/-- A Token has no remote object of its own. -/
def Kind.holding? : (kind : Kind) → Option (Holding kind)
  | .proxyHost => some Adopting.proxyHosts.holding
  | .stream => some Adopting.streams.holding
  | .token => none
  | .letsEncryptCertificate => some .letsEncryptCertificates
  | .customCertificate => some .customCertificates
  | .accessList => some .accessLists

/-! ## Requests about the objects of a collection -/

namespace Effect

variable (collection : Remote.Collection)

def lists : Effect → Bool
  | .remote _ (.list other) => other = collection
  | _ => false

def creates : Effect → Bool
  | .remote _ (.create other _) => other = collection
  | _ => false

/-- The id of the object that a request is about. -/
def target? : Effect → Option UInt32
  | .remote _ (.get other id) => if other = collection then some id else none
  | .remote _ (.update other id _) => if other = collection then some id else none
  | .remote _ (.delete other id) => if other = collection then some id else none
  | .remote _ (.enable other id) => if other = collection then some id else none
  | .remote _ (.disable other id) => if other = collection then some id else none
  | .remote _ (.upload id _) => if collection = .certificates then some id else none
  | _ => none

/-- The request makes no object, and is about none but the one of an id. -/
structure Sticks (id : UInt32) (effect : Effect) : Prop where
  creates : effect.creates collection = false
  target : ∀ other, effect.target? collection = some other → other = id

variable {collection} {session : Remote.Session} {id : UInt32}

theorem creates_create {payload : collection.Payload} :
    (remote session (.create collection payload)).creates collection = true :=
  decide_eq_true rfl

theorem target_get : (remote session (.get collection id)).target? collection = some id :=
  if_pos rfl

theorem target_update {payload : collection.Payload} :
    (remote session (.update collection id payload)).target? collection = some id :=
  if_pos rfl

theorem target_enable : (remote session (.enable collection id)).target? collection = some id :=
  if_pos rfl

theorem target_upload {material : Remote.Material} :
    (remote session (.upload id material)).target? .certificates = some id :=
  rfl

theorem creates_of_lists {effect : Effect} (lists : effect.lists collection = true) :
    effect.creates collection = false := by
  cases effect with
  | remote session request =>
      cases request with
      | list => rfl
      | _ => cases lists
  | _ => cases lists

theorem seeks_of_target {effect : Effect}
    (target : effect.target? collection = some id) :
    effect.lists collection = false ∧ effect.creates collection = false := by
  cases effect with
  | remote session request =>
      cases request with
      | list | create => cases target
      | _ => exact ⟨rfl, rfl⟩
  | _ => exact ⟨rfl, rfl⟩

end Effect

namespace Exchange

variable (collection : Remote.Collection)

/-- The id of the object that was made. -/
def made? : Exchange Effects → Option UInt32
  | ⟨.remote _ (.create other _), .ok object⟩ =>
      if other = collection then some (other.idOf object) else none
  | _ => none

def listed? : Exchange Effects → Option (List collection.Object)
  | ⟨.remote _ (.list other), .ok objects⟩ =>
      if same : other = collection then some (same ▸ objects) else none
  | _ => none

variable {collection} {exchange : Exchange Effects}

theorem creates_of_made {id : UInt32} (made : exchange.made? collection = some id) :
    exchange.request.creates collection = true := by
  unfold made? at made
  split at made
  · split at made
    · next same => exact decide_eq_true same
    · cases made
  · cases made

theorem lists_of_listed {objects : List collection.Object}
    (listed : exchange.listed? collection = some objects) :
    exchange.request.lists collection = true := by
  unfold listed? at listed
  split at listed
  · split at listed
    · next same => exact decide_eq_true same
    · cases listed
  · cases listed

end Exchange

/-! ## What a pass has in hand -/

inductive Hand where
  | nothing
  /-- What the resource recorded when the pass was given it. -/
  | known (id : UInt32) (bound : Bool)
  | found (id : UInt32)
  | made (id : UInt32)
  /-- An object was asked for, and nobody knows which one there is now. -/
  | lost
  deriving DecidableEq

namespace Hand

def id? : Hand → Option UInt32
  | .nothing => none
  | .known id _ => some id
  | .found id => some id
  | .made id => some id
  | .lost => none

/-- What may be recorded of the object in hand. -/
def Records (entry : Entry) : Hand → Prop
  | .nothing => False
  | .known id bound => entry = ⟨some id, bound⟩
  | .found id => entry = ⟨some id, true⟩
  | .made id => entry.id = some id
  | .lost => False

theorem Records.id {hand : Hand} {entry : Entry} (records : hand.Records entry) :
    entry.id = hand.id? := by
  cases hand with
  | nothing => exact records.elim
  | known id bound => exact congrArg Entry.id records
  | found id => exact congrArg Entry.id records
  | made id => exact records
  | lost => exact records.elim

end Hand

/-- A pass on `subject`, begun when the status in the cluster said `start`. -/
structure Errand (kind : Kind) where
  holding : Holding kind
  subject : Resource kind
  start : Entry

namespace Errand

variable {kind : Kind} (errand : Errand kind)

abbrev key : ObjectKey := errand.subject.metadata.spokenKey

def first : Hand :=
  let entry := errand.holding.entry errand.subject.statusOrEmpty
  entry.id.elim .nothing fun id => .known id entry.bound

def next : Hand → Exchange Effects → Hand
  | .nothing, exchange =>
      if exchange.request.creates errand.holding.collection then
        (exchange.made? errand.holding.collection).elim .lost .made
      else
        ((exchange.listed? errand.holding.collection).bind
          (errand.holding.wanted errand.subject.spec)).elim .nothing fun object =>
            .found (errand.holding.collection.idOf object)
  | hand, _ => hand

def hand (log : List (Exchange Effects)) : Hand := log.foldl errand.next errand.first

/-- The request is one that may follow with an object in hand: objects are looked for and made only
without one, no other object is asked about, and statuses say what they said or what is in hand. -/
structure Befits (hand : Hand) (effect : Effect) : Prop where
  seeks : effect.lists errand.holding.collection = true ∨
    effect.creates errand.holding.collection = true → hand = .nothing
  target : ∀ id, effect.target? errand.holding.collection = some id → hand.id? = some id
  tells : ∀ revision status, effect = .writeStatus kind errand.key revision status →
    errand.holding.entry status = errand.start ∨ hand.Records (errand.holding.entry status)

/-- Every request of a log befits what was in hand then. -/
def Follows (log : List (Exchange Effects)) : Prop :=
  ∀ earlier exchange later, log = earlier ++ exchange :: later →
    errand.Befits (errand.hand earlier) exchange.request

variable {errand} {log more : List (Exchange Effects)} {exchange : Exchange Effects}
  {hand : Hand} {id : UInt32}

theorem hand_append (log : List (Exchange Effects)) (exchange : Exchange Effects) :
    errand.hand (log ++ [exchange]) = errand.next (errand.hand log) exchange := by
  rw [hand, List.foldl_append]
  rfl

theorem next_of_ne (something : hand ≠ .nothing) : errand.next hand exchange = hand := by
  cases hand with
  | nothing => exact (something rfl).elim
  | known | found | made | lost => rfl

/-- What is in hand stays there. -/
theorem hand_of_ne (something : errand.hand log ≠ .nothing) (more : List (Exchange Effects)) :
    errand.hand (log ++ more) = errand.hand log := by
  induction more using List.reverseRecOn with
  | nil => rw [List.append_nil]
  | append_singleton more exchange induction =>
      rw [← List.append_assoc, hand_append, induction, next_of_ne something]

theorem next_of_listed {session : Remote.Session} {objects : List errand.holding.collection.Object} :
    errand.next .nothing ⟨.remote session (.list errand.holding.collection), .ok objects⟩ =
      (errand.holding.wanted errand.subject.spec objects).elim .nothing fun object =>
        .found (errand.holding.collection.idOf object) := by
  simp only [next, Effect.creates, Exchange.listed?, Bool.false_eq_true, if_false, dite_true,
    Option.bind_some]

theorem next_of_created {session : Remote.Session} {payload : errand.holding.collection.Payload}
    {answer : Except Failure errand.holding.collection.Object} :
    errand.next .nothing ⟨.remote session (.create errand.holding.collection payload), answer⟩ =
      match answer with
      | .ok object => .made (errand.holding.collection.idOf object)
      | .error _ => .lost := by
  refine (if_pos Effect.creates_create).trans ?_
  cases answer with
  | ok object =>
      rw [Exchange.made?, if_pos rfl]
      rfl
  | error failure => rfl

theorem hand_of_listed (empty : errand.hand log = .nothing)
    {objects : List errand.holding.collection.Object}
    (listed : exchange.listed? errand.holding.collection = some objects) :
    errand.hand (log ++ [exchange]) =
      (errand.holding.wanted errand.subject.spec objects).elim .nothing fun object =>
        .found (errand.holding.collection.idOf object) := by
  have unmade := Effect.creates_of_lists (Exchange.lists_of_listed listed)
  rw [hand_append, empty, next, unmade, listed]
  rfl

theorem hand_of_create (creates : exchange.request.creates errand.holding.collection = true) :
    errand.hand (log ++ [exchange]) ≠ .nothing := by
  rw [hand_append]
  cases errand.hand log with
  | nothing =>
      rw [next, if_pos creates]
      cases exchange.made? errand.holding.collection <;> exact Hand.noConfusion
  | known | found | made | lost => exact Hand.noConfusion

theorem Befits.sticks {effect : Effect} (befits : errand.Befits hand effect)
    (held : hand.id? = some id) : effect.Sticks errand.holding.collection id where
  creates := by
    apply eq_false_of_ne_true
    intro creates
    rw [befits.seeks (.inr creates)] at held
    cases held
  target other asked := Option.some.inj ((befits.target other asked).symm.trans held)

/-! ## Logs of errands -/

theorem Follows.take (follows : errand.Follows (log ++ more)) : errand.Follows log := by
  intro earlier exchange later split
  apply follows earlier exchange (later ++ more)
  rw [split, List.append_assoc, List.cons_append]

theorem Follows.last (follows : errand.Follows (log ++ [exchange])) :
    errand.Befits (errand.hand log) exchange.request :=
  follows log exchange [] rfl

/-- Once an object was asked for, it stays in hand whether it was made or lost. -/
theorem Follows.hand_of_creates (follows : errand.Follows log) (member : exchange ∈ log)
    (creates : exchange.request.creates errand.holding.collection = true) :
    errand.hand log = (exchange.made? errand.holding.collection).elim .lost .made := by
  obtain ⟨earlier, later, split⟩ := List.append_of_mem member
  have empty := (follows earlier exchange later split).seeks (.inr creates)
  have something : errand.hand (earlier ++ [exchange]) ≠ .nothing := hand_of_create creates
  rw [split, List.append_cons, hand_of_ne something, hand_append, empty, next, if_pos creates]

/-- The object that was made is in hand from then on. -/
theorem Follows.hand_eq_made (follows : errand.Follows log) (member : exchange ∈ log)
    (made : exchange.made? errand.holding.collection = some id) : errand.hand log = .made id := by
  rw [follows.hand_of_creates member (Exchange.creates_of_made made), made]
  rfl

end Errand

end ProxyOperator
