import ProxyOperator.Proofs.Course
import ProxyOperator.Proofs.Requests
/-!
The footing of a resource, which is what its status says of its remote object. Passes read and write the
status while users edit the rest of the resource and anything may fail; here is what such a scene is,
and which changes of a footing a pass may make in it.
-/
namespace ProxyOperator

namespace Footing

variable {σ : Type}

def made (id : UInt32) : Footing σ := ⟨some id, false, none⟩

def adopted (id : UInt32) (snapshot : σ) : Footing σ := ⟨some id, true, some snapshot⟩

theorem recorded_again (id : UInt32) (snapshot : Option σ) (footing : Footing σ) :
    (footing.recorded id snapshot).recorded id snapshot = footing.recorded id snapshot := by
  simp only [recorded]
  cases footing.initial <;> cases snapshot <;> rfl

/-- The footings that belong together in all their parts. -/
inductive Sound : Footing σ → Prop
  | nothing : Sound Footing.nothing
  | made (id : UInt32) : Sound (Footing.made id)
  | adopted (id : UInt32) (snapshot : σ) : Sound (Footing.adopted id snapshot)

theorem Sound.bound_iff_initial {footing : Footing σ} (sound : footing.Sound) :
    footing.bound = true ↔ footing.initial.isSome := by
  cases sound with
  | nothing => exact ⟨Bool.noConfusion, Bool.noConfusion⟩
  | made id => exact ⟨Bool.noConfusion, Bool.noConfusion⟩
  | adopted id snapshot => exact ⟨fun _ => rfl, fun _ => rfl⟩

theorem Sound.id_of_bound {footing : Footing σ} (sound : footing.Sound)
    (bound : footing.bound = true) : footing.id.isSome := by
  cases sound with
  | nothing => cases bound
  | made id => rfl
  | adopted id snapshot => rfl

theorem Sound.eq_made {footing : Footing σ} {id : UInt32} (sound : footing.Sound)
    (known : footing.id = some id) (own : footing.bound = false) : footing = Footing.made id := by
  cases sound with
  | nothing => cases known
  | made other =>
      obtain rfl : other = id := Option.some.inj known
      rfl
  | adopted => cases own

theorem Sound.eq_adopted {footing : Footing σ} {id : UInt32} (sound : footing.Sound)
    (known : footing.id = some id) (bound : footing.bound = true) :
    ∃ snapshot, footing = Footing.adopted id snapshot := by
  cases sound with
  | nothing => cases known
  | made => cases bound
  | adopted other snapshot =>
      obtain rfl : other = id := Option.some.inj known
      exact ⟨snapshot, rfl⟩

/-- A footing that belongs together, with an id and a mark that are known. -/
structure Fits (id : Option UInt32) (bound : Bool) (footing : Footing σ) : Prop where
  sound : footing.Sound
  id : footing.id = id
  bound : footing.bound = bound

theorem Fits.eq_nothing {bound : Bool} {footing : Footing σ} (fits : footing.Fits none bound) :
    footing = Footing.nothing := by
  rcases fits with ⟨sound, missing, -⟩
  cases sound with
  | nothing => rfl
  | made id => cases missing
  | adopted id snapshot => cases missing

theorem Fits.nothing : (Footing.nothing : Footing σ).Fits none false := ⟨.nothing, rfl, rfl⟩

theorem Fits.made (id : UInt32) : (Footing.made id : Footing σ).Fits (some id) false :=
  ⟨.made id, rfl, rfl⟩

theorem Fits.adopted (id : UInt32) (snapshot : σ) :
    (Footing.adopted id snapshot).Fits (some id) true :=
  ⟨.adopted id snapshot, rfl, rfl⟩

/-- What a pass on `subject` that has seen some exchanges may make of a footing. A snapshot is one of
the object that a listing in this very pass gave. -/
inductive Change {kind : Kind} (adopting : Adopting kind) (subject : Resource kind)
    (seen : List (Exchange Effects)) : Footing adopting.Snapshot → Footing adopting.Snapshot → Prop
  | kept (footing : Footing adopting.Snapshot) : Change adopting subject seen footing footing
  | made {session : Remote.Session} {payload : adopting.collection.Payload}
      {object : adopting.collection.Object}
      (answered : ⟨.remote session (.create adopting.collection payload), .ok object⟩ ∈ seen) :
      Change adopting subject seen nothing (Footing.made (adopting.collection.idOf object))
  | adopted {session : Remote.Session} {objects : List adopting.collection.Object}
      {object : adopting.collection.Object}
      (answered : ⟨.remote session (.list adopting.collection), .ok objects⟩ ∈ seen)
      (asked : adopting.binds subject.spec = true)
      (found : adopting.wanted subject.spec objects = some object) :
      Change adopting subject seen nothing
        (Footing.adopted (adopting.collection.idOf object) (adopting.snapshot object))

theorem Change.elim {kind : Kind} {adopting : Adopting kind} {subject : Resource kind}
    {seen : List (Exchange Effects)} {before after : Footing adopting.Snapshot}
    (change : Change adopting subject seen before after) :
    after = before ∨ before = nothing ∧
      ((∃ session payload object,
          ⟨.remote session (.create adopting.collection payload), .ok object⟩ ∈ seen ∧
          after = Footing.made (adopting.collection.idOf object)) ∨
        ∃ session objects object,
          ⟨.remote session (.list adopting.collection), .ok objects⟩ ∈ seen ∧
          adopting.wanted subject.spec objects = some object ∧
          after = Footing.adopted (adopting.collection.idOf object) (adopting.snapshot object)) := by
  cases change with
  | kept => exact .inl rfl
  | made answered => exact .inr ⟨rfl, .inl ⟨_, _, _, answered, rfl⟩⟩
  | adopted answered _ found => exact .inr ⟨rfl, .inr ⟨_, _, _, answered, found, rfl⟩⟩

theorem Change.sound {kind : Kind} {adopting : Adopting kind} {subject : Resource kind}
    {seen : List (Exchange Effects)} {before after : Footing adopting.Snapshot}
    (change : Change adopting subject seen before after) (sound : before.Sound) : after.Sound := by
  cases change with
  | kept => exact sound
  | made => exact .made _
  | adopted => exact .adopted _ _

/-- What a footing says is said by a later one in the same way. -/
structure Lasts (before after : Footing σ) : Prop where
  id : ∀ id, before.id = some id → after.id = some id
  bound : before.id.isSome → after.bound = before.bound
  initial : ∀ snapshot, before.initial = some snapshot → after.initial = some snapshot

theorem Lasts.refl (footing : Footing σ) : footing.Lasts footing :=
  ⟨fun _ same => same, fun _ => rfl, fun _ same => same⟩

theorem Lasts.of_nothing (footing : Footing σ) : nothing.Lasts footing where
  id _ known := nomatch known
  bound known := nomatch known
  initial _ known := nomatch known

theorem Lasts.trans {first second third : Footing σ} (start : first.Lasts second)
    (further : second.Lasts third) : first.Lasts third where
  id id known := further.id id (start.id id known)
  bound known := by
    have ⟨id, equal⟩ := Option.isSome_iff_exists.mp known
    have still : second.id.isSome := by rw [start.id id equal]; rfl
    exact (further.bound still).trans (start.bound known)
  initial snapshot known := further.initial snapshot (start.initial snapshot known)

theorem Change.lasts {kind : Kind} {adopting : Adopting kind} {subject : Resource kind}
    {seen : List (Exchange Effects)} {before after : Footing adopting.Snapshot}
    (change : Change adopting subject seen before after) : before.Lasts after := by
  cases change with
  | kept => exact .refl _
  | made => exact .of_nothing _
  | adopted => exact .of_nothing _

end Footing

/-! ## Scenes -/

/-- A resource in the cluster while a pass runs on what it was when the pass began. -/
structure Scene (kind : Kind) where
  stored : Resource kind
  /-- What the pass that runs, or ran last, was given. -/
  subject : Resource kind
  /-- What that pass asked so far, and was answered. -/
  seen : List (Exchange Effects)

/-- The request is one to read or write the status of a resource. -/
def Effect.Concerns (kind : Kind) (key : ObjectKey) : Effect → Prop
  | .read other target => other = kind ∧ target = key
  | .writeStatus other target _ _ => other = kind ∧ target = key
  | _ => False

/-- What users may do to a resource: anything but change its status or what it is called. -/
structure Resource.Edited {kind : Kind} (before after : Resource kind) : Prop where
  status : after.status = before.status
  called : after.metadata.spokenKey = before.metadata.spokenKey

/-- How the cluster serves a request where a resource is stored, and what is stored then. A write whose
failure is reported may have happened all the same. -/
inductive Serves {kind : Kind} (key : ObjectKey) (stored : Resource kind) :
    Exchange Effects → Resource kind → Prop
  | read : Serves key stored ⟨.read kind key, .ok (some stored)⟩ stored
  | unread (failure : Failure) : Serves key stored ⟨.read kind key, .error failure⟩ stored
  | written (revision : Option String) (status : kind.Status) :
      Serves key stored ⟨.writeStatus kind key revision status, .ok ()⟩
        { stored with status := some status }
  | refused (revision : Option String) (status : kind.Status) (failure : Failure) :
      Serves key stored ⟨.writeStatus kind key revision status, .error failure⟩ stored
  | unheard (revision : Option String) (status : kind.Status) (failure : Failure) :
      Serves key stored ⟨.writeStatus kind key revision status, .error failure⟩
        { stored with status := some status }
  | elsewhere {exchange : Exchange Effects} (other : ¬ exchange.request.Concerns kind key) :
      Serves key stored exchange stored

theorem Serves.metadata {kind : Kind} {key : ObjectKey} {stored served : Resource kind}
    {exchange : Exchange Effects} (serves : Serves key stored exchange served) :
    served.metadata = stored.metadata := by
  cases serves <;> rfl

/-- A remote server that is asked to get or update the object of an id answers with an object of
that id. -/
def Exchange.Faithful : Exchange Effects → Prop
  | ⟨.remote _ (.get collection id), answer⟩ =>
      ∀ object, answer = .ok object → collection.idOf object = id
  | ⟨.remote _ (.update collection id _), answer⟩ =>
      ∀ object, answer = .ok object → collection.idOf object = id
  | _ => True

namespace Scene

variable {kind : Kind}

/-- Whatever a pass asks, it is served, and the user may edit the resource after that. -/
structure Answers (before : Scene kind) (exchange : Exchange Effects) (after : Scene kind) : Prop where
  served : ∃ served, Serves before.subject.metadata.spokenKey before.stored exchange served ∧
    served.Edited after.stored
  faithful : exchange.Faithful
  subject : after.subject = before.subject
  seen : after.seen = before.seen ++ [exchange]

/-- A pass begins on the resource as it is stored, unless its deletion was asked for. -/
structure Begins (before : Scene kind) (pass : Running) (after : Scene kind) : Prop where
  remains : before.stored.metadata.isDeleting = false
  pass : ∃ context, pass = (reconcile context kind before.stored).run
  stored : before.stored.Edited after.stored
  subject : after.subject = before.stored
  seen : after.seen = []

def setting (kind : Kind) : Setting (Scene kind) where
  conduct := Answers
  begins := Begins
  disturbs before after := before.stored.Edited after.stored

end Scene

end ProxyOperator
