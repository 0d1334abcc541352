import ProxyOperator.Proofs.HostBodies
import ProxyOperator.Proofs.Instants
import ProxyOperator.Proofs.MergedRecords
import ProxyOperator.Wire.ClusterApi
/-!
What a status patch leaves in the cluster. The patch is merged into the stored status and does not
mention what is empty, so an optional part or a list that was set before stays where the new status has
none.
-/
namespace ProxyOperator

namespace Codec

/-! ## Plain values -/

theorem string_plain : string.Plain := ⟨fun _ => Json.noConfusion, fun _ _ => rfl, fun _ => rfl⟩

theorem bool_plain : bool.Plain := ⟨fun _ => Json.noConfusion, fun _ _ => rfl, fun _ => rfl⟩

theorem instant_plain : instant.Plain :=
  ⟨fun _ => Json.noConfusion, fun _ _ => rfl, instant_decode_encode⟩

theorem wholeWithin_plain {α : Type} {low high : Int} {toInt : α → Int} {ofInt : Int → α}
    (within : ∀ value, low ≤ toInt value ∧ toInt value ≤ high)
    (back : ∀ value, ofInt (toInt value) = value) : (wholeWithin low high toInt ofInt).Plain := by
  refine ⟨fun _ => Json.noConfusion, fun _ _ => rfl, fun value => ?_⟩
  unfold wholeWithin Json.whole
  dsimp only
  rw [if_pos (within value), back]

theorem uint16_plain : uint16.Plain := by
  apply wholeWithin_plain
  · intro value
    have bound := value.toNat_lt
    omega
  · intro value
    rw [Int.toNat_natCast, UInt16.ofNat_toNat]

theorem uint32_plain : uint32.Plain := by
  apply wholeWithin_plain
  · intro value
    have bound := value.toNat_lt
    omega
  · intro value
    rw [Int.toNat_natCast, UInt32.ofNat_toNat]

theorem int64_plain : int64.Plain := by
  apply wholeWithin_plain
  · intro value
    have low := value.le_toInt
    have high := value.toInt_lt
    omega
  · exact Int64.ofInt_toInt

theorem list_plain {α : Type} {item : Codec α}
    (faithful : ∀ value, item.decode (item.encode value) = .ok value) : item.list.Plain :=
  ⟨fun _ => Json.noConfusion, fun _ _ => rfl, list_decode_encode faithful⟩

end Codec

theorem ConditionStatus.codec_plain : ConditionStatus.codec.Plain := by
  refine ⟨fun _ => Json.noConfusion, fun _ _ => rfl, fun value => ?_⟩
  cases value <;> rfl

namespace Condition

open Record

theorem decode_encode (condition : Condition) :
    codec.decode (codec.encode condition) = .ok condition := by
  have settles : record.Settles condition (Json.find []) condition :=
    .seq (.seq (.seq (.seq (.seq (.map (.required Codec.string_plain))
      (.required ConditionStatus.codec_plain))
      (.required Codec.string_plain))
      (.required Codec.string_plain))
      (.required Codec.instant_plain))
      (.optional_fresh Codec.int64_plain rfl)
  exact settles.decode_written (by decide)

end Condition

namespace ProxyHost

open Record

theorem LocationSnapshot.decode_encode (location : LocationSnapshot) :
    LocationSnapshot.codec.decode (LocationSnapshot.codec.encode location) = .ok location := by
  have settles : LocationSnapshot.record.Settles location (Json.find []) location :=
    .seq (.seq (.seq (.seq (.map (.required Codec.string_plain))
      (.required Codec.string_plain))
      (.required Codec.string_plain))
      (.required Codec.uint16_plain))
      (.defaulted Codec.string_plain)
  exact settles.decode_written (by decide)

namespace Snapshot

/-- The configuration outside the server block stays where the new snapshot has none. -/
def overlaid (older newer : Snapshot) : Snapshot :=
  { newer with unscopedConfig := newer.unscopedConfig.or older.unscopedConfig }

theorem settles {found : String → Option Json} {newer : Snapshot} {kept : Option String}
    (unscoped : (Record.optional "unscopedConfig" Snapshot.unscopedConfig Codec.string).Settles
      newer found kept) :
    record.Settles newer found { newer with unscopedConfig := kept } :=
  .seq (.seq (.seq (.seq (.seq (.seq (.seq (.seq (.seq (.seq (.seq (.seq (.seq (.seq (.seq (.seq
    (.map (.required (Codec.list_plain Codec.string_decode_encode)))
    (.required Codec.string_plain))
    (.required Codec.string_plain))
    (.required Codec.uint16_plain))
    (.required Codec.uint32_plain))
    (.required Codec.uint32_plain))
    (.required Codec.bool_plain))
    (.required Codec.bool_plain))
    (.required Codec.bool_plain))
    (.required Codec.bool_plain))
    (.required Codec.bool_plain))
    (.required Codec.bool_plain))
    (.required Codec.bool_plain))
    (.required Codec.string_plain))
    unscoped)
    (.required Codec.bool_plain))
    (.defaulted (Codec.list_plain LocationSnapshot.decode_encode))

theorem blends : record.Blends overlaid := by
  apply Blends.ofSettles (by decide)
  · intro value
    exact settles (.optional_fresh Codec.string_plain rfl)
  · intro members older newer built
    rw [← builds_eq] at built
    simp only [record, builds_seq, builds_map] at built
    rcases built with
      ⟨domains, -, scheme, -, host, -, port, -, accessListId, -, certificateId, -, sslForced, -,
        http2, -, hsts, -, hstsSubdomains, -, caching, -, blockExploits, -, websockets, -,
        advancedConfig, -, unscopedConfig, readUnscoped, enabled, -, locations, -, rfl⟩
    exact settles (.optional Codec.string_plain readUnscoped)

end Snapshot

end ProxyHost

namespace Stream

open Record

namespace Snapshot

theorem settles {found : String → Option Json} {newer : Snapshot} :
    record.Settles newer found newer :=
  .seq (.seq (.seq (.seq (.seq (.map (.required Codec.uint16_plain))
    (.required Codec.string_plain))
    (.required Codec.uint16_plain))
    (.required Codec.bool_plain))
    (.required Codec.bool_plain))
    (.required Codec.bool_plain)

/-- A snapshot of a stream has no optional parts. -/
theorem blends : record.Blends fun _ newer => newer :=
  .ofSettles (by decide) (fun _ => settles) fun _ _ => settles

end Snapshot

end Stream

/-! ## Statuses -/

namespace Kind

open Record

def statusRecord : (kind : Kind) → Record kind.Status kind.Status
  | .proxyHost => ProxyHost.Status.record
  | .stream => Stream.Status.record
  | .token => Token.Status.record
  | .letsEncryptCertificate => LetsEncryptCertificate.Status.record
  | .customCertificate => CustomCertificate.Status.record
  | .accessList => AccessList.Status.record

theorem statusCodec_eq (kind : Kind) : kind.statusCodec = kind.statusRecord.codec .strict := by
  cases kind <;> rfl

theorem statusRecord_distinct (kind : Kind) : (kind.statusRecord.members.map (·.1)).Nodup := by
  cases kind <;> decide

/-- A status laid over an older one: what it leaves out stays. -/
def overlaid : (kind : Kind) → (older newer : kind.Status) → kind.Status
  | .proxyHost, older, newer =>
      { newer with
        id := newer.id.or older.id
        initial := partOver ProxyHost.Snapshot.overlaid older.initial newer.initial
        certificateId := newer.certificateId.or older.certificateId
        observedGeneration := newer.observedGeneration.or older.observedGeneration
        conditions := listOver older.conditions newer.conditions }
  | .stream, older, newer =>
      { newer with
        id := newer.id.or older.id
        initial := partOver (fun _ newer => newer) older.initial newer.initial
        observedGeneration := newer.observedGeneration.or older.observedGeneration
        conditions := listOver older.conditions newer.conditions }
  | .token, older, newer =>
      { bearer := newer.bearer.or older.bearer
        expires := newer.expires.or older.expires
        endpoint := newer.endpoint.or older.endpoint
        conditions := listOver older.conditions newer.conditions }
  | .letsEncryptCertificate, older, newer =>
      { newer with
        id := newer.id.or older.id
        domains := listOver older.domains newer.domains
        expires := newer.expires.or older.expires
        conditions := listOver older.conditions newer.conditions }
  | .customCertificate, older, newer =>
      { id := newer.id.or older.id
        domains := listOver older.domains newer.domains
        expires := newer.expires.or older.expires
        materialHash := newer.materialHash.or older.materialHash
        conditions := listOver older.conditions newer.conditions }
  | .accessList, older, newer =>
      { id := newer.id.or older.id
        conditions := listOver older.conditions newer.conditions }

/-- A status settles over any older one that was read, provided that no snapshot stands there as an array. -/
theorem settles {kind : Kind} {found : String → Option Json} {older : kind.Status}
    (newer : kind.Status) (noArray : ∀ items, found "initialConfiguration" ≠ some (.array items))
    (built : kind.statusRecord.build found = .ok older) :
    kind.statusRecord.Settles newer found (kind.overlaid older newer) := by
  have conditionsPlain : Condition.codec.list.Plain := Codec.list_plain Condition.decode_encode
  have stringsPlain : Codec.string.list.Plain := Codec.list_plain Codec.string_decode_encode
  rw [← builds_eq] at built
  cases kind with
  | proxyHost =>
      simp only [statusRecord, ProxyHost.Status.record, builds_seq, builds_map] at built
      rcases built with
        ⟨id, readId, bound, -, initial, readInitial, online, -, certificateId, readCertificate,
          certificateBound, -, generation, readGeneration, conditions, readConditions, rfl⟩
      exact .seq (.seq (.seq (.seq (.seq (.seq (.seq
        (.map (.optional Codec.uint32_plain readId))
        (.defaulted Codec.bool_plain))
        (.nested ProxyHost.Snapshot.blends noArray readInitial))
        (.defaulted Codec.bool_plain))
        (.optional Codec.uint32_plain readCertificate))
        (.defaulted Codec.bool_plain))
        (.optional Codec.int64_plain readGeneration))
        (.listed conditionsPlain readConditions)
  | stream =>
      simp only [statusRecord, Stream.Status.record, builds_seq, builds_map] at built
      rcases built with
        ⟨id, readId, bound, -, initial, readInitial, online, -, generation, readGeneration,
          conditions, readConditions, rfl⟩
      exact .seq (.seq (.seq (.seq (.seq
        (.map (.optional Codec.uint32_plain readId))
        (.defaulted Codec.bool_plain))
        (.nested Stream.Snapshot.blends noArray readInitial))
        (.defaulted Codec.bool_plain))
        (.optional Codec.int64_plain readGeneration))
        (.listed conditionsPlain readConditions)
  | token =>
      simp only [statusRecord, Token.Status.record, builds_seq, builds_map] at built
      rcases built with
        ⟨bearer, readBearer, expires, readExpires, endpoint, readEndpoint, conditions,
          readConditions, rfl⟩
      exact .seq (.seq (.seq
        (.map (.optional Codec.string_plain readBearer))
        (.optional Codec.instant_plain readExpires))
        (.optional Codec.string_plain readEndpoint))
        (.listed conditionsPlain readConditions)
  | letsEncryptCertificate =>
      simp only [statusRecord, LetsEncryptCertificate.Status.record, builds_seq, builds_map] at built
      rcases built with
        ⟨id, readId, bound, -, domains, readDomains, expires, readExpires, conditions,
          readConditions, rfl⟩
      exact .seq (.seq (.seq (.seq
        (.map (.optional Codec.uint32_plain readId))
        (.defaulted Codec.bool_plain))
        (.listed stringsPlain readDomains))
        (.optional Codec.instant_plain readExpires))
        (.listed conditionsPlain readConditions)
  | customCertificate =>
      simp only [statusRecord, CustomCertificate.Status.record, builds_seq, builds_map] at built
      rcases built with
        ⟨id, readId, domains, readDomains, expires, readExpires, materialHash, readHash, conditions,
          readConditions, rfl⟩
      exact .seq (.seq (.seq (.seq
        (.map (.optional Codec.uint32_plain readId))
        (.listed stringsPlain readDomains))
        (.optional Codec.instant_plain readExpires))
        (.optional Codec.string_plain readHash))
        (.listed conditionsPlain readConditions)
  | accessList =>
      simp only [statusRecord, AccessList.Status.record, builds_seq, builds_map] at built
      rcases built with ⟨id, readId, conditions, readConditions, rfl⟩
      exact .seq (.map (.optional Codec.uint32_plain readId)) (.listed conditionsPlain readConditions)

theorem build_nothing (kind : Kind) :
    kind.statusRecord.build (Json.find []) = .ok kind.emptyStatus := by
  cases kind <;> rfl

/-- No status is written with an array for a snapshot. -/
theorem not_mem_write (kind : Kind) (status : kind.Status) (items : List Json) :
    ("initialConfiguration", Json.array items) ∉ kind.statusRecord.write status := by
  cases kind <;>
    simp [statusRecord, ProxyHost.Status.record, Stream.Status.record, Token.Status.record,
      LetsEncryptCertificate.Status.record, CustomCertificate.Status.record,
      AccessList.Status.record, write_map, write_seq, write_optional, write_defaulted, write_listed,
      ProxyHost.Snapshot.codec, Stream.Snapshot.codec, Record.codec]

/-! ## What lingers -/

/-- The name of a part that was set and is empty now. -/
def left {α : Type} (name : String) (older newer : Option α) : List String :=
  if older.isSome && newer.isNone then [name] else []

/-- The name of a list that had items and has none now. -/
def leftItems {α : Type} (name : String) (older newer : List α) : List String :=
  if !older.isEmpty && newer.isEmpty then [name] else []

/-- The same of the configuration outside the server block, where one snapshot follows another. -/
def leftUnscoped : (older newer : Option ProxyHost.Snapshot) → List String
  | some before, some after =>
      left "initialConfiguration.unscopedConfig" before.unscopedConfig after.unscopedConfig
  | _, _ => []

/-- The names of the parts of a status that a newer one has emptied. -/
def lingering : (kind : Kind) → (older newer : kind.Status) → List String
  | .proxyHost, older, newer =>
      left "id" older.id newer.id ++ left "initialConfiguration" older.initial newer.initial ++
        leftUnscoped older.initial newer.initial ++
        left "certificateId" older.certificateId newer.certificateId ++
        left "observedGeneration" older.observedGeneration newer.observedGeneration ++
        leftItems "conditions" older.conditions newer.conditions
  | .stream, older, newer =>
      left "id" older.id newer.id ++ left "initialConfiguration" older.initial newer.initial ++
        left "observedGeneration" older.observedGeneration newer.observedGeneration ++
        leftItems "conditions" older.conditions newer.conditions
  | .token, older, newer =>
      left "token" older.bearer newer.bearer ++ left "expires" older.expires newer.expires ++
        left "endpoint" older.endpoint newer.endpoint ++
        leftItems "conditions" older.conditions newer.conditions
  | .letsEncryptCertificate, older, newer =>
      left "id" older.id newer.id ++ leftItems "domainNames" older.domains newer.domains ++
        left "expiresOn" older.expires newer.expires ++
        leftItems "conditions" older.conditions newer.conditions
  | .customCertificate, older, newer =>
      left "id" older.id newer.id ++ leftItems "domainNames" older.domains newer.domains ++
        left "expiresOn" older.expires newer.expires ++
        left "materialHash" older.materialHash newer.materialHash ++
        leftItems "conditions" older.conditions newer.conditions
  | .accessList, older, newer =>
      left "id" older.id newer.id ++ leftItems "conditions" older.conditions newer.conditions

theorem left_eq_nil {α : Type} {name : String} {older newer : Option α} :
    left name older newer = [] ↔ newer.or older = newer := by
  cases older <;> cases newer <;> simp [left]

theorem leftItems_eq_nil {α : Type} {name : String} {older newer : List α} :
    leftItems name older newer = [] ↔ listOver older newer = newer := by
  cases older <;> cases newer <;> simp [listOver, leftItems]

/-- The snapshot of a host stays as it is written unless it or its optional part has been emptied. -/
theorem partOver_eq_iff (older newer : Option ProxyHost.Snapshot) :
    partOver ProxyHost.Snapshot.overlaid older newer = newer ↔
      left "initialConfiguration" older newer = [] ∧ leftUnscoped older newer = [] := by
  cases older with
  | none => cases newer <;> simp [partOver, left, leftUnscoped]
  | some before =>
      cases newer with
      | none => simp [partOver, left, leftUnscoped]
      | some after =>
          rcases after with ⟨⟩
          simp [partOver, leftUnscoped, ProxyHost.Snapshot.overlaid, left_eq_nil]

/-- A status takes the place of an older one in full just where nothing of the older one lingers. -/
theorem overlaid_eq_iff (kind : Kind) (older newer : kind.Status) :
    kind.overlaid older newer = newer ↔ kind.lingering older newer = [] := by
  cases kind <;> rcases newer with ⟨⟩ <;>
    simp [overlaid, lingering, left_eq_nil, leftItems_eq_nil, partOver_eq_iff, partOver_whole,
      and_assoc]

/-- Where there was no status, nothing of one stays. -/
theorem overlaid_emptyStatus (kind : Kind) (newer : kind.Status) :
    kind.overlaid kind.emptyStatus newer = newer :=
  (overlaid_eq_iff kind _ newer).mpr (by cases kind <;> rfl)

/-- A status settles as it is where there was none. -/
theorem settles_fresh (kind : Kind) (status : kind.Status) :
    kind.statusRecord.Settles status (Json.find []) status := by
  have settles : kind.statusRecord.Settles status (Json.find [])
      (kind.overlaid kind.emptyStatus status) :=
    kind.settles status (fun _ impossible => nomatch impossible) kind.build_nothing
  rwa [overlaid_emptyStatus] at settles

theorem overlaid_self (kind : Kind) (status : kind.Status) : kind.overlaid status status = status := by
  refine (overlaid_eq_iff kind status status).mpr ?_
  have part {α : Type} (name : String) (value : Option α) : left name value value = [] :=
    left_eq_nil.mpr Option.or_self
  have items {α : Type} (name : String) (values : List α) : leftItems name values values = [] := by
    cases values <;> rfl
  have unscoped (snapshot : Option ProxyHost.Snapshot) : leftUnscoped snapshot snapshot = [] := by
    cases snapshot with
    | none => rfl
    | some value => exact part _ value.unscopedConfig
  cases kind <;> simp only [lingering, part, items, unscoped, List.append_nil]

/-! ## Stored statuses -/

/-- An object of the cluster holds a status: what stands there reads as it, and the status and the snapshot
in it are objects, as the schema has them. -/
def Holds (kind : Kind) (object : Json) (status : kind.Status) : Prop :=
  ∃ members, object.get? "status" = some (.object members) ∧
    kind.statusCodec.decode (.object members) = .ok status ∧
    ∀ items, Json.find members "initialConfiguration" ≠ some (.array items)

/-- The status of an object as readers of the resource take it. -/
def storedStatus (kind : Kind) (object : Json) : Decoded (Option kind.Status) :=
  (Record.optional "status" Resource.status kind.statusCodec).build fun name => object.get? name

theorem Holds.reads {kind : Kind} {object : Json} {status : kind.Status}
    (holds : kind.Holds object status) : kind.storedStatus object = .ok (some status) := by
  rcases holds with ⟨members, there, reads, -⟩
  have found : kind.statusCodec.nullable.decode (.object members) = .ok (some status) :=
    congrArg (fun outcome => some <$> outcome) reads
  exact (Record.build_found there).trans found

open Wire.ClusterApi

/-- A status patch is merged into what stands under the status. -/
theorem get?_patched (kind : Kind) (object : Json) (revision : Option String) (newer : kind.Status) :
    (Json.mergePatch object (statusChanges kind revision newer)).get? "status" =
      some (.object (Json.mergeMembers ((object.get? "status").getD .null).members
        (kind.statusRecord.write newer))) := by
  have below : object.members.lookup "status" = object.get? "status" := by
    cases object <;> rfl
  have encoded : kind.statusCodec.encode newer = .object (kind.statusRecord.write newer) := by
    rw [statusCodec_eq]
    rfl
  have top : ∀ guard, (Json.mergePatch object
      (.object (("status", .object (kind.statusRecord.write newer)) :: guard))).get? "status" =
        (Json.mergeMembers (Json.putMember "status" (.object (Json.mergeMembers
          ((object.get? "status").getD .null).members (kind.statusRecord.write newer)))
            object.members) guard).lookup "status" := by
    intro guard
    rw [← below]
    rfl
  unfold statusChanges
  rw [encoded]
  dsimp only
  rw [top]
  cases revision with
  | none => exact Json.lookup_putMember_self
  | some revision =>
      refine (Json.lookup_putMember_of_ne (by decide)).trans ?_
      exact Json.lookup_putMember_self

variable {kind : Kind} {object : Json} {older : kind.Status}

/-- A patch lays its status over whatever members of a status there are. -/
theorem holds_patched {members : List (String × Json)} (revision : Option String) (newer : kind.Status)
    (there : ((object.get? "status").getD .null).members = members)
    (reads : kind.statusRecord.decode .strict (.object members) = .ok older)
    (noArray : ∀ items, Json.find members "initialConfiguration" ≠ some (.array items)) :
    kind.Holds (Json.mergePatch object (statusChanges kind revision newer))
      (kind.overlaid older newer) := by
  rcases decode_strict_object.mp reads with ⟨accepts, built⟩
  have settles := kind.settles newer noArray built
  refine ⟨_, there ▸ kind.get?_patched object revision newer, ?_, ?_⟩
  · rw [statusCodec_eq]
    exact settles.decode kind.statusRecord_distinct accepts
  · exact Json.find_mergeMembers_ne_array (fun entry inside => (settles.stands entry inside).proper)
      noArray (kind.not_mem_write newer)

theorem Holds.patched (holds : kind.Holds object older) (revision : Option String)
    (newer : kind.Status) :
    kind.Holds (Json.mergePatch object (statusChanges kind revision newer))
      (kind.overlaid older newer) := by
  rcases holds with ⟨members, there, reads, noArray⟩
  rw [statusCodec_eq] at reads
  exact kind.holds_patched revision newer (by rw [there]; rfl) reads noArray

/-- The first patch of all stores its status as it is. -/
theorem holds_first (lacks : object.get? "status" = none) (revision : Option String)
    (newer : kind.Status) :
    kind.Holds (Json.mergePatch object (statusChanges kind revision newer)) newer := by
  have reads : kind.statusRecord.decode .strict (.object []) = .ok kind.emptyStatus :=
    decode_strict_object.mpr ⟨.nil, kind.build_nothing⟩
  have holds := kind.holds_patched revision newer (by rw [lacks]; rfl) reads
    fun _ impossible => nomatch impossible
  rwa [overlaid_emptyStatus] at holds

/-- An object holds the status that was written there. -/
theorem holds_written {status : kind.Status}
    (there : object.get? "status" = some (kind.statusCodec.encode status)) :
    kind.Holds object status := by
  have fresh := kind.settles_fresh status
  have same : Json.mergeMembers [] (kind.statusRecord.write status) = kind.statusRecord.write status :=
    Json.object.inj (fresh.object_stands kind.statusRecord_distinct).same
  have noArray : ∀ items, Json.find (Json.mergeMembers [] (kind.statusRecord.write status))
      "initialConfiguration" ≠ some (.array items) :=
    Json.find_mergeMembers_ne_array (fun entry inside => (fresh.stands entry inside).proper)
      (fun _ impossible => nomatch impossible) (kind.not_mem_write status)
  rw [same] at noArray
  rw [statusCodec_eq] at there
  refine ⟨_, there, ?_, noArray⟩
  rw [statusCodec_eq]
  exact fresh.decode_written kind.statusRecord_distinct

/-- Statuses written one after the other, each for some revision. -/
def patchedAll (kind : Kind) (object : Json) (writes : List (Option String × kind.Status)) : Json :=
  writes.foldl (fun object write => Json.mergePatch object (statusChanges kind write.1 write.2)) object

/-- After many patches a status is stored in which each part is the last that was not empty. -/
theorem Holds.patchedAll (holds : kind.Holds object older)
    (writes : List (Option String × kind.Status)) :
    kind.Holds (kind.patchedAll object writes) ((writes.map (·.2)).foldl kind.overlaid older) := by
  induction writes generalizing object older with
  | nil => exact holds
  | cons write rest induction => exact induction (holds.patched write.1 write.2)

/-- After a status patch the stored status reads as the one that was written just where the older status has
nothing that the newer one leaves out. -/
theorem status_patch_stores_iff (holds : kind.Holds object older) (revision : Option String)
    (newer : kind.Status) :
    kind.storedStatus (Json.mergePatch object (statusChanges kind revision newer)) =
        .ok (some newer) ↔
      kind.lingering older newer = [] := by
  rw [(holds.patched revision newer).reads, ← overlaid_eq_iff]
  constructor
  · exact fun same => Option.some.inj (Except.ok.inj same)
  · exact fun same => congrArg (fun status => Except.ok (some status)) same

/-- A host whose certificate is replaced by another one. -/
theorem status_patch_stores_iff_replaced :
    let empty : ProxyHost.Status := default
    let older : ProxyHost.Status := { empty with id := some 7, certificateId := some 9 }
    let newer : ProxyHost.Status := { empty with id := some 7, certificateId := some 12 }
    let object := Json.object [("status", ProxyHost.Status.codec.encode older)]
    Kind.proxyHost.Holds object older ∧
      Kind.proxyHost.storedStatus (Json.mergePatch object (statusChanges .proxyHost none newer)) =
        .ok (some newer) := by
  intro empty older newer object
  have holds : Kind.proxyHost.Holds object older := holds_written rfl
  exact ⟨holds, (status_patch_stores_iff holds none newer).mpr rfl⟩

/-- A host that has no certificate any more: the stored status still reads as having the old one. -/
theorem status_patch_keeps_certificate :
    let empty : ProxyHost.Status := default
    let older : ProxyHost.Status := { empty with id := some 7, certificateId := some 9 }
    let newer : ProxyHost.Status := { empty with id := some 7 }
    let object := Json.object [("status", ProxyHost.Status.codec.encode older)]
    Kind.proxyHost.Holds object older ∧
      Kind.proxyHost.storedStatus (Json.mergePatch object (statusChanges .proxyHost none newer)) =
        .ok (some older) ∧
      older ≠ newer := by
  intro empty older newer object
  have holds : Kind.proxyHost.Holds object older := holds_written rfl
  exact ⟨holds, (holds.patched none newer).reads, by decide⟩

end Kind

end ProxyOperator
