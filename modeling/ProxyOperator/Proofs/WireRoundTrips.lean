import ProxyOperator.Proofs.JsonTexts
import ProxyOperator.Proofs.RoundTrips
import ProxyOperator.Proofs.StreamRestoration
import ProxyOperator.Remote.Certificate
/-!
What the remote server is sent, and what it reports of an object that was made of that. A body and a report are
records of their own, with rules of their own for ids, flags and members that are left out; a report that has all
that a body has, and an id, is read as the object that the body describes.
-/
namespace ProxyOperator

/-! ## Members in any order -/

namespace Json

variable {members others : List (String × Json)} {name : String} {value : Json}

theorem find_eq_some_iff (distinct : (members.map (·.1)).Nodup) :
    find members name = some value ↔ (name, value) ∈ members := by
  rw [← lookup_eq_find (List.nodup_iff_count.mp distinct name)]
  constructor
  · intro found
    rcases List.lookup_eq_some_iff.mp found with ⟨before, after, split, _⟩
    exact split ▸ List.mem_append_right _ (.head _)
  · exact lookup_of_mem distinct

theorem find_perm (distinct : (members.map (·.1)).Nodup) (perm : others.Perm members) :
    find others = find members := by
  funext name
  apply Option.ext
  intro value
  have distinctToo : (others.map (·.1)).Nodup := (perm.map _).nodup_iff.mpr distinct
  rw [find_eq_some_iff distinct, find_eq_some_iff distinctToo, perm.mem_iff]

end Json

namespace Record

variable {σ α : Type} {record : Record σ α} {members others : List (String × Json)} {value : α}

/-- A reader that knows all members that there are reads them in any order. -/
theorem decode_perm (distinct : (members.map (·.1)).Nodup)
    (fine : ∀ entry ∈ members, ∃ check, record.members.lookup entry.1 = some check ∧
      check entry.2 = .ok ())
    (built : record.build (Json.find members) = .ok value) (perm : others.Perm members) :
    record.decode .strict (.object others) = .ok value := by
  have distinctToo : (others.map (·.1)).Nodup := (perm.map _).nodup_iff.mpr distinct
  have accepts : Accepts record.members (Json.cover [] others) :=
    Accepts.nil.cover fun entry inside => fine entry (perm.mem_iff.mp inside)
  rw [Json.cover_eq_append (by simpa using distinctToo), List.nil_append] at accepts
  exact decode_strict_object.mpr ⟨accepts, Json.find_perm distinct perm ▸ built⟩

end Record

/-! ## Printed codecs -/

theorem Json.Fits.more {room more : Nat} {json : Json} (fits : json.Fits room) (wider : room ≤ more) :
    json.Fits more := by
  induction fits generalizing more with
  | null => exact .null
  | bool flag => exact .bool flag
  | whole low high => exact .whole low high
  | string text => exact .string text
  | array each induction =>
      rcases Nat.exists_eq_add_of_lt wider with ⟨_, rfl⟩
      exact .array fun item inside => induction item inside (by omega)
  | object each induction =>
      rcases Nat.exists_eq_add_of_lt wider with ⟨_, rfl⟩
      exact .object fun entry inside => induction entry inside (by omega)

namespace Codec

variable {α : Type}

/-- A codec whose values are written in full. -/
def Fits (room : Nat) (codec : Codec α) : Prop := ∀ value, (codec.encode value).Fits room

variable {room : Nat}

theorem string_fits : string.Fits room := fun text => .string text

theorem bool_fits : bool.Fits room := fun flag => .bool flag

theorem wholeWithin_fits {low high : Int} {toInt : α → Int} {ofInt : Int → α}
    (within : ∀ value, 0 ≤ toInt value ∧ toInt value < 4294967296) :
    (wholeWithin low high toInt ofInt).Fits room := by
  intro value
  have bounds := within value
  exact .whole (by omega) (by omega)

theorem uint16_fits : uint16.Fits room := by
  refine wholeWithin_fits fun value => ?_
  have bound := value.toNat_lt
  omega

theorem uint32_fits : uint32.Fits room := by
  refine wholeWithin_fits fun value => ?_
  have bound := value.toNat_lt
  omega

theorem idOrZero_fits : idOrZero.Fits room := fun id => uint32_fits (id.getD 0)

theorem list_fits {item : Codec α} (fits : item.Fits room) : item.list.Fits (room + 1) := by
  intro values
  refine .array fun item inside => ?_
  rcases List.mem_map.mp inside with ⟨value, _, rfl⟩
  exact fits value

end Codec

namespace Record

variable {σ α β : Type} {room : Nat}

/-- A record whose members are written in full. -/
def Fits (room : Nat) (record : Record σ α) : Prop :=
  ∀ value, ∀ entry ∈ record.write value, entry.2.Fits room

theorem codec_fits {record : Record σ σ} (fits : record.Fits room) :
    (record.codec .strict).Fits (room + 1) :=
  fun value => .object (fits value)

namespace Fits

theorem map {record : Record σ β} {function : β → α} (fits : record.Fits room) :
    (function <$> record).Fits room := fits

theorem seq {first : Record σ (β → α)} {second : Record σ β} (one : first.Fits room)
    (two : second.Fits room) : (first <*> second).Fits room := by
  intro value entry inside
  rcases List.mem_append.mp inside with early | late
  · exact one value entry early
  · exact two value entry late

theorem member {name : String} {write : σ → Option Json} {read : Json → Decoded α}
    {absent : Decoded α} (fits : ∀ value written, write value = some written → written.Fits room) :
    (Record.member name write read absent).Fits room := by
  intro value entry inside
  rcases Option.mem_toList.mp inside with known
  rcases Option.map_eq_some_iff.mp known with ⟨written, writes, rfl⟩
  exact fits value written writes

variable {name : String} {codec : Codec α}

theorem required {view : σ → α} (fits : codec.Fits room) :
    (Record.required name view codec).Fits room :=
  member fun _ _ writes => Option.some.inj writes ▸ fits _

theorem defaulted {view : σ → α} {default : α} (fits : codec.Fits room) :
    (Record.defaulted name view codec default).Fits room :=
  member fun _ _ writes => Option.some.inj writes ▸ fits _

theorem optional {view : σ → Option α} (fits : codec.Fits room) :
    (Record.optional name view codec).Fits room := by
  refine member fun value written writes => ?_
  rcases Option.map_eq_some_iff.mp writes with ⟨part, _, rfl⟩
  exact fits part

end Fits

end Record

/-! ## Bodies -/

namespace Codec

theorem looseFlag_sound : looseFlag.Sound := ⟨bool_plain.sound.stands, fun _ => rfl⟩

end Codec

namespace Remote

open Record

theorem Terms.codec_sound : Terms.codec.Sound :=
  Record.sound (by decide) fun _ =>
    .seq (.seq (.seq (.seq (.seq (.map (.optional_fresh Codec.string_plain rfl))
      (.defaulted_fresh Codec.looseFlag_sound rfl))
      (.defaulted_fresh Codec.looseFlag_sound rfl))
      (.optional_fresh Codec.string_plain rfl))
      (.optional_fresh Codec.string_plain rfl))
      (.optional_fresh Codec.uint32_plain rfl)

theorem Terms.codec_fits {room : Nat} : Terms.codec.Fits (room + 1) :=
  Record.codec_fits <|
    .seq (.seq (.seq (.seq (.seq (.map (.optional Codec.string_fits))
      (.defaulted Codec.bool_fits))
      (.defaulted Codec.bool_fits))
      (.optional Codec.string_fits))
      (.optional Codec.string_fits))
      (.optional Codec.uint32_fits)

theorem Location.codec_fits {room : Nat} : Location.codec.Fits (room + 1) :=
  Record.codec_fits <|
    .seq (.seq (.seq (.seq (.map (.required Codec.string_fits))
      (.required Codec.string_fits))
      (.required Codec.string_fits))
      (.required Codec.uint16_fits))
      (.defaulted Codec.string_fits)

theorem Host.Payload.record_fits {room : Nat} : Host.Payload.record.Fits (room + 2) :=
  .seq (.seq (.seq (.seq (.seq (.seq (.seq (.seq (.seq (.seq (.seq (.seq (.seq (.seq (.seq
    (.map (.defaulted (Codec.list_fits Codec.string_fits)))
    (.defaulted Codec.string_fits))
    (.defaulted Codec.string_fits))
    (.defaulted Codec.uint16_fits))
    (.defaulted Codec.idOrZero_fits))
    (.defaulted Codec.idOrZero_fits))
    (.defaulted Codec.bool_fits))
    (.defaulted Codec.bool_fits))
    (.defaulted Codec.bool_fits))
    (.defaulted Codec.bool_fits))
    (.defaulted Codec.bool_fits))
    (.defaulted Codec.bool_fits))
    (.defaulted Codec.bool_fits))
    (.defaulted Codec.string_fits))
    (.defaulted (Codec.list_fits Location.codec_fits)))
    (.optional Codec.string_fits)

theorem Stream.Payload.record_fits {room : Nat} : Stream.Payload.record.Fits room :=
  .seq (.seq (.seq (.seq (.map (.defaulted Codec.uint16_fits))
    (.defaulted Codec.string_fits))
    (.defaulted Codec.uint16_fits))
    (.defaulted Codec.bool_fits))
    (.defaulted Codec.bool_fits)

theorem Certificate.Payload.record_fits {room : Nat} : Certificate.Payload.record.Fits (room + 1) := by
  have name : (Record.member "nice_name"
      (fun payload : Payload =>
        if payload.niceName.isEmpty then none else some (.string payload.niceName))
      Codec.string.decode (.ok "")).Fits (room + 1) := by
    refine .member fun payload written writes => ?_
    split at writes
    · cases writes
    · exact Option.some.inj writes ▸ .string _
  exact .seq (.seq (.seq (.map (.defaulted Codec.string_fits)) name)
    (.defaulted (Codec.list_fits Codec.string_fits)))
    (.defaulted Terms.codec_fits)

/-! ## Reports of what was sent -/

/-- A report of an object: the members that were sent to have it made, and its id, in any order. -/
def Reports (id : UInt32) (sent : Json) (report : Json) : Prop :=
  ∃ members, report = .object members ∧
    members.Perm (("id", Codec.uint32.encode id) :: sent.members)

section

variable {α : Type} {record : Record α α} {id : UInt32} {sent : List (String × Json)} {report : Json}
  {object : α}

/-- A report that is printed is read, if its reader knows all that was sent, and an id. -/
theorem Reports.ofText (reports : Reports id (.object sent) report)
    (distinct : ("id" :: sent.map (·.1)).Nodup)
    (known : ∃ check, record.members.lookup "id" = some check ∧
      check (Codec.uint32.encode id) = .ok ())
    (fine : ∀ entry ∈ sent, ∃ check, record.members.lookup entry.1 = some check ∧
      check entry.2 = .ok ())
    (fits : ∀ entry ∈ sent, entry.2.Fits 2)
    (built : record.build (Json.find (("id", Codec.uint32.encode id) :: sent)) = .ok object) :
    (record.codec .strict).ofText report.render = .ok object := by
  rcases reports with ⟨members, rfl, perm⟩
  have allFine : ∀ entry ∈ ("id", Codec.uint32.encode id) :: sent, ∃ check,
      record.members.lookup entry.1 = some check ∧ check entry.2 = .ok () :=
    List.forall_mem_cons.mpr ⟨known, fine⟩
  have allFit : ∀ entry ∈ members, entry.2.Fits 2 := by
    intro entry inside
    rcases List.mem_cons.mp (perm.mem_iff.mp inside) with rfl | member
    · exact Codec.uint32_fits id
    · exact fits entry member
  have shallow : (Json.object members).Fits Json.Builder.depthLimit :=
    (Json.Fits.object allFit).more (by decide)
  rw [Codec.ofText_render _ shallow]
  have allDistinct : ((("id", Codec.uint32.encode id) :: sent).map (·.1)).Nodup := distinct
  exact decode_perm allDistinct allFine built perm

end

/-- The host that is made of a body. It is not reported to accept upstream blocks unless the body has some. -/
def Host.made (id : UInt32) (payload : Host.Payload) : Host where
  id := id
  domains := payload.domains
  scheme := payload.scheme
  host := payload.host
  port := payload.port
  accessListId := payload.accessListId.filter (· ≠ 0)
  certificateId := payload.certificateId.filter (· ≠ 0)
  sslForced := payload.sslForced
  caching := payload.caching
  blockExploits := payload.blockExploits
  websockets := payload.websockets
  http2 := payload.http2
  hsts := payload.hsts
  hstsSubdomains := payload.hstsSubdomains
  advancedConfig := payload.advancedConfig
  enabled := false
  locations := some payload.locations
  unscopedConfig := payload.unscopedConfig.map some
  health := default

def Stream.made (id : UInt32) (payload : Stream.Payload) : Stream where
  id := id
  incomingPort := payload.incomingPort
  host := payload.host
  port := payload.port
  tcp := payload.tcp
  udp := payload.udp
  enabled := false
  health := default

def Certificate.made (id : UInt32) (payload : Certificate.Payload) : Certificate where
  id := id
  provider := payload.provider
  niceName := payload.niceName
  domains := payload.domains
  expiresOn := none
  terms := payload.terms

theorem idOf_getD_eq_filter (id : Option UInt32) : ProxyHost.Snapshot.idOf (id.getD 0) = id.filter (· ≠ 0) := by
  cases id with
  | none => rfl
  | some id => by_cases zero : id = 0 <;> simp [ProxyHost.Snapshot.idOf, Option.filter, zero]

theorem knows_id {id : UInt32} :
    (fun _ => ()) <$> Codec.uint32.decode (Codec.uint32.encode id) = .ok () := by
  rw [Codec.uint32_plain.faithful]
  rfl

theorem Host.reported {id : UInt32} {payload : Host.Payload} {report : Json}
    (reports : Reports id (Host.Payload.codec.encode payload) report) :
    Host.codec.ofText report.render = .ok (Host.made id payload) := by
  have distinct := Host.Payload.names_distinct payload
  refine reports.ofText (List.nodup_cons.mpr ⟨?_, distinct⟩) ⟨_, rfl, knows_id⟩ payload.accepted
    (Host.Payload.record_fits payload) ?_
  · rw [Host.Payload.write_eq]
    cases payload.unscopedConfig <;> simp
  · rw [← builds_eq]
    simp only [Host.record, builds_seq, builds_map]
    cases unscoped : payload.unscopedConfig <;>
      simp [Builds, required, defaulted, member, Json.find, Host.Payload.write_eq, List.lookup_cons,
        Codec.uint32_plain.faithful, Host.made, unscoped, idOf_getD_eq_filter]

theorem Stream.reported {id : UInt32} {payload : Stream.Payload} {report : Json}
    (reports : Reports id (Stream.Payload.codec.encode payload) report) :
    Stream.codec.ofText report.render = .ok (Stream.made id payload) := by
  have distinct := Stream.Payload.names_distinct payload
  refine reports.ofText (List.nodup_cons.mpr ⟨?_, distinct⟩) ⟨_, rfl, knows_id⟩ payload.accepted
    (Stream.Payload.record_fits payload) ?_
  · simp [Stream.Payload.write_eq]
  · rw [← builds_eq]
    simp only [Stream.record, builds_seq, builds_map]
    simp [Builds, required, defaulted, member, Json.find, Stream.Payload.write_eq, List.lookup_cons,
      Codec.uint32_plain.faithful, Stream.made]

theorem Certificate.Payload.write_eq (payload : Certificate.Payload) :
    Certificate.Payload.record.write payload =
      ("provider", Codec.string.encode payload.provider) ::
        ((if payload.niceName = "" then [] else [("nice_name", Codec.string.encode payload.niceName)]) ++
          [("domain_names", Codec.string.list.encode payload.domains),
            ("meta", Terms.codec.encode payload.terms)]) := by
  simp only [Certificate.Payload.record, write_map, write_seq, write_defaulted, member,
    String.isEmpty_iff]
  split <;> rfl

theorem Certificate.Payload.names_distinct (payload : Certificate.Payload) :
    ((Certificate.Payload.record.write payload).map (·.1)).Nodup := by
  rw [Certificate.Payload.write_eq]
  split <;> simp

/-- Certificates have all members of bodies, and accept what is written there. -/
theorem Certificate.Payload.accepted (payload : Certificate.Payload) :
    ∀ entry ∈ Certificate.Payload.record.write payload, ∃ check,
      Certificate.record.members.lookup entry.1 = some check ∧ check entry.2 = .ok () := by
  rw [Certificate.Payload.write_eq]
  simp only [Certificate.record, required, defaulted, members_map, members_seq, members_member]
  split <;> simp [List.lookup_cons, Terms.codec_sound.faithful]

theorem Certificate.reported {id : UInt32} {payload : Certificate.Payload} {report : Json}
    (reports : Reports id (Certificate.Payload.codec.encode payload) report) :
    Certificate.codec.ofText report.render = .ok (Certificate.made id payload) := by
  have distinct := Certificate.Payload.names_distinct payload
  refine reports.ofText (List.nodup_cons.mpr ⟨?_, distinct⟩) ⟨_, rfl, knows_id⟩ payload.accepted
    (Certificate.Payload.record_fits payload) ?_
  · rw [Certificate.Payload.write_eq]
    split <;> simp
  · rw [← builds_eq]
    simp only [Certificate.record, builds_seq, builds_map]
    by_cases empty : payload.niceName = "" <;>
      simp [Builds, required, defaulted, member, Json.find, Certificate.Payload.write_eq,
        List.lookup_cons, Codec.uint32_plain.faithful, Terms.codec_sound.faithful, Certificate.made,
        empty]

/-- What the server is sent comes back in what it reports, printed and with the members in any order: an id that
is zero or missing as none, and all else as it was. A host shows that the server accepts upstream blocks just if
it was sent with some. -/
theorem sent_is_reported (id : UInt32) (report : Json) :
    (∀ payload, Reports id (Host.Payload.codec.encode payload) report →
      Host.codec.ofText report.render = .ok (Host.made id payload) ∧
        (Host.made id payload).showsUnscopedConfig = payload.unscopedConfig.isSome) ∧
    (∀ payload, Reports id (Stream.Payload.codec.encode payload) report →
      Stream.codec.ofText report.render = .ok (Stream.made id payload)) ∧
    (∀ payload, Reports id (Certificate.Payload.codec.encode payload) report →
      Certificate.codec.ofText report.render = .ok (Certificate.made id payload)) := by
  refine ⟨fun payload reports => ⟨Host.reported reports, ?_⟩, fun _ => Stream.reported,
    fun _ => Certificate.reported⟩
  exact Option.isSome_map

/-- A body with a quote in a text, an id of zero, and an upstream block; the id is reported last. -/
theorem sent_is_reported_pooled :
    let payload : Host.Payload :=
      { (default : Host.Payload) with
        domains := ["a.example.com"]
        port := 8080
        accessListId := some 0
        certificateId := some 3
        advancedConfig := "add_header X \"1\";\n"
        locations := [⟨"/api", "http", "10.0.0.2", 81, ""⟩]
        unscopedConfig := some "upstream web" }
    let report : Json := .object (Host.Payload.record.write payload ++ [("id", Codec.uint32.encode 7)])
    Reports 7 (Host.Payload.codec.encode payload) report ∧
      Host.codec.ofText report.render = .ok
        { (default : Host) with
          id := 7
          domains := ["a.example.com"]
          port := 8080
          accessListId := none
          certificateId := some 3
          advancedConfig := "add_header X \"1\";\n"
          locations := some [⟨"/api", "http", "10.0.0.2", 81, ""⟩]
          unscopedConfig := some (some "upstream web") } := by
  intro payload report
  have reports : Reports 7 (Host.Payload.codec.encode payload) report :=
    ⟨_, rfl, List.perm_append_singleton _ _⟩
  exact ⟨reports, ((sent_is_reported 7 report).1 payload reports).1⟩

end Remote

end ProxyOperator
