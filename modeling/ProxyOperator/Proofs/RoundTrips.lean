import ProxyOperator.Proofs.StatusPatches
import ProxyOperator.Resource.Basic
/-!
What is kept in the cluster comes back as it was written. A part that is not written when it is empty reads as
empty, a part with a default is always written, and each part of a record is read under the name it was
written under; so a record is read back as soon as its parts are.
-/
namespace ProxyOperator

namespace Codec

variable {α : Type}

/-- A codec whose values are read back, and of which nothing is lost where they are put in a place that was
empty. -/
structure Sound (codec : Codec α) : Prop where
  stands : ∀ value, (codec.encode value).Stands
  faithful : ∀ value, codec.decode (codec.encode value) = .ok value

theorem Plain.sound {codec : Codec α} (plain : codec.Plain) : codec.Sound :=
  ⟨fun value => ⟨plain.proper value, plain.whole .null value⟩, plain.faithful⟩

theorem Sound.list {codec : Codec α} (sound : codec.Sound) : codec.list.Sound :=
  (list_plain sound.faithful).sound

theorem choice_sound {names : List (String × α)} {nameOf : α → String}
    (listed : ∀ value, names.lookup (nameOf value) = some value) : (choice names nameOf).Sound where
  stands _ := ⟨Json.noConfusion, rfl⟩
  faithful value := by
    unfold choice
    dsimp only
    rw [listed]

end Codec

namespace Record

variable {σ α : Type} {name : String} {value : σ} {codec : Codec α} {found : String → Option Json}

theorem sound {record : Record σ σ} (distinct : (record.members.map (·.1)).Nodup)
    (fresh : ∀ value, record.Settles value (Json.find []) value) : (record.codec .strict).Sound where
  stands value := (fresh value).object_stands distinct
  faithful value := (fresh value).decode_written distinct

namespace Settles

/-! Members that were not there before, of any sound codec. -/

theorem ofSound {write : σ → Option Json} {absent : Decoded α} {part : α} (sound : codec.Sound)
    (missing : found name = none) (writes : write value = some (codec.encode part)) :
    (member name write codec.decode absent).Settles value found part := by
  apply written writes (sound.stands part)
  have same : Json.mergePatch ((found name).getD .null) (codec.encode part) = codec.encode part := by
    rw [missing]
    exact (sound.stands part).same
  rw [same, sound.faithful]

theorem required_fresh {view : σ → α} (sound : codec.Sound) (missing : found name = none) :
    (Record.required name view codec).Settles value found (view value) :=
  ofSound sound missing rfl

theorem defaulted_fresh {view : σ → α} {default : α} (sound : codec.Sound)
    (missing : found name = none) :
    (Record.defaulted name view codec default).Settles value found (view value) :=
  ofSound sound missing rfl

theorem part_fresh {view : σ → Option α} (sound : codec.Sound) (missing : found name = none) :
    (Record.optional name view codec).Settles value found (view value) := by
  cases held : view value with
  | none => exact kept (by simp [held]) (build_missing missing)
  | some part =>
      apply written (by rw [held]; rfl) (sound.stands part)
      have same : Json.mergePatch ((found name).getD .null) (codec.encode part) =
          codec.encode part := by
        rw [missing]
        exact (sound.stands part).same
      rw [same, Codec.nullable_decode (sound.stands part).proper, sound.faithful]
      rfl

/-- An empty list is not written, and absence reads as the empty list. -/
theorem listed_fresh {view : σ → List α} (sound : codec.Sound) (missing : found name = none) :
    (Record.listed name view codec).Settles value found (view value) := by
  have reads : (Record.listed name view codec).build found = .ok [] := build_missing missing
  have settles : (Record.listed name view codec).Settles value found (listOver [] (view value)) :=
    listed (Codec.list_plain sound.faithful) reads
  have same : listOver [] (view value) = view value := by
    unfold listOver
    cases view value <;> rfl
  rwa [same] at settles

end Settles

end Record

open Record

/-! ## The parts of declarations -/

theorem ResourceRef.codec_sound : ResourceRef.codec.Sound :=
  Record.sound (by decide) fun _ =>
    .seq (.map (.required Codec.string_plain))
      (.optional_fresh Codec.string_plain rfl)

theorem SecretKeyRef.codec_sound : SecretKeyRef.codec.Sound :=
  Record.sound (by decide) fun _ =>
    .seq (.map (.required Codec.string_plain))
      (.required Codec.string_plain)

theorem Scheme.codec_sound : Scheme.codec.Sound :=
  Codec.choice_sound fun scheme => by cases scheme <;> rfl

theorem Backend.codec_sound : Backend.codec.Sound :=
  Record.sound (by decide) fun _ =>
    .seq (.map (.required Codec.string_plain))
      (.required Codec.uint16_plain)

theorem ServiceRef.codec_sound : ServiceRef.codec.Sound :=
  Record.sound (by decide) fun _ =>
    .seq (.seq (.map (.required Codec.string_plain))
      (.optional_fresh Codec.string_plain rfl))
      (.optional_fresh Codec.uint16_plain rfl)

theorem Forward.codec_sound : Forward.codec.Sound :=
  Record.sound (by decide) fun _ =>
    .seq (.seq (.seq (.map (.defaulted_fresh Scheme.codec_sound rfl))
      (.part_fresh Backend.codec_sound.list rfl))
      (.part_fresh ServiceRef.codec_sound rfl))
      (.optional_fresh Codec.string_plain rfl)

namespace ProxyHost

theorem Ssl.codec_sound : Ssl.codec.Sound :=
  Record.sound (by decide) fun _ =>
    .seq (.seq (.seq (.seq (.seq (.seq (.seq (.seq
      (.map (.optional_fresh Codec.uint32_plain rfl))
      (.part_fresh ResourceRef.codec_sound rfl))
      (.part_fresh ResourceRef.codec_sound rfl))
      (.defaulted Codec.bool_plain))
      (.optional_fresh Codec.string_plain rfl))
      (.defaulted Codec.bool_plain))
      (.defaulted Codec.bool_plain))
      (.defaulted Codec.bool_plain))
      (.defaulted Codec.bool_plain)

theorem AccessRef.codec_sound : AccessRef.codec.Sound :=
  Record.sound (by decide) fun _ =>
    .seq (.seq (.map (.optional_fresh Codec.uint32_plain rfl))
      (.optional_fresh Codec.string_plain rfl))
      (.optional_fresh Codec.string_plain rfl)

theorem Location.codec_sound : Location.codec.Sound :=
  Record.sound (by decide) fun _ =>
    .seq (.map (.required Codec.string_plain))
      (.required_fresh Forward.codec_sound rfl)

end ProxyHost

theorem Token.SecretRef.codec_sound : Token.SecretRef.codec.Sound :=
  Record.sound (by decide) fun _ =>
    .seq (.seq (.map (.required Codec.string_plain))
      (.defaulted Codec.string_plain))
      (.defaulted Codec.string_plain)

theorem LetsEncryptCertificate.DnsChallenge.codec_sound :
    LetsEncryptCertificate.DnsChallenge.codec.Sound :=
  Record.sound (by decide) fun _ =>
    .seq (.seq (.map (.required Codec.string_plain))
      (.required Codec.string_plain))
      (.optional_fresh Codec.uint32_plain rfl)

namespace AccessList

theorem Directive.codec_sound : Directive.codec.Sound :=
  Codec.choice_sound fun directive => by cases directive <;> rfl

theorem Authorization.codec_sound : Authorization.codec.Sound :=
  Record.sound (by decide) fun _ =>
    .seq (.map (.required Codec.string_plain))
      (.required_fresh SecretKeyRef.codec_sound rfl)

theorem Client.codec_sound : Client.codec.Sound :=
  Record.sound (by decide) fun _ =>
    .seq (.map (.required Codec.string_plain))
      (.defaulted_fresh Directive.codec_sound rfl)

end AccessList

namespace Kind

theorem specCodec_sound (kind : Kind) : kind.specCodec.Sound := by
  have domains : Codec.string.list.Plain := Codec.list_plain Codec.string_decode_encode
  have token := ResourceRef.codec_sound
  cases kind with
  | proxyHost =>
      exact Record.sound (by decide) fun _ =>
        .seq (.seq (.seq (.seq (.seq (.seq (.seq (.seq (.seq (.seq
          (.map (.required domains))
          (.required_fresh Forward.codec_sound rfl))
          (.part_fresh ProxyHost.Ssl.codec_sound rfl))
          (.part_fresh ProxyHost.AccessRef.codec_sound rfl))
          (.defaulted Codec.bool_plain))
          (.defaulted Codec.bool_plain))
          (.defaulted Codec.bool_plain))
          (.listed_fresh ProxyHost.Location.codec_sound rfl))
          (.optional_fresh Codec.string_plain rfl))
          (.defaulted Codec.bool_plain))
          (.part_fresh token rfl)
  | stream =>
      exact Record.sound (by decide) fun _ =>
        .seq (.seq (.seq (.seq (.seq (.map (.required Codec.uint16_plain))
          (.required_fresh Forward.codec_sound rfl))
          (.defaulted Codec.bool_plain))
          (.defaulted Codec.bool_plain))
          (.defaulted Codec.bool_plain))
          (.part_fresh token rfl)
  | token =>
      exact Record.sound (by decide) fun _ =>
        .seq (.map (.required Codec.string_plain))
          (.required_fresh Token.SecretRef.codec_sound rfl)
  | letsEncryptCertificate =>
      exact Record.sound (by decide) fun _ =>
        .seq (.seq (.seq (.map (.required domains))
          (.optional_fresh Codec.string_plain rfl))
          (.part_fresh LetsEncryptCertificate.DnsChallenge.codec_sound rfl))
          (.part_fresh token rfl)
  | customCertificate =>
      exact Record.sound (by decide) fun _ =>
        .seq (.seq (.map (.optional_fresh Codec.string_plain rfl))
          (.required Codec.string_plain))
          (.part_fresh token rfl)
  | accessList =>
      exact Record.sound (by decide) fun _ =>
        .seq (.seq (.seq (.seq (.map (.defaulted Codec.bool_plain))
          (.defaulted Codec.bool_plain))
          (.listed_fresh AccessList.Authorization.codec_sound rfl))
          (.listed_fresh AccessList.Client.codec_sound rfl))
          (.part_fresh token rfl)

theorem statusCodec_sound (kind : Kind) : kind.statusCodec.Sound := by
  rw [statusCodec_eq]
  exact Record.sound kind.statusRecord_distinct kind.settles_fresh

end Kind

/-! ## All that is kept -/

/-- The types of the values that are kept in the cluster: declarations and statuses, and what stands in
them. -/
inductive Persisted where
  | spec (kind : Kind)
  | status (kind : Kind)
  | condition
  | conditionStatus
  | resourceRef
  | secretKeyRef
  | scheme
  | backend
  | serviceRef
  | forward
  | hostSsl
  | hostAccess
  | hostLocation
  | locationSnapshot
  | hostSnapshot
  | streamSnapshot
  | tokenSecret
  | dnsChallenge
  | authorization
  | client
  | directive
  | instant
  deriving DecidableEq, Repr

namespace Persisted

@[reducible] def Value : Persisted → Type
  | .spec kind => kind.Spec
  | .status kind => kind.Status
  | .condition => Condition
  | .conditionStatus => ConditionStatus
  | .resourceRef => ResourceRef
  | .secretKeyRef => SecretKeyRef
  | .scheme => Scheme
  | .backend => Backend
  | .serviceRef => ServiceRef
  | .forward => Forward
  | .hostSsl => ProxyHost.Ssl
  | .hostAccess => ProxyHost.AccessRef
  | .hostLocation => ProxyHost.Location
  | .locationSnapshot => ProxyHost.LocationSnapshot
  | .hostSnapshot => ProxyHost.Snapshot
  | .streamSnapshot => Stream.Snapshot
  | .tokenSecret => Token.SecretRef
  | .dnsChallenge => LetsEncryptCertificate.DnsChallenge
  | .authorization => AccessList.Authorization
  | .client => AccessList.Client
  | .directive => AccessList.Directive
  | .instant => Instant

def codec : (type : Persisted) → Codec type.Value
  | .spec kind => kind.specCodec
  | .status kind => kind.statusCodec
  | .condition => Condition.codec
  | .conditionStatus => ConditionStatus.codec
  | .resourceRef => ResourceRef.codec
  | .secretKeyRef => SecretKeyRef.codec
  | .scheme => Scheme.codec
  | .backend => Backend.codec
  | .serviceRef => ServiceRef.codec
  | .forward => Forward.codec
  | .hostSsl => ProxyHost.Ssl.codec
  | .hostAccess => ProxyHost.AccessRef.codec
  | .hostLocation => ProxyHost.Location.codec
  | .locationSnapshot => ProxyHost.LocationSnapshot.codec
  | .hostSnapshot => ProxyHost.Snapshot.codec
  | .streamSnapshot => Stream.Snapshot.codec
  | .tokenSecret => Token.SecretRef.codec
  | .dnsChallenge => LetsEncryptCertificate.DnsChallenge.codec
  | .authorization => AccessList.Authorization.codec
  | .client => AccessList.Client.codec
  | .directive => AccessList.Directive.codec
  | .instant => Codec.instant

/-- Whatever is kept in the cluster is read back as it was written. -/
theorem survives (type : Persisted) (value : type.Value) :
    type.codec.decode (type.codec.encode value) = .ok value := by
  cases type with
  | spec kind => exact kind.specCodec_sound.faithful value
  | status kind => exact kind.statusCodec_sound.faithful value
  | condition => exact Condition.decode_encode value
  | conditionStatus => exact ConditionStatus.codec_plain.faithful value
  | resourceRef => exact ResourceRef.codec_sound.faithful value
  | secretKeyRef => exact SecretKeyRef.codec_sound.faithful value
  | scheme => exact Scheme.codec_sound.faithful value
  | backend => exact Backend.codec_sound.faithful value
  | serviceRef => exact ServiceRef.codec_sound.faithful value
  | forward => exact Forward.codec_sound.faithful value
  | hostSsl => exact ProxyHost.Ssl.codec_sound.faithful value
  | hostAccess => exact ProxyHost.AccessRef.codec_sound.faithful value
  | hostLocation => exact ProxyHost.Location.codec_sound.faithful value
  | locationSnapshot => exact ProxyHost.LocationSnapshot.decode_encode value
  | hostSnapshot => exact ProxyHost.Snapshot.blends.faithful value
  | streamSnapshot => exact Stream.Snapshot.blends.faithful value
  | tokenSecret => exact Token.SecretRef.codec_sound.faithful value
  | dnsChallenge => exact LetsEncryptCertificate.DnsChallenge.codec_sound.faithful value
  | authorization => exact AccessList.Authorization.codec_sound.faithful value
  | client => exact AccessList.Client.codec_sound.faithful value
  | directive => exact AccessList.Directive.codec_sound.faithful value
  | instant => exact Codec.instant_decode_encode value

/-- A stream without either protocol: the one that is on by default comes back switched off. -/
example :
    let spec : Stream.Spec := { (default : Stream.Spec) with tcp := false, udp := false }
    Stream.Spec.codec.decode (Stream.Spec.codec.encode spec) = .ok spec := by
  decide

end Persisted

end ProxyOperator
