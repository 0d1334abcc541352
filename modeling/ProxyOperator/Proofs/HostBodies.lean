import ProxyOperator.Proofs.Records
import ProxyOperator.Adoption
/-!
What becomes of a proxy host on the remote server when a body is written over it. The server keeps the
members that the body does not have; what it then reports is the old host with the values of the body.
-/
namespace ProxyOperator

namespace Codec

/-! ## Reading what was written -/

@[simp] theorem string_decode_encode (value : String) :
    string.decode (string.encode value) = .ok value := rfl

@[simp] theorem looseFlag_decode_bool (flag : Bool) :
    looseFlag.decode (bool.encode flag) = .ok flag := rfl

@[simp] theorem uint16_decode_encode (value : UInt16) :
    uint16.decode (uint16.encode value) = .ok value := by
  have bound : (value.toNat : Int) ≤ 65535 := by
    have := value.toNat_lt
    omega
  unfold uint16 wholeWithin Json.whole
  dsimp only
  rw [if_pos ⟨Int.natCast_nonneg _, bound⟩, Int.toNat_natCast, UInt16.ofNat_toNat]

@[simp] theorem looseId_decode_idOrZero (id : Option UInt32) :
    looseId.decode (idOrZero.encode id) = .ok (ProxyHost.Snapshot.idOf (id.getD 0)) := by
  generalize given : id.getD 0 = number
  have reads : looseId.decode (idOrZero.encode id) =
      if (number.toNat : Int) ≤ 0 then .ok none
      else if (number.toNat : Int) ≤ 4294967295 then
        .ok (some (UInt32.ofNat (number.toNat : Int).toNat))
      else .error (.rejected ("id " ++ toString (number.toNat : Int) ++ " out of range")) := by
    subst given
    rfl
  have bound := number.toNat_lt
  rw [reads]
  unfold ProxyHost.Snapshot.idOf
  by_cases zero : number = 0
  · subst zero
    rfl
  · have positive : number.toNat ≠ 0 := fun same => zero (UInt32.toNat_inj.mp same)
    rw [if_neg (by omega), if_pos (by omega), if_neg zero, Int.toNat_natCast, UInt32.ofNat_toNat]

@[simp] theorem list_decode_encode {α : Type} {item : Codec α}
    (faithful : ∀ value, item.decode (item.encode value) = .ok value) (values : List α) :
    item.list.decode (item.list.encode values) = .ok values := by
  show (values.map item.encode).mapM item.decode = .ok values
  induction values with
  | nil => rfl
  | cons value rest induction =>
      rw [List.map_cons, List.mapM_cons, faithful, induction]
      rfl

@[simp] theorem strings_decode_encode (values : List String) :
    string.list.decode (string.list.encode values) = .ok values :=
  list_decode_encode string_decode_encode values

@[simp] theorem nullable_string_decode_encode (value : String) :
    string.nullable.decode (string.encode value) = .ok (some value) := rfl

end Codec

namespace Remote

open Record

@[simp] theorem Location.decode_encode (location : Location) :
    Location.codec.decode (Location.codec.encode location) = .ok location := by
  rcases location with ⟨path, scheme, host, port, advancedConfig⟩
  show record.decode .strict (.object
    [("path", .string path), ("forward_scheme", .string scheme), ("forward_host", .string host),
      ("forward_port", Codec.uint16.encode port), ("advanced_config", .string advancedConfig)]) = _
  have passes : (fun _ => ()) <$> Codec.uint16.decode (Codec.uint16.encode port) = .ok () := by
    rw [Codec.uint16_decode_encode]
    rfl
  refine decode_strict_object.mpr ⟨?_, ?_⟩
  · refine .known rfl rfl (by simp) (.known rfl rfl (by simp) (.known rfl rfl (by simp) ?_))
    exact .known rfl passes (by simp) (.known rfl rfl (by simp) .nil)
  · rw [← builds_eq]
    simp only [record, builds_seq, builds_map]
    simp [Builds, required, defaulted, member, Json.find, List.lookup_cons, Codec.string]

@[simp] theorem locations_decode_encode (locations : List Location) :
    Location.codec.list.nullable.decode (Location.codec.list.encode locations) =
      .ok (some locations) :=
  congrArg (some <$> ·) (Codec.list_decode_encode Location.decode_encode locations)

namespace Host

/-- A host after the values of a body were written over it. The configuration outside the server block
stays unless the body has one. -/
def overwritten (host : Host) (payload : Payload) : Host :=
  { host with
    domains := payload.domains
    scheme := payload.scheme
    host := payload.host
    port := payload.port
    accessListId := ProxyHost.Snapshot.idOf (payload.accessListId.getD 0)
    certificateId := ProxyHost.Snapshot.idOf (payload.certificateId.getD 0)
    sslForced := payload.sslForced
    caching := payload.caching
    blockExploits := payload.blockExploits
    websockets := payload.websockets
    http2 := payload.http2
    hsts := payload.hsts
    hstsSubdomains := payload.hstsSubdomains
    advancedConfig := payload.advancedConfig
    locations := some payload.locations
    unscopedConfig := (payload.unscopedConfig.map some).or host.unscopedConfig }

theorem Payload.write_eq (payload : Payload) : Payload.record.write payload =
    [("domain_names", Codec.string.list.encode payload.domains),
      ("forward_scheme", Codec.string.encode payload.scheme),
      ("forward_host", Codec.string.encode payload.host),
      ("forward_port", Codec.uint16.encode payload.port),
      ("access_list_id", Codec.idOrZero.encode payload.accessListId),
      ("certificate_id", Codec.idOrZero.encode payload.certificateId),
      ("ssl_forced", Codec.bool.encode payload.sslForced),
      ("caching_enabled", Codec.bool.encode payload.caching),
      ("block_exploits", Codec.bool.encode payload.blockExploits),
      ("allow_websocket_upgrade", Codec.bool.encode payload.websockets),
      ("http2_support", Codec.bool.encode payload.http2),
      ("hsts_enabled", Codec.bool.encode payload.hsts),
      ("hsts_subdomains", Codec.bool.encode payload.hstsSubdomains),
      ("advanced_config", Codec.string.encode payload.advancedConfig),
      ("locations", Location.codec.list.encode payload.locations)] ++
    ((payload.unscopedConfig.map Codec.string.encode).map fun value =>
      ("unscoped_config", value)).toList := by
  simp only [Payload.record, write_map, write_seq, write_defaulted, write_optional,
    List.cons_append, List.nil_append]

theorem Payload.names_distinct (payload : Payload) :
    ((Payload.record.write payload).map (·.1)).Nodup := by
  rw [Payload.write_eq]
  cases payload.unscopedConfig <;> simp

/-- Hosts have all members of bodies, and accept what is written there. -/
theorem Payload.accepted (payload : Payload) : ∀ entry ∈ Payload.record.write payload, ∃ check,
    Remote.Host.record.members.lookup entry.1 = some check ∧ check entry.2 = .ok () := by
  rw [Payload.write_eq]
  simp only [Remote.Host.record, required, defaulted, members_map, members_seq, members_member]
  cases payload.unscopedConfig <;> simp [List.lookup_cons]

/-- A host is built from the values of a body where it has them, and else from what it was built from. -/
theorem build_overwritten {find other : String → Option Json} {host : Host} (payload : Payload)
    (found : ∀ name, other name = ((Payload.record.write payload).lookup name).or (find name))
    (built : Host.record.build find = .ok host) :
    Host.record.build other = .ok (host.overwritten payload) := by
  rw [← builds_eq] at built ⊢
  unfold Host.record at built ⊢
  simp only [builds_seq, builds_map] at built ⊢
  rcases built with
    ⟨id, readId, domains, -, scheme, -, forwardHost, -, port, -, accessListId, -, certificateId, -,
      sslForced, -, caching, -, blockExploits, -, websockets, -, http2, -, hsts, -, hstsSubdomains,
      -, advancedConfig, -, enabled, readEnabled, locations, -, unscopedConfig, readUnscoped,
      health, readHealth, rfl⟩
  simp only [required, defaulted, member] at readId readEnabled readHealth readUnscoped
  cases unscoped : payload.unscopedConfig <;>
    simp [Builds, required, defaulted, member, found, Payload.write_eq, List.lookup_cons,
      readId, readEnabled, readHealth, readUnscoped, overwritten, unscoped]

theorem decode_cover {members : List (String × Json)} {host : Host} (payload : Payload)
    (reads : Host.codec.decode (.object members) = .ok host) :
    Host.codec.decode (.object (Json.cover members (Payload.record.write payload))) =
      .ok (host.overwritten payload) :=
  Record.decode_cover payload.accepted payload.names_distinct
    (fun _ _ built found => build_overwritten payload found built) reads

theorem decode_putEnabled {members : List (String × Json)} {host : Host} (flag : Bool)
    (reads : Host.codec.decode (.object members) = .ok host) :
    Host.codec.decode (.object (Json.putMember "enabled" (.bool flag) members)) =
      .ok { host with enabled := flag } := by
  refine decode_putMember rfl rfl (fun find other built found kept => ?_) reads
  rw [← builds_eq] at built ⊢
  unfold Host.record at built ⊢
  simp only [builds_seq, builds_map] at built ⊢
  rcases built with
    ⟨id, readId, domains, readDomains, scheme, readScheme, forwardHost, readHost, port, readPort,
      accessListId, readAccess, certificateId, readCertificate, sslForced, readForced, caching,
      readCaching, blockExploits, readBlock, websockets, readWebsockets, http2, readHttp2, hsts,
      readHsts, hstsSubdomains, readSubdomains, advancedConfig, readAdvanced, enabled, -,
      locations, readLocations, unscopedConfig, readUnscoped, health, readHealth, rfl⟩
  have readEnabled : Codec.looseFlag.decode (.bool flag) = .ok flag := rfl
  simp only [required, defaulted, member] at *
  simp [Builds, *]

end Host

end Remote

end ProxyOperator
