import ProxyOperator.Proofs.HostBodies
import ProxyOperator.Proofs.PuttingBack
/-!
What a remote host that was adopted looks like after the resource that adopted it was deleted. The server
is one that writes the members of a body over those it has; whatever became of the remote host since it
was adopted, all it was set to then is put back, save that a missing configuration outside the server
block is not.
-/
namespace ProxyOperator

/-! ## Hosts that are set to the same -/

namespace Remote.Host

/-- The configuration outside the server block, empty if there is none. -/
def unscopedText (host : Host) : String := host.unscopedConfig.join.getD ""

/-- A host with one form for what may be absent: no id is zero, no locations are an empty list and no
configuration is an empty text. What it cannot be set to is left out. -/
def plain (host : Host) : Host :=
  { host with
    id := 0
    accessListId := some (host.accessListId.getD 0)
    certificateId := some (host.certificateId.getD 0)
    locations := some (host.locations.getD [])
    unscopedConfig := some (some host.unscopedText)
    health := default }

def restored (current : Host) (snapshot : ProxyHost.Snapshot) : Host :=
  { current.overwritten snapshot.payload with enabled := snapshot.enabled }

theorem idOf_getD (id : UInt32) : (ProxyHost.Snapshot.idOf id).getD 0 = id := by
  unfold ProxyHost.Snapshot.idOf
  split
  · next zero => exact zero.symm
  · rfl

theorem restored_locations (locations : List Location) :
    (locations.map ProxyHost.LocationSnapshot.of).map (·.restored) = locations := by
  rw [List.map_map]
  exact List.map_id' locations

/-- All that a host was set to is put back, but for the configuration outside the server block. -/
theorem restored_plain (current remote : Host) :
    (current.restored (.of remote)).plain =
      { remote.plain with
        unscopedConfig := some (some (current.restored (.of remote)).unscopedText) } := by
  simp only [plain, unscopedText, restored, overwritten, ProxyHost.Snapshot.payload,
    ProxyHost.Snapshot.of, idOf_getD, restored_locations, Option.getD_some]

theorem restored_unscopedText (current remote : Host) :
    (current.restored (.of remote)).unscopedText =
      remote.unscopedConfig.join.getD current.unscopedText := by
  simp only [unscopedText, restored, overwritten, ProxyHost.Snapshot.payload, ProxyHost.Snapshot.of]
  cases remote.unscopedConfig.join <;> rfl

/-- A host is put back as it was just where it had a configuration outside the server block or has none
to lose. -/
theorem restored_iff (current remote : Host) :
    (current.restored (.of remote)).plain = remote.plain ↔
      remote.unscopedConfig.join.isSome ∨ current.unscopedText = "" := by
  have texts : (current.restored (.of remote)).plain = remote.plain ↔
      (current.restored (.of remote)).unscopedText = remote.unscopedText := by
    rw [restored_plain]
    constructor
    · intro same
      exact Option.some.inj (Option.some.inj (congrArg unscopedConfig same))
    · intro same
      rw [same]
      rfl
  rw [texts, restored_unscopedText]
  unfold unscopedText
  cases remote.unscopedConfig.join with
  | none => exact ⟨.inr, fun none => none.resolve_left Bool.noConfusion⟩
  | some config => exact ⟨fun _ => .inl rfl, fun _ => rfl⟩

end Remote.Host

/-! ## From adoption to deletion -/

namespace ProxyHost

theorem decode_putBack {members : List (String × Json)} {current : Remote.Host}
    (remote : Remote.Host) (reads : Remote.Host.codec.decode (.object members) = .ok current) :
    Remote.Host.codec.decode (.object (Adopting.proxyHosts.putBack (.of remote) members)) =
      .ok (current.restored (.of remote)) :=
  Remote.Host.decode_putEnabled _ (Remote.Host.decode_cover _ reads)

/-- A host that starts without a status and is bound at some moment of a run adopted a remote host. A pass on
it when it is deleted gets a session, if its Token can be found and the server lets it in. If it gets one, that
remote host is set to just what it was set to when it was adopted, unless that leaves out a configuration outside
the server block that it has now and had not then. -/
theorem restored_unless_unscoped {host : ProxyHost} {moment : Moment (Scene .proxyHost)}
    (fresh : host.status = none)
    (reaches : (Scene.setting .proxyHost).Reaches (.still ⟨host, host, []⟩) moment)
    (bound : isBound moment.world.stored = true)
    (deleting : moment.world.stored.metadata.isDeleting = true)
    (held : moment.world.stored.isHeld = true) :
    ∃ remote, remoteId moment.world.stored = some remote.id ∧
      Adopting.proxyHosts.Adopted (.still ⟨host, host, []⟩) moment remote ∧
      ∀ context members current log result after,
        Remote.Host.codec.decode (.object members) = .ok current →
        Program.Goes (Custody.Stores .proxyHosts remote.id)
          (reconcile context .proxyHost moment.world.stored).run ⟨some members, false⟩ log
          (.done result) after →
        (Reconcile.LetsIn context moment.world.stored.spec.token
          moment.world.stored.metadata.spokenKey.namespace log → after.connected = true) ∧
        (after.connected = true →
          ∃ left last, after.members = some left ∧
            Remote.Host.codec.decode (.object left) = .ok last ∧
            last.plain = { remote.plain with unscopedConfig := last.plain.unscopedConfig } ∧
            (last.plain = remote.plain ↔
              remote.unscopedConfig.join.isSome ∨ current.unscopedText = "")) := by
  have recorded := Adopting.proxyHosts_upkeep.recorded fresh reaches
  rw [← Adopting.proxyHosts_footingOf_bound] at bound
  rcases recorded.adopted bound with ⟨remote, footing, adopted⟩
  refine ⟨remote, ?_, adopted, ?_⟩
  · rw [← Adopting.proxyHosts_footingOf_id, footing]
    rfl
  intro context members current log result after reads goes
  have dismisses : reconcile context .proxyHost moment.world.stored =
      Reconcile.dismiss moment.world.stored
        (Adopting.proxyHosts.cleanup context moment.world.stored) := if_pos deleting
  rw [dismisses] at goes
  have ⟨connects, putBack⟩ := Adopting.PutBack.of_goes footing goes
  refine ⟨connects held, fun connected => ⟨_, _, putBack connected, decode_putBack remote reads, ?_, ?_⟩⟩
  · exact Remote.Host.restored_plain current remote
  · exact Remote.Host.restored_iff current remote

/-- A host adopts a remote host, which is then set to the host's backend and loses what it had outside the server
block. A pass on the deleted host gets a session and sets the remote host to all that it was set to. -/
theorem restored_unless_unscoped_lost :
    ∃ (start moment : Moment (Scene .proxyHost)) (remote current last : Remote.Host)
      (members left : List (String × Json)) (log : List (Exchange Effects))
      (result : Except Failure Action) (after : Custody),
      Adopting.proxyHosts.Adopted start moment remote ∧ moment.world.stored.isHeld = true ∧
      Remote.Host.codec.decode (.object members) = .ok current ∧
      current.host = "10.0.0.1" ∧ current.unscopedConfig = some none ∧
      Program.Goes (Custody.Stores .proxyHosts remote.id)
        (reconcile Sample.context .proxyHost moment.world.stored).run ⟨some members, false⟩ log
        (.done result) after ∧
      after.members = some left ∧ Remote.Host.codec.decode (.object left) = .ok last ∧
      last.plain = remote.plain := by
  let host := Sample.host "web" true [⟨"10.0.0.1", 80⟩]
  let reported := Sample.remote (some "# kept")
  let start : Scene .proxyHost := ⟨host, host, []⟩
  let adopted := Scene.passed (Sample.server reported) Sample.context host
  let moment : Scene .proxyHost := { adopted with stored := Sample.deleting adopted.stored }
  have reaches : (Scene.setting .proxyHost).Reaches (.still start) (.still moment) :=
    (Scene.reaches_passed (Sample.server_faithful reported) Sample.context start rfl).tail
      (.disturb (Sample.edited_deleting adopted.stored))
  have held : moment.stored.isHeld = true := by decide +kernel
  obtain ⟨remote, known, adoption, restores⟩ :=
    restored_unless_unscoped rfl reaches (by decide +kernel) (by decide +kernel) held
  have id : remote.id = 99 := by
    have evaluated : remoteId moment.stored = some 99 := by decide +kernel
    exact Option.some.inj (known.symm.trans evaluated)
  let current := { Sample.remote none with host := "10.0.0.1", port := 80 }
  let members := Remote.Host.record.write current
  have reads : Remote.Host.codec.decode (.object members) = .ok current :=
    Except.eq_ok_of_toOption (by decide +kernel)
  obtain ⟨log, result, after, goes, letsIn⟩ :=
    Sample.exists_kept Adopting.proxyHosts reported moment.stored 99 members (by decide +kernel)
      (by decide +kernel)
  rw [← id] at goes
  have ⟨connects, restored⟩ := restores Sample.context members current log result after reads goes
  obtain ⟨left, last, stays, readsLast, -, same⟩ := restored (connects letsIn)
  exact ⟨_, _, remote, current, last, members, left, log, result, after, adoption, held, reads, rfl, rfl,
    goes, stays, readsLast, same.mpr (.inr (by decide +kernel))⟩

/-- A cluster with a host of two backends that asks for adoption, and a server that accepts upstream
blocks and has a remote host without one. -/
def legacyWorld : Rehearsal.World where
  tree := .object [
    ("ProxyHost", .array [(Resource.codec .proxyHost).encode
      (Sample.host "web" true [⟨"10.0.0.1", 80⟩, ⟨"10.0.0.2", 80⟩])]),
    ("Token", .array [(Resource.codec .token).encode Sample.token]),
    ("remote", .object [
      ("proxy_hosts", .array [Remote.Host.codec.encode (Sample.remote none)]),
      ("settings", .object [("unscoped", .bool true)])])]
  faults := .empty
  calls := []

/-- A host is adopted in a pass that succeeds, the deletion of the resource is asked for, and another
pass lets it go. -/
def legacyLife : Rehearsal.Acting (Except Failure Action × Except Failure Action) := do
  let key : ObjectKey := ⟨"apps", "web"⟩
  let adoption ← Rehearsal.visit Sample.context .proxyHost key
  Rehearsal.askDeletion .proxyHost key .epoch
  let release ← Rehearsal.visit Sample.context .proxyHost key
  return (adoption, release)

/-- The remote host keeps the upstream block that the operator sent: all calls succeed, the host is put
back, but not as it was. -/
theorem restored_fails_unscoped :
    let world := (legacyLife.run legacyWorld).2
    let outcomes := (legacyLife.run legacyWorld).1
    outcomes.1.isOk ∧ outcomes.2.isOk ∧
      (Rehearsal.reportedHosts world).toOption.map (·.map (·.host)) = some ["legacy"] ∧
      (Rehearsal.reportedHosts world).toOption.map (·.map (·.plain)) ≠
        some [(Sample.remote none).plain] := by
  decide +kernel

end ProxyHost

end ProxyOperator
