import ProxyOperator.Proofs.HostBodies
import ProxyOperator.Proofs.PuttingBack
/-!
What a remote stream that was adopted looks like after the resource that adopted it was deleted. A body
for a stream always holds all that a stream is set to, so whatever became of the stream since it was
adopted, it is set again to just what it was set to then, and nothing else about it changes.
-/
namespace ProxyOperator

/-! ## Streams that a body is written over -/

namespace Remote.Stream

open Record

def overwritten (stream : Stream) (payload : Payload) : Stream :=
  { stream with
    incomingPort := payload.incomingPort
    host := payload.host
    port := payload.port
    tcp := payload.tcp
    udp := payload.udp }

/-- A stream that is set to what another one is set to, and otherwise as it was. -/
def setAs (stream other : Stream) : Stream :=
  { stream with
    incomingPort := other.incomingPort
    host := other.host
    port := other.port
    tcp := other.tcp
    udp := other.udp
    enabled := other.enabled }

theorem Payload.write_eq (payload : Payload) : Payload.record.write payload =
    [("incoming_port", Codec.uint16.encode payload.incomingPort),
      ("forwarding_host", Codec.string.encode payload.host),
      ("forwarding_port", Codec.uint16.encode payload.port),
      ("tcp_forwarding", Codec.bool.encode payload.tcp),
      ("udp_forwarding", Codec.bool.encode payload.udp)] := by
  simp only [Payload.record, write_map, write_seq, write_defaulted, List.cons_append,
    List.nil_append]

theorem Payload.names_distinct (payload : Payload) :
    ((Payload.record.write payload).map (·.1)).Nodup := by
  simp [Payload.write_eq]

/-- Streams have all members of bodies, and accept what is written there. -/
theorem Payload.accepted (payload : Payload) : ∀ entry ∈ Payload.record.write payload, ∃ check,
    Remote.Stream.record.members.lookup entry.1 = some check ∧ check entry.2 = .ok () := by
  rw [Payload.write_eq]
  simp [Remote.Stream.record, required, defaulted, members_map, members_seq, members_member,
    List.lookup_cons]

/-- A stream is built from the values of a body, and from what it was built from where a body has none. -/
theorem build_overwritten {find other : String → Option Json} {stream : Stream} (payload : Payload)
    (found : ∀ name, other name = ((Payload.record.write payload).lookup name).or (find name))
    (built : Remote.Stream.record.build find = .ok stream) :
    Remote.Stream.record.build other = .ok (stream.overwritten payload) := by
  rw [← builds_eq] at built ⊢
  unfold Remote.Stream.record at built ⊢
  simp only [builds_seq, builds_map] at built ⊢
  rcases built with ⟨id, readId, incomingPort, -, host, -, port, -, tcp, -, udp, -, enabled,
    readEnabled, health, readHealth, rfl⟩
  simp only [required, defaulted, member] at readId readEnabled readHealth
  simp [Builds, required, defaulted, member, found, Payload.write_eq, List.lookup_cons, readId,
    readEnabled, readHealth, overwritten]

theorem decode_cover {members : List (String × Json)} {stream : Stream} (payload : Payload)
    (reads : Remote.Stream.codec.decode (.object members) = .ok stream) :
    Remote.Stream.codec.decode (.object (Json.cover members (Payload.record.write payload))) =
      .ok (stream.overwritten payload) :=
  Record.decode_cover payload.accepted payload.names_distinct
    (fun _ _ built found => build_overwritten payload found built) reads

theorem decode_putEnabled {members : List (String × Json)} {stream : Stream} (flag : Bool)
    (reads : Remote.Stream.codec.decode (.object members) = .ok stream) :
    Remote.Stream.codec.decode (.object (Json.putMember "enabled" (.bool flag) members)) =
      .ok { stream with enabled := flag } := by
  refine decode_putMember rfl rfl (fun find other built found kept => ?_) reads
  rw [← builds_eq] at built ⊢
  unfold Remote.Stream.record at built ⊢
  simp only [builds_seq, builds_map] at built ⊢
  rcases built with ⟨id, readId, incomingPort, readIncoming, host, readHost, port, readPort, tcp,
    readTcp, udp, readUdp, enabled, -, health, readHealth, rfl⟩
  have readEnabled : Codec.looseFlag.decode (.bool flag) = .ok flag := rfl
  simp only [required, defaulted, member] at *
  simp [Builds, *]

end Remote.Stream

namespace Stream

theorem decode_putBack {members : List (String × Json)} {current : Remote.Stream}
    (remote : Remote.Stream) (reads : Remote.Stream.codec.decode (.object members) = .ok current) :
    Remote.Stream.codec.decode (.object (Adopting.streams.putBack (.of remote) members)) =
      .ok (current.setAs remote) :=
  Remote.Stream.decode_putEnabled _ (Remote.Stream.decode_cover _ reads)

/-- A stream that starts without a status and is bound at some moment of a run adopted a remote stream. A pass on
it when it is deleted gets a session, if it is held back, its Token can be found and the server lets it in. If it
gets one, then whatever became of that remote stream, it is set again to just what it was set to when it was
adopted. -/
theorem adoption_undone {stream : Stream} {moment : Moment (Scene .stream)}
    (fresh : stream.status = none)
    (reaches : (Scene.setting .stream).Reaches (.still ⟨stream, stream, []⟩) moment)
    (bound : isBound moment.world.stored = true)
    (deleting : moment.world.stored.metadata.isDeleting = true) :
    ∃ remote, remoteId moment.world.stored = some remote.id ∧
      Adopting.streams.Adopted (.still ⟨stream, stream, []⟩) moment remote ∧
      ∀ context members current log result after,
        Remote.Stream.codec.decode (.object members) = .ok current →
        Program.Goes (Custody.Stores .streams remote.id)
          (reconcile context .stream moment.world.stored).run ⟨some members, false⟩ log
          (.done result) after →
        (moment.world.stored.isHeld = true → Reconcile.LetsIn context moment.world.stored.spec.token
          moment.world.stored.metadata.spokenKey.namespace log → after.connected = true) ∧
        (after.connected = true →
          ∃ left, after.members = some left ∧
            Remote.Stream.codec.decode (.object left) = .ok (current.setAs remote)) := by
  have recorded := Adopting.streams_upkeep.recorded fresh reaches
  rw [← Adopting.streams_footingOf_bound] at bound
  rcases recorded.adopted bound with ⟨remote, footing, adopted⟩
  refine ⟨remote, ?_, adopted, ?_⟩
  · rw [← Adopting.streams_footingOf_id, footing]
    rfl
  intro context members current log result after reads goes
  have dismisses : reconcile context .stream moment.world.stored =
      Reconcile.dismiss moment.world.stored
        (Adopting.streams.cleanup context moment.world.stored) := if_pos deleting
  rw [dismisses] at goes
  have ⟨connects, putBack⟩ := Adopting.PutBack.of_goes footing goes
  exact ⟨connects, fun connected => ⟨_, putBack connected, decode_putBack remote reads⟩⟩

end Stream

namespace Sample

def boundTunnel : Stream := tunnel 9000 ⟨"10.0.0.1", 5432⟩

/-- The stream has adopted another one, and is now for another port and another backend. -/
def movedTunnel : Scene .stream :=
  Scene.resumed (server default) context boundTunnel (tunnel 9001 ⟨"10.0.0.2", 53⟩).spec

def leavingTunnel : Scene .stream := { movedTunnel with stored := deleting movedTunnel.stored }

theorem reaches_leavingTunnel :
    (Scene.setting .stream).Reaches (.still ⟨boundTunnel, boundTunnel, []⟩) (.still leavingTunnel) := by
  have faithful := server_faithful default
  have first := Scene.reaches_passed faithful context ⟨boundTunnel, boundTunnel, []⟩ rfl
  have second := Scene.reaches_resumed faithful context boundTunnel (tunnel 9001 ⟨"10.0.0.2", 53⟩).spec
    (by decide +kernel)
  exact (first.trans second).tail (.disturb (edited_deleting movedTunnel.stored))

/-- The remote stream, which by now is on the other port. -/
def movedStream : Remote.Stream := { legacyStream with incomingPort := 9001 }

end Sample

namespace Stream

/-- A stream adopts a remote stream and is then declared for another port and another backend. When it is
deleted, the remote stream, which by then is on that port, is as it was. -/
theorem adoption_undone_moved :
    ∃ (start moment : Moment (Scene .stream)) (remote current : Remote.Stream)
      (members left : List (String × Json)) (log : List (Exchange Effects))
      (result : Except Failure Action) (after : Custody),
      Adopting.streams.Adopted start moment remote ∧ moment.world.stored.isHeld = true ∧
      moment.world.stored.spec.incomingPort = 9001 ∧
      Remote.Stream.codec.decode (.object members) = .ok current ∧ current.incomingPort = 9001 ∧
      Program.Goes (Custody.Stores .streams remote.id)
        (reconcile Sample.context .stream moment.world.stored).run ⟨some members, false⟩ log
        (.done result) after ∧
      after.members = some left ∧
      Remote.Stream.codec.decode (.object left) = .ok (current.setAs remote) := by
  have held : Sample.leavingTunnel.stored.isHeld = true := by decide +kernel
  obtain ⟨remote, known, adoption, restores⟩ :=
    adoption_undone rfl Sample.reaches_leavingTunnel (by decide +kernel) (by decide +kernel)
  have id : remote.id = 7 := by
    have evaluated : remoteId Sample.leavingTunnel.stored = some 7 := by decide +kernel
    exact Option.some.inj (known.symm.trans evaluated)
  let members := Remote.Stream.record.write Sample.movedStream
  have reads : Remote.Stream.codec.decode (.object members) = .ok Sample.movedStream :=
    Except.eq_ok_of_toOption (by decide +kernel)
  obtain ⟨log, result, after, goes, letsIn⟩ :=
    Sample.exists_kept Adopting.streams default Sample.leavingTunnel.stored 7 members (by decide +kernel)
      (by decide +kernel)
  rw [← id] at goes
  have ⟨connects, restored⟩ := restores Sample.context members Sample.movedStream log result after reads goes
  obtain ⟨left, stays, readsLeft⟩ := restored (connects held letsIn)
  exact ⟨_, _, remote, Sample.movedStream, members, left, log, result, after, adoption, held,
    by decide +kernel, reads, rfl, goes, stays, readsLeft⟩

end Stream

end ProxyOperator
