import ProxyOperator.Proofs.Candour
import ProxyOperator.Proofs.HostBodies
/-!
A remote server that keeps what it is sent. It stores the values of the bodies that it accepts and no others,
and what it stores it lists. Together with a cluster that stays as it is, it is a world at a standstill as long
as it is only read.
-/
namespace ProxyOperator

namespace Remote

/-- What a server keeps, as far as hosts are concerned. -/
structure Server where
  hosts : List Host
  certificates : List Certificate
  accessLists : List AccessList

/-- A host as it is to be read: configuration outside the server block that is null counts as empty. -/
def Host.reading (host : Host) : Host :=
  { host with unscopedConfig := host.unscopedConfig.map fun text => some (text.getD "") }

def Host.switchedOn (host : Host) : Host := { host with enabled := true }

/-- A host before anything is written over it, on a server that shows on all hosts whether it accepts blocks. -/
structure Host.Blank (exposes : Bool) (host : Host) : Prop where
  shows : host.showsUnscopedConfig = exposes
  silent : ∀ text ∈ host.unscopedConfig, text.getD "" = ""

/-- A body has nothing that the server does not know of. -/
def Host.Payload.Accepted (exposes : Bool) (body : Host.Payload) : Prop :=
  body.unscopedConfig.isSome = true → exposes = true

namespace Server

def host? (server : Server) (id : UInt32) : Option Host := server.hosts.find? (·.id = id)

def certificate? (server : Server) (id : UInt32) : Option Certificate :=
  server.certificates.find? (·.id = id)

def accessList? (server : Server) (id : UInt32) : Option AccessList :=
  server.accessLists.find? (·.id = id)

def changeHost (server : Server) (id : UInt32) (change : Host → Host) : Server :=
  { server with hosts := server.hosts.map fun host => if host.id = id then change host else host }

/-- Either all hosts have configuration outside the server block, or none does. -/
def Uniform (exposes : Bool) (server : Server) : Prop :=
  ∀ host ∈ server.hosts, host.showsUnscopedConfig = exposes

/-- A server serves a request. What it makes gets a place somewhere in its listing. -/
inductive Serves (exposes : Bool) : Server → (request : Request) → request.Result → Server → Prop
  | listHosts (server : Server) : Serves exposes server (.list .proxyHosts) server.hosts server
  | listCertificates (server : Server) :
      Serves exposes server (.list .certificates) server.certificates server
  | getHost {server : Server} {id : UInt32} {host : Host} (found : server.host? id = some host) :
      Serves exposes server (.get .proxyHosts id) host server
  | getCertificate {server : Server} {id : UInt32} {certificate : Certificate}
      (found : server.certificate? id = some certificate) :
      Serves exposes server (.get .certificates id) certificate server
  | getAccessList {server : Server} {id : UInt32} {list : AccessList}
      (found : server.accessList? id = some list) :
      Serves exposes server (.get .accessLists id) list server
  | createHost {server : Server} {front back : List Host} {blank : Host} {body : Host.Payload}
      (place : server.hosts = front ++ back) (fresh : server.host? blank.id = none)
      (new : blank.Blank exposes) (accepted : body.Accepted exposes) :
      Serves exposes server (.create .proxyHosts body) (blank.overwritten body)
        { server with hosts := front ++ blank.overwritten body :: back }
  | createCertificate {server : Server} {front back : List Certificate} {certificate : Certificate}
      {body : Certificate.Payload} (place : server.certificates = front ++ back)
      (listed : certificate.domains = body.domains) :
      Serves exposes server (.create .certificates body) certificate
        { server with certificates := front ++ certificate :: back }
  | updateHost {server : Server} {id : UInt32} {host : Host} {body : Host.Payload}
      (found : server.host? id = some host) (accepted : body.Accepted exposes) :
      Serves exposes server (.update .proxyHosts id body) (host.overwritten body)
        (server.changeHost id (·.overwritten body))
  | enableHost {server : Server} {id : UInt32} {host : Host} (found : server.host? id = some host) :
      Serves exposes server (.enable .proxyHosts id) ()
        (server.changeHost id (·.switchedOn))

end Server

end Remote

open Remote

/-! ## Hosts that are written over -/

namespace Remote.Host

variable {host : Host} {body : Payload}

@[simp] theorem overwritten_id (host : Host) (body : Payload) : (host.overwritten body).id = host.id :=
  rfl

@[simp] theorem switchedOn_id (host : Host) : host.switchedOn.id = host.id := rfl

theorem overwritten_shows {exposes : Bool} (accepted : body.Accepted exposes)
    (shows : host.showsUnscopedConfig = exposes) :
    (host.overwritten body).showsUnscopedConfig = exposes := by
  unfold showsUnscopedConfig at shows ⊢
  unfold overwritten
  unfold Payload.Accepted at accepted
  cases sent : body.unscopedConfig with
  | none => exact shows
  | some text =>
      rw [sent] at accepted
      exact (accepted rfl).symm

/-- Nothing is written to the configuration outside the server block by a body that has none. -/
theorem Blank.overwritten {exposes : Bool} (new : host.Blank exposes)
    (silent : body.unscopedConfig = none) : (host.overwritten body).Blank exposes := by
  have same : (host.overwritten body).unscopedConfig = host.unscopedConfig := by
    unfold Host.overwritten
    rw [silent]
    rfl
  constructor
  · rw [← new.shows, showsUnscopedConfig, showsUnscopedConfig, same]
  · rw [same]
    exact new.silent

/-- To write the same body twice is to write it once. -/
@[simp] theorem overwritten_overwritten (host : Host) (body : Payload) :
    (host.overwritten body).overwritten body = host.overwritten body := by
  unfold overwritten
  cases body.unscopedConfig <;> rfl

/-- An empty text makes no difference where there is none anyway. -/
theorem reading_overwritten_empty {exposes : Bool} (new : host.Blank exposes)
    (exposed : exposes = true) :
    (host.overwritten { body with unscopedConfig := some "" }).reading =
      (host.overwritten { body with unscopedConfig := none }).reading := by
  have shown := new.shows
  rw [exposed] at shown
  obtain ⟨text, known⟩ := Option.isSome_iff_exists.mp shown
  have silent := new.silent text known
  unfold reading overwritten
  simp only [known, Option.map_some, Option.map_none, Option.none_or, Option.some_or,
    Option.getD_some, silent]

end Remote.Host

namespace Remote.Server

variable {exposes : Bool} {server after : Server} {id : UInt32}

/-! ## Hosts by their ids -/

section

variable {change : Host → Host}

theorem mem_of_host? {host : Host} (found : server.host? id = some host) :
    host ∈ server.hosts ∧ host.id = id := by
  have own := List.find?_some found
  exact ⟨List.mem_of_find?_eq_some found, of_decide_eq_true own⟩

theorem host?_changeHost (keeps : ∀ host, (change host).id = host.id) :
    (server.changeHost id change).host? id = (server.host? id).map change := by
  have same : ((fun host : Host => decide (host.id = id)) ∘
      fun host : Host => if host.id = id then change host else host) =
      fun host => decide (host.id = id) := by
    funext host
    rw [Function.comp]
    split
    · rw [keeps]
    · rfl
  have found : (server.changeHost id change).host? id =
      (server.host? id).map fun host => if host.id = id then change host else host := by
    unfold host? changeHost
    rw [List.find?_map, same]
  rw [found]
  cases known : server.host? id with
  | none => rfl
  | some host => rw [Option.map_some, Option.map_some, if_pos (mem_of_host? known).2]

theorem mem_changeHost {host : Host}
    (member : host ∈ (server.changeHost id change).hosts) (own : host.id = id) :
    ∃ old ∈ server.hosts, old.id = id ∧ host = change old := by
  obtain ⟨old, inside, rfl⟩ := List.mem_map.mp member
  by_cases same : old.id = id
  · exact ⟨old, inside, same, if_pos same⟩
  · rw [if_neg same] at own
    exact absurd own same

theorem Uniform.changeHost (uniform : server.Uniform exposes)
    (shows : ∀ host, host.showsUnscopedConfig = exposes → (change host).showsUnscopedConfig = exposes) :
    (server.changeHost id change).Uniform exposes := by
  intro host member
  obtain ⟨old, inside, rfl⟩ := List.mem_map.mp member
  split
  · exact shows old (uniform old inside)
  · exact uniform old inside

/-- A host that is made is found by its id, and is the only one that has it. -/
theorem host?_inserted {front back : List Host} {host : Host} (place : server.hosts = front ++ back)
    (fresh : server.host? id = none) (own : host.id = id) :
    ({ server with hosts := front ++ host :: back } : Server).host? id = some host ∧
      ∀ other ∈ front ++ host :: back, other.id = id → other = host := by
  unfold host? at fresh ⊢
  rw [place, List.find?_append, Option.or_eq_none_iff] at fresh
  constructor
  · rw [List.find?_append, fresh.1, Option.none_or]
    exact List.find?_cons_of_pos (decide_eq_true own)
  · intro other member same
    have away (others : List Host) (unfound : others.find? (·.id = id) = none) : other ∉ others :=
      fun inside => List.find?_eq_none.mp unfound other inside (decide_eq_true same)
    rcases List.mem_append.mp member with inside | inside
    · exact absurd inside (away front fresh.1)
    · rcases List.mem_cons.mp inside with rfl | inside
      · rfl
      · exact absurd inside (away back fresh.2)

end

/-- All hosts keep showing what they show. -/
theorem Serves.uniform {request : Request} {value : request.Result}
    (serves : server.Serves exposes request value after) (uniform : server.Uniform exposes) :
    after.Uniform exposes := by
  cases serves with
  | listHosts | listCertificates | getHost | getCertificate | getAccessList | createCertificate =>
      exact uniform
  | createHost place _ new accepted =>
      intro host member
      rcases List.mem_append.mp member with inside | inside
      · exact uniform host (place ▸ List.mem_append_left _ inside)
      · rcases List.mem_cons.mp inside with rfl | inside
        · exact Host.overwritten_shows accepted new.shows
        · exact uniform host (place ▸ List.mem_append_right _ inside)
  | updateHost _ accepted => exact uniform.changeHost fun _ => Host.overwritten_shows accepted
  | enableHost => exact uniform.changeHost fun _ shows => shows

end Remote.Server

/-! ## Certificates that are listed -/

namespace Domain

@[simp] theorem sameSet_self (domains : List String) : sameSet domains domains = true := by
  unfold sameSet
  dsimp only
  rw [Bool.and_self, List.all_eq_true]
  exact fun domain member => decide_eq_true member

end Domain

/-- A certificate that was requested, since there was none to be found, is the one that is found then. -/
theorem Remote.findCertificate_requested {domains : List String} {front back : List Certificate}
    {certificate : Certificate} (unfound : findCertificate domains (front ++ back) = none)
    (listed : certificate.domains = domains) :
    findCertificate domains (front ++ certificate :: back) = some certificate := by
  unfold findCertificate findExactCertificate at unfound ⊢
  rw [Option.orElse_eq_orElse, Option.orElse_eq_or, Option.or_eq_none_iff, List.find?_append,
    Option.or_eq_none_iff] at unfound
  rw [List.find?_append, unfound.1.1, Option.none_or, List.find?_cons_of_pos]
  · rfl
  · rw [listed, Domain.sameSet_self]

/-! ## A server at a standstill -/

/-- A request that changes nothing on the server. -/
def Remote.Request.Reads : Request → Prop
  | .list _ => True
  | .get _ _ => True
  | _ => False

namespace Standstill

/-- What a server answers as long as nothing is written to it; what it does not know fails. -/
def ofServer (server : Server) : (request : Request) → Except Failure request.Result
  | .list .proxyHosts => .ok server.hosts
  | .list .certificates => .ok server.certificates
  | .get .proxyHosts id => (server.host? id).elim (.error default) .ok
  | .get .certificates id => (server.certificate? id).elim (.error default) .ok
  | .get .accessLists id => (server.accessList? id).elim (.error default) .ok
  | _ => .error default

/-- A cluster and a server. -/
def facing (cluster : Standstill) (server : Server) : Standstill
  | .remote _ request => ofServer server request
  | effect => cluster effect

variable {exposes : Bool} {server after : Server} {request : Request} {value : request.Result}

private theorem elim_eq_ok {α : Type} {found : Option α} {value : α} :
    found.elim (.error default) Except.ok = (.ok value : Except Failure α) ↔ found = some value := by
  cases found with
  | none => exact ⟨nofun, nofun⟩
  | some other => exact ⟨fun same => congrArg some (Except.ok.inj same),
      fun same => congrArg Except.ok (Option.some.inj same)⟩

theorem serves_of_ofServer (exposes : Bool) (known : ofServer server request = .ok value) :
    request.Reads ∧ server.Serves exposes request value server := by
  unfold ofServer at known
  split at known
  · obtain rfl := Except.ok.inj known
    exact ⟨trivial, .listHosts server⟩
  · obtain rfl := Except.ok.inj known
    exact ⟨trivial, .listCertificates server⟩
  · exact ⟨trivial, .getHost (elim_eq_ok.mp known)⟩
  · exact ⟨trivial, .getCertificate (elim_eq_ok.mp known)⟩
  · exact ⟨trivial, .getAccessList (elim_eq_ok.mp known)⟩
  · cases known

/-- Where a server is only read, its answers are those of the standstill. -/
theorem ofServer_of_serves (reads : request.Reads)
    (serves : server.Serves exposes request value after) :
    ofServer server request = .ok value ∧ after = server := by
  cases serves with
  | listHosts | listCertificates => exact ⟨rfl, rfl⟩
  | getHost found | getCertificate found | getAccessList found =>
      exact ⟨elim_eq_ok.mpr found, rfl⟩
  | createHost | createCertificate | updateHost | enableHost => exact reads.elim

end Standstill

end ProxyOperator
