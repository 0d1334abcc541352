import ProxyOperator.Proofs.Targets
/-!
The port that a forward to a Service leads to. It is the one that is asked for, or that of the first port with
the best name; the nodes have a port of their own for it. A number that is no port is never made into one: the
forward is not resolved then.
-/
namespace ProxyOperator

open Attempt

/-! ## Names that speak of a scheme -/

namespace ServicePort

/-- The word stands somewhere in the name, in upper or in lower case. -/
def Mentions (word : String) (port : ServicePort) : Prop :=
  ∃ name, port.name = some name ∧ word.toList <:+: name.toLower.toList

/-- What is wanted of a port, the better first. -/
def wishes : Scheme → List (ServicePort → Prop)
  | .http => [fun port => port.Mentions "http" ∧ ¬ port.Mentions "https", Mentions "https", fun _ => True]
  | .https => [Mentions "https", fun _ => True]

/-- The first port with a property. -/
def IsFirst (wanted : ServicePort → Prop) (ports : List ServicePort) (port : ServicePort) : Prop :=
  ∃ before after, ports = before ++ port :: after ∧ wanted port ∧ ∀ other ∈ before, ¬ wanted other

/-- The first of the ports that fulfil a wish, where none fulfils a better one. -/
inductive IsBest (ports : List ServicePort) : List (ServicePort → Prop) → ServicePort → Prop
  | found {wish : ServicePort → Prop} {others : List (ServicePort → Prop)} {port : ServicePort}
      (first : IsFirst wish ports port) : IsBest ports (wish :: others) port
  | missed {wish : ServicePort → Prop} {others : List (ServicePort → Prop)} {port : ServicePort}
      (missed : ∀ other ∈ ports, ¬ wish other) (best : IsBest ports others port) :
      IsBest ports (wish :: others) port

variable {ports : List ServicePort} {port other : ServicePort} {word : String}

theorem find?_eq_some_iff {test : ServicePort → Bool} {wanted : ServicePort → Prop}
    (tests : ∀ port, test port = true ↔ wanted port) :
    ports.find? test = some port ↔ IsFirst wanted ports port := by
  simp only [List.find?_eq_some_iff_append, tests, Bool.not_eq_true', Bool.eq_false_iff, ne_eq, IsFirst]
  constructor
  · rintro ⟨fits, before, after, split, unfit⟩
    exact ⟨before, after, split, fits, unfit⟩
  · rintro ⟨before, after, split, fits, unfit⟩
    exact ⟨fits, before, after, split, unfit⟩

theorem find?_eq_none_iff {test : ServicePort → Bool} {wanted : ServicePort → Prop}
    (tests : ∀ port, test port = true ↔ wanted port) :
    ports.find? test = none ↔ ∀ port ∈ ports, ¬ wanted port := by
  simp only [List.find?_eq_none, tests]

/-- A search for a wish, and then for the others. -/
theorem find?_orElse_eq_some_iff {test : ServicePort → Bool} {wish : ServicePort → Prop}
    {others : List (ServicePort → Prop)} {rest : Option ServicePort}
    (tests : ∀ port, test port = true ↔ wish port)
    (further : rest = some port ↔ IsBest ports others port) :
    (ports.find? test <|> rest) = some port ↔ IsBest ports (wish :: others) port := by
  cases sought : ports.find? test with
  | some picked =>
      have first := (find?_eq_some_iff tests).mp sought
      constructor
      · intro same
        rcases Option.some.inj same with rfl
        exact .found first
      · intro best
        cases best with
        | found other => exact sought.symm.trans ((find?_eq_some_iff tests).mpr other)
        | missed missed best =>
            rw [(find?_eq_none_iff tests).mpr missed] at sought
            cases sought
  | none =>
      have missed := (find?_eq_none_iff tests).mp sought
      refine further.trans ⟨.missed missed, fun best => ?_⟩
      cases best with
      | found first =>
          rw [(find?_eq_some_iff tests).mpr first] at sought
          cases sought
      | missed _ best => exact best

theorem head?_eq_some_iff : ports.head? = some port ↔ IsBest ports [fun _ => True] port := by
  constructor
  · intro same
    rcases List.head?_eq_some_iff.mp same with ⟨rest, rfl⟩
    exact .found ⟨[], rest, rfl, trivial, fun _ impossible => nomatch impossible⟩
  · intro best
    cases best with
    | found first =>
        rcases first with ⟨before, after, rfl, _, unfit⟩
        cases before with
        | nil => rfl
        | cons head rest => exact absurd trivial (unfit head (.head _))
    | missed _ best => cases best

end ServicePort

namespace Target

open ServicePort

theorem occursIn_iff {part text : List Char} : occursIn part text = true ↔ part <:+: text := by
  induction text with
  | nil => simp [occursIn]
  | cons character rest induction =>
      rw [occursIn, Bool.or_eq_true, induction, List.isPrefixOf_iff_prefix, List.infix_cons_iff]

theorem speaksOf_iff {word : String} {port : ServicePort} :
    speaksOf word port = true ↔ port.Mentions word := by
  unfold speaksOf Mentions
  cases port.name <;> simp [occursIn_iff]

variable {ports : List ServicePort} {port : ServicePort} {scheme : Scheme}

/-- Where no port is asked for, the best one is picked. -/
theorem pickPort_best : pickPort ports none scheme = some port ↔ IsBest ports (wishes scheme) port := by
  have secure : (ports.find? (speaksOf "https") <|> ports.head?) = some port ↔
      IsBest ports [Mentions "https", fun _ => True] port :=
    find?_orElse_eq_some_iff (fun _ => speaksOf_iff) head?_eq_some_iff
  cases scheme with
  | https => exact secure
  | http =>
      refine find?_orElse_eq_some_iff (fun port => ?_) secure
      rw [Bool.and_eq_true, Bool.not_eq_true', ← Bool.not_eq_true, speaksOf_iff, speaksOf_iff]

/-- The first port of the number that is asked for is picked. -/
theorem pickPort_asked {number : UInt16} : pickPort ports (some number) scheme = some port ↔
    IsFirst (fun port => port.port.toInt = number.toNat) ports port :=
  find?_eq_some_iff fun _ => decide_eq_true_iff

/-! ## Numbers and ports -/

theorem portNumber_eq_ok {what : String} {value : Int32} {number : UInt16} :
    portNumber what value = .ok number ↔ value.toInt = number.toNat := by
  have bound := number.toNat_lt
  unfold portNumber
  split_ifs with isPort
  · rw [Except.ok.injEq, ← UInt16.toNat_inj, UInt16.toNat_ofNat', Nat.mod_eq_of_lt (by omega)]
    omega
  · constructor
    · intro impossible
      cases impossible
    · omega

/-- A port that is asked for is the port, whether it is declared or not. -/
theorem servicePort_asked {number : UInt16} : servicePort ports (some number) scheme = .ok number := by
  unfold servicePort
  cases picked : pickPort ports (some number) scheme with
  | none => rfl
  | some port =>
      rcases pickPort_asked.mp picked with ⟨_, _, _, same, _⟩
      exact portNumber_eq_ok.mpr same

end Target

/-! ## Where a Service leads -/

namespace ServicePort

/-- The port of a Service that is meant by a forward to it. -/
def IsMeant (ports : List ServicePort) (scheme : Scheme) : Option UInt16 → ServicePort → Prop
  | some number => IsFirst (fun port => port.port.toInt = number.toNat) ports
  | none => IsBest ports (wishes scheme)

end ServicePort

theorem Target.pickPort_eq_some_iff {ports : List ServicePort} {explicit : Option UInt16} {scheme : Scheme}
    {port : ServicePort} :
    pickPort ports explicit scheme = some port ↔ ServicePort.IsMeant ports scheme explicit port := by
  cases explicit with
  | none => exact pickPort_best
  | some number => exact pickPort_asked

theorem ServicePort.IsMeant.unique {ports : List ServicePort} {explicit : Option UInt16} {scheme : Scheme}
    {port other : ServicePort} (meant : IsMeant ports scheme explicit port)
    (again : IsMeant ports scheme explicit other) : port = other := by
  have picked := Target.pickPort_eq_some_iff.mpr meant
  rw [Target.pickPort_eq_some_iff.mpr again] at picked
  exact (Option.some.inj picked).symm

namespace ServiceSpec

/-- The number that a forward to a Service leads to: the port that is asked for, else the number of the port
that is meant, and always that of its port on the nodes where the Service is reached through nodes. -/
inductive Leads (spec : ServiceSpec) (scheme : Scheme) : Option UInt16 → Int → Prop
  | asked {number : UInt16} (nodeless : spec.type ≠ some "NodePort") :
      Leads spec scheme (some number) number.toNat
  | declared {port : ServicePort} (nodeless : spec.type ≠ some "NodePort")
      (meant : ServicePort.IsMeant (spec.ports.getD []) scheme none port) :
      Leads spec scheme none port.port.toInt
  | opened {explicit : Option UInt16} {port : ServicePort} {value : Int32} (type : spec.type = some "NodePort")
      (meant : ServicePort.IsMeant (spec.ports.getD []) scheme explicit port)
      (opened : port.nodePort = some value) : Leads spec scheme explicit value.toInt

variable {spec : ServiceSpec} {scheme : Scheme} {explicit : Option UInt16} {number other : Int}

theorem leads_nodes_iff (type : spec.type = some "NodePort") : spec.Leads scheme explicit number ↔
    ∃ port value, ServicePort.IsMeant (spec.ports.getD []) scheme explicit port ∧
      port.nodePort = some value ∧ value.toInt = number := by
  constructor
  · intro leads
    cases leads with
    | asked nodeless => exact absurd type nodeless
    | declared nodeless => exact absurd type nodeless
    | opened _ meant opened => exact ⟨_, _, meant, opened, rfl⟩
  · rintro ⟨port, value, meant, opened, rfl⟩
    exact .opened type meant opened

theorem leads_asked_iff {asked : UInt16} (nodeless : spec.type ≠ some "NodePort") :
    spec.Leads scheme (some asked) number ↔ asked.toNat = number := by
  constructor
  · intro leads
    cases leads with
    | asked => rfl
    | opened type => exact absurd type nodeless
  · rintro rfl
    exact .asked nodeless

theorem leads_declared_iff (nodeless : spec.type ≠ some "NodePort") : spec.Leads scheme none number ↔
    ∃ port, ServicePort.IsMeant (spec.ports.getD []) scheme none port ∧ port.port.toInt = number := by
  constructor
  · intro leads
    cases leads with
    | declared _ meant => exact ⟨_, meant, rfl⟩
    | opened type => exact absurd type nodeless
  · rintro ⟨port, meant, rfl⟩
    exact .declared nodeless meant

theorem Leads.unique (leads : spec.Leads scheme explicit number) (again : spec.Leads scheme explicit other) :
    number = other := by
  cases leads with
  | asked nodeless => exact (leads_asked_iff nodeless).mp again
  | declared nodeless meant =>
      rcases (leads_declared_iff nodeless).mp again with ⟨port, meantToo, rfl⟩
      rw [meant.unique meantToo]
  | opened type meant opened =>
      rcases (leads_nodes_iff type).mp again with ⟨port, value, meantToo, openedToo, rfl⟩
      rcases meant.unique meantToo with rfl
      rw [Option.some.inj (opened.symm.trans openedToo)]

end ServiceSpec

namespace Target

variable {key : ObjectKey} {spec : ServiceSpec} {scheme : Scheme} {explicit : Option UInt16} {number : UInt16}

/-- The port of the backends that a Service comes down to. -/
def portOf (key : ObjectKey) (spec : ServiceSpec) (scheme : Scheme) (explicit : Option UInt16) :
    Except Problem UInt16 :=
  let ports := spec.ports.getD []
  match spec.type with
  | some "ExternalName" =>
      match explicit with
      | some port => .ok port
      | none => servicePort ports none scheme
  | some "NodePort" => nodePort key ports explicit scheme
  | _ => servicePort ports explicit scheme

/-- Aliases are no exception: a port that is asked for is theirs as it is that of other Services. -/
theorem portOf_eq (type : spec.type ≠ some "NodePort") :
    portOf key spec scheme explicit = servicePort (spec.ports.getD []) explicit scheme := by
  unfold portOf
  dsimp only
  split
  · cases explicit with
    | none => rfl
    | some number => exact servicePort_asked.symm
  · next nodes => exact absurd nodes type
  · rfl

theorem portOf_nodes (type : spec.type = some "NodePort") :
    portOf key spec scheme explicit = nodePort key (spec.ports.getD []) explicit scheme := by
  unfold portOf
  simp only [type]

theorem nodePort_eq_ok {ports : List ServicePort} :
    nodePort key ports explicit scheme = .ok number ↔ ∃ port value,
      ServicePort.IsMeant ports scheme explicit port ∧ port.nodePort = some value ∧
        value.toInt = number.toNat := by
  simp only [← pickPort_eq_some_iff]
  unfold nodePort
  cases pickPort ports explicit scheme with
  | none => simp
  | some port =>
      dsimp only
      cases opened : port.nodePort with
      | none => simp [opened]
      | some value => simp [opened, portNumber_eq_ok]

theorem servicePort_picked {ports : List ServicePort} (nonzero : number ≠ 0) :
    servicePort ports none scheme = .ok number ↔
      ∃ port, ServicePort.IsMeant ports scheme none port ∧ port.port.toInt = number.toNat := by
  simp only [← pickPort_eq_some_iff]
  unfold servicePort
  cases pickPort ports none scheme with
  | none => simp [Ne.symm nonzero]
  | some port => simp [portNumber_eq_ok]

/-- The port of the backends is the number that the Service leads to, unless it is zero. -/
theorem portOf_eq_ok (nonzero : number ≠ 0) :
    portOf key spec scheme explicit = .ok number ↔ spec.Leads scheme explicit number.toNat := by
  by_cases type : spec.type = some "NodePort"
  · rw [portOf_nodes type, nodePort_eq_ok, ServiceSpec.leads_nodes_iff type]
  · rw [portOf_eq type]
    cases explicit with
    | some asked =>
        rw [servicePort_asked, ServiceSpec.leads_asked_iff type, Except.ok.injEq, Int.ofNat_inj,
          UInt16.toNat_inj]
    | none => rw [servicePort_picked nonzero, ServiceSpec.leads_declared_iff type]

/-! ## Where a Service is -/

/-- The hosts that a Service is reached at: the name that it is an alias for, the addresses of the nodes that
run its pods, or a host of its own. -/
inductive Housed (world : Standstill) («namespace» : String) (service : Service) (spec : ServiceSpec) :
    List String → Prop
  | named (type : spec.type = some "ExternalName") :
      Housed world «namespace» service spec [spec.externalName.getD ""]
  | nodes {labels : Dictionary String} {addresses : List String} (type : spec.type = some "NodePort")
      (selects : spec.selector = some labels) (selective : labels.isEmpty = false)
      (collected : under world (nodeIps «namespace» labels) = .ok addresses) (nonempty : addresses ≠ []) :
      Housed world «namespace» service spec addresses
  | own {host : String} (unnamed : spec.type ≠ some "ExternalName") (nodeless : spec.type ≠ some "NodePort")
      (given : serviceHost ⟨«namespace», service.metadata.name.getD ""⟩ service spec = .ok host) :
      Housed world «namespace» service spec [host]

variable {world : Standstill} {«namespace» : String} {service : Service} {hosts : List String}

theorem housed_named (type : spec.type = some "ExternalName") :
    Housed world «namespace» service spec hosts ↔ hosts = [spec.externalName.getD ""] := by
  constructor
  · intro housed
    cases housed with
    | named => rfl
    | nodes other => simp [type] at other
    | own unnamed => exact absurd type unnamed
  · rintro rfl
    exact .named type

theorem housed_nodes (type : spec.type = some "NodePort") :
    Housed world «namespace» service spec hosts ↔ (spec.selector.getD .empty).isEmpty = false ∧
      under world (nodeIps «namespace» (spec.selector.getD .empty)) = .ok hosts ∧ hosts ≠ [] := by
  constructor
  · intro housed
    cases housed with
    | named other => simp [type] at other
    | nodes _ selects selective collected nonempty =>
        rw [selects]
        exact ⟨selective, collected, nonempty⟩
    | own _ nodeless => exact absurd type nodeless
  · rintro ⟨selective, collected, nonempty⟩
    cases selects : spec.selector with
    | none =>
        rw [selects] at selective
        cases selective
    | some labels =>
        rw [selects] at selective collected
        exact .nodes type selects selective collected nonempty

theorem housed_own (unnamed : spec.type ≠ some "ExternalName") (nodeless : spec.type ≠ some "NodePort") :
    Housed world «namespace» service spec hosts ↔ ∃ host,
      serviceHost ⟨«namespace», service.metadata.name.getD ""⟩ service spec = .ok host ∧ hosts = [host] := by
  constructor
  · intro housed
    cases housed with
    | named type => exact absurd type unnamed
    | nodes type => exact absurd type nodeless
    | own _ _ given => exact ⟨_, given, rfl⟩
  · rintro ⟨host, given, rfl⟩
    exact .own unnamed nodeless given

/-- What follows a check is reached where the check finds nothing. -/
theorem under_refuse_eq_ok {α : Type} {refused : Prop} [Decidable refused] {failure : Failure} {rest : Pass α}
    {value : α} :
    under world (do
        if refused then throw failure
        rest) = .ok value ↔ ¬ refused ∧ under world rest = .ok value := by
  split_ifs with found
  · constructor
    · intro impossible
      cases impossible
    · exact fun both => absurd found both.1
  · exact (and_iff_right found).symm

/-- The backends of a Service are its hosts, all with the same port. -/
theorem under_serviceBackends_eq_ok {found : List Backend} (specified : service.spec = some spec) :
    under world (serviceBackends scheme «namespace» explicit service) = .ok found ↔ ∃ port hosts,
      portOf ⟨«namespace», service.metadata.name.getD ""⟩ spec scheme explicit = .ok port ∧
        Housed world «namespace» service spec hosts ∧ hosts.map (Backend.mk · port) = found := by
  unfold serviceBackends
  simp only [specified]
  split
  · next named =>
    cases explicit <;>
      simp only [portOf, named, under_bind_eq_ok, under_orFail_eq_ok, housed_named named, under_pure,
        Except.ok.injEq, exists_and_left, exists_eq_left, List.map_cons, List.map_nil]
  · next nodes =>
    simp only [portOf_nodes nodes, housed_nodes nodes, under_bind_eq_ok, under_orFail_eq_ok]
    refine exists_congr fun port => ?_
    rw [exists_and_left]
    refine and_congr_right fun _ => ?_
    rw [under_refuse_eq_ok, under_bind_eq_ok, Bool.not_eq_true, ← exists_and_left]
    refine exists_congr fun addresses => ?_
    rw [under_refuse_eq_ok, List.isEmpty_iff, under_pure, Except.ok.injEq, and_assoc, and_assoc]
  · next unnamed nodeless =>
    simp only [portOf_eq nodeless, housed_own unnamed nodeless, under_bind_eq_ok, under_orFail_eq_ok,
      under_pure, Except.ok.injEq]
    constructor
    · rintro ⟨host, given, port, ported, rfl⟩
      exact ⟨port, [host], ported, ⟨host, given, rfl⟩, rfl⟩
    · rintro ⟨port, hosts, ported, ⟨host, given, rfl⟩, rfl⟩
      exact ⟨host, given, port, ported, rfl⟩

/-! ## Targets at a Service -/

/-- Hosts that a target can be at: the first of them is one, or they are put behind the name of a block. -/
def Reachable (unscoped : Bool) (hosts : List String) : Prop :=
  (∃ host, hosts.head? = some host ∧ host ≠ "") ∨ unscoped = true ∧ 2 ≤ hosts.length

variable {owner : ObjectKey} {unscoped : Bool} {port : UInt16}

theorem ofBackends_port {coordinates : Coordinates}
    (given : ofBackends owner unscoped (hosts.map (Backend.mk · port)) = .ok coordinates) :
    coordinates.port = port := by
  match hosts, unscoped, given with
  | [_], _, given => exact congrArg Coordinates.port (Except.ok.inj given).symm
  | _ :: _ :: _, true, given => exact congrArg Coordinates.port (Except.ok.inj given).symm
  | _ :: _ :: _, false, given => exact congrArg Coordinates.port (Except.ok.inj given).symm

theorem exists_ofBackends_iff :
    (∃ coordinates, ofBackends owner unscoped (hosts.map (Backend.mk · port)) = .ok coordinates ∧
      coordinates.host ≠ "") ↔ Reachable unscoped hosts := by
  unfold Reachable
  match hosts, unscoped with
  | [], _ => simp [ofBackends]
  | [host], _ => simp [ofBackends]
  | _ :: _ :: _, false => simp [ofBackends]
  | _ :: _ :: _, true => simp [ofBackends, Upstream.synthesize, Upstream.nameFor_ne_empty]

variable {forward : Forward} {reference : ServiceRef}

/-- Where the cluster has the Service, the target is at its hosts and at the port that it leads to. -/
theorem under_resolve_service_eq_ok {target : Target} (undeclared : forward.hosts = none)
    (refers : forward.service = some reference)
    (answer : world (.service (reference.resolve owner.namespace)) = .ok (some service)) :
    under world (resolve owner unscoped forward) = .ok target ↔ ∃ spec port hosts coordinates,
      service.spec = some spec ∧ port ≠ 0 ∧ spec.Leads forward.scheme reference.port port.toNat ∧
        Housed world (reference.resolve owner.namespace).namespace service spec hosts ∧
        ofBackends owner unscoped (hosts.map (Backend.mk · port)) = .ok coordinates ∧ coordinates.host ≠ "" ∧
        target = ⟨forward.scheme, coordinates.host, port, forward.advancedConfig.getD "",
          coordinates.upstream⟩ := by
  rw [under_resolve_eq_ok]
  constructor
  · rintro ⟨found, leads, coordinates, given, placed⟩
    rcases ofCoordinates_eq_ok.mp placed with ⟨there, nonzero, same⟩
    rcases under_backends_eq_ok.mp leads with ⟨declares, _⟩ | ⟨_, _, _, refersToo, answerToo, leads⟩
    · exact absurd (undeclared.symm.trans declares) (by simp)
    cases refers.symm.trans refersToo
    cases answer.symm.trans answerToo
    cases specified : service.spec with
    | none =>
        unfold serviceBackends at leads
        rw [specified] at leads
        cases leads
    | some spec =>
        rcases (under_serviceBackends_eq_ok specified).mp leads with ⟨port, hosts, ported, housed, rfl⟩
        rcases ofBackends_port given with rfl
        have leads := (portOf_eq_ok nonzero).mp ported
        exact ⟨spec, _, hosts, coordinates, rfl, nonzero, leads, housed, given, there, same⟩
  · rintro ⟨spec, port, hosts, coordinates, specified, nonzero, leads, housed, given, there, same⟩
    rcases ofBackends_port given with rfl
    have backs := (under_serviceBackends_eq_ok specified).mpr
      ⟨_, hosts, (portOf_eq_ok nonzero).mpr leads, housed, rfl⟩
    refine ⟨_, under_backends_eq_ok.mpr (.inr ⟨reference, service, undeclared, refers, answer, backs⟩), ?_⟩
    exact ⟨coordinates, given, ofCoordinates_eq_ok.mpr ⟨there, nonzero, same⟩⟩

theorem exists_port_iff {number : Int} :
    (∃ port : UInt16, port ≠ 0 ∧ number = port.toNat) ↔ 1 ≤ number ∧ number ≤ 65535 := by
  constructor
  · rintro ⟨port, nonzero, rfl⟩
    have positive := mt UInt16.toNat_inj.mp nonzero
    have bound := port.toNat_lt
    rw [UInt16.toNat_zero] at positive
    omega
  · intro bounds
    have same : (UInt16.ofNat number.toNat).toNat = number.toNat := by
      rw [UInt16.toNat_ofNat', Nat.mod_eq_of_lt (by omega)]
    refine ⟨.ofNat number.toNat, fun zero => ?_, by omega⟩
    rw [zero, UInt16.toNat_zero] at same
    omega

/-- A forward to a Service leads to no other port than the number that the Service leads to, and there is a
target just if this number is that of a port and the Service is at a host. -/
theorem service_port_selected (undeclared : forward.hosts = none) (refers : forward.service = some reference)
    (answer : world (.service (reference.resolve owner.namespace)) = .ok (some service)) :
    (∀ target, under world (resolve owner unscoped forward) = .ok target → ∃ spec number,
      service.spec = some spec ∧ spec.Leads forward.scheme reference.port number ∧
        (∀ other, spec.Leads forward.scheme reference.port other → other = number) ∧
        1 ≤ number ∧ number ≤ 65535 ∧ (target.port.toNat : Int) = number) ∧
    ((∃ target, under world (resolve owner unscoped forward) = .ok target) ↔ ∃ spec number hosts,
      service.spec = some spec ∧ spec.Leads forward.scheme reference.port number ∧
        1 ≤ number ∧ number ≤ 65535 ∧
        Housed world (reference.resolve owner.namespace).namespace service spec hosts ∧
        Reachable unscoped hosts) := by
  simp only [under_resolve_service_eq_ok undeclared refers answer]
  constructor
  · rintro target ⟨spec, port, _, _, specified, nonzero, leads, _, _, _, rfl⟩
    have ⟨low, high⟩ := exists_port_iff.mp ⟨port, nonzero, rfl⟩
    exact ⟨spec, port.toNat, specified, leads, fun other again => again.unique leads, low, high, rfl⟩
  · constructor
    · rintro ⟨_, spec, port, hosts, coordinates, specified, nonzero, leads, housed, given, there, rfl⟩
      have ⟨low, high⟩ := exists_port_iff.mp ⟨port, nonzero, rfl⟩
      exact ⟨spec, port.toNat, hosts, specified, leads, low, high, housed,
        exists_ofBackends_iff.mp ⟨coordinates, given, there⟩⟩
    · rintro ⟨spec, number, hosts, specified, leads, low, high, housed, reachable⟩
      rcases exists_port_iff.mpr ⟨low, high⟩ with ⟨port, nonzero, rfl⟩
      rcases exists_ofBackends_iff.mpr reachable with ⟨coordinates, given, there⟩
      exact ⟨_, spec, port, hosts, coordinates, specified, nonzero, leads, housed, given, there, rfl⟩

def namedPort (name : String) (number : Int32) : ServicePort :=
  { (default : ServicePort) with name := some name, port := number }

/-- A Service with a port for administration, and one that is for everybody. -/
def gatewaySpec (number : Int32) : ServiceSpec :=
  ⟨some "10.1.0.7", none, some [namedPort "HTTPS-Admin" 8443, namedPort "Http-Web" number], none, none⟩

def gateway (number : Int32) : Service := ⟨default, some (gatewaySpec number), none⟩

/-- A cluster in which all Services are that one. -/
def onlyGateway (number : Int32) : Standstill
  | .service _ => .ok (some (gateway number))
  | effect => Standstill.barren effect

/-- The forward of a host to the Service. -/
def toGateway : Pass Target := resolve ⟨"apps", "shop"⟩ false (Forward.toService "gateway")

theorem leads_gateway {number : Int32}
    (picked : pickPort [namedPort "HTTPS-Admin" 8443, namedPort "Http-Web" number] none .http =
      some (namedPort "Http-Web" number)) : (gatewaySpec number).Leads .http none number.toInt := by
  have meant : ServicePort.IsMeant ((gatewaySpec number).ports.getD []) .http none
      (namedPort "Http-Web" number) :=
    pickPort_eq_some_iff.mp picked
  exact ServiceSpec.Leads.declared (by simp [gatewaySpec]) meant

/-- The port for everybody is picked, and a number that were a port if it was cut off is not. -/
theorem service_port_selected_gateway :
    (∃ target, under (onlyGateway 8080) toGateway = .ok target ∧ target.port.toNat = 8080) ∧
      ¬ ∃ target, under (onlyGateway 65616) toGateway = .ok target := by
  have selected (number : Int32) : _ ∧ ((∃ target, under (onlyGateway number) toGateway = .ok target) ↔ _) :=
    service_port_selected rfl rfl rfl
  constructor
  · have leads : (gatewaySpec 8080).Leads .http none 8080 := leads_gateway (by decide +kernel)
    have housed : Housed (onlyGateway 8080) "apps" (gateway 8080) (gatewaySpec 8080) ["10.1.0.7"] :=
      .own (by simp [gatewaySpec]) (by simp [gatewaySpec]) rfl
    rcases (selected 8080).2.mpr ⟨_, _, _, rfl, leads, by decide, by decide, housed,
      .inl ⟨_, rfl, by decide⟩⟩ with ⟨target, resolved⟩
    rcases (selected 8080).1 target resolved with ⟨_, number, specified, _, unique, _, _, same⟩
    cases specified
    have known := unique _ leads
    exact ⟨target, resolved, Int.ofNat_inj.mp (same.trans known.symm)⟩
  · intro resolves
    have leads : (gatewaySpec 65616).Leads .http none 65616 := leads_gateway (by decide +kernel)
    rcases (selected 65616).2.mp resolves with ⟨_, number, _, specified, leadsToo, _, high, _⟩
    cases specified
    rw [leadsToo.unique leads] at high
    exact absurd high (by decide)

end Target

end ProxyOperator
