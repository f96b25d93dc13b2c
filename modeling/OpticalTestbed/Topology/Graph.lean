import OpticalTestbed.Topology.Basic
/-!
The topology container: what may be added to it, and the views that follow from its links. An
operation that fails returns a fault and no topology, so the one at hand stays as it was.
-/
namespace OpticalTestbed

/-- Switches in the order they were added and their positions by name, links by their ids, and
named domains. -/
structure Topology where
  nodes : List Node
  positions : Dict String Nat
  links : List Link
  domains : Dict String (KeySet String)

/-- The part of a topology that belongs to one controller. -/
inductive Scope where
  | all
  | domain (name : String) (members : KeySet String)

namespace Scope

def contains : Scope → String → Bool
  | all, _ => true
  | domain _ members, node => Dict.contains members node

def label : Scope → String
  | all => "all"
  | domain name _ => name

end Scope

namespace Topology

def empty : Topology := ⟨[], Dict.empty, [], Dict.empty⟩

/-- The node with a name. -/
def node? (t : Topology) (name : String) : Option Node := t.nodes.find? (·.name = name)

/-- The position of the node with a name. -/
def index? (t : Topology) (name : String) : Option Nat := t.positions.get? name

def hasNode (t : Topology) (name : String) : Bool := t.positions.contains name

/-- Adds a node; names and datapath ids are unique. -/
def addNode (t : Topology) (n : Node) : Except TopologyFault Topology :=
  if t.hasNode n.name then .error (.duplicateNode n.name)
  else match t.nodes.find? (·.dpid = n.dpid) with
    | some other => .error (.sharedDpid other.name n.name n.dpid.text)
    | none => .ok { t with
        nodes := t.nodes ++ [n]
        positions := t.positions.insert n.name t.nodes.length }

/-- Whether a link already ends on a port of a node. -/
def portTaken (t : Topology) (e : Endpoint) : Bool :=
  t.links.any (fun l => (l.endpointOn? e.node).map (·.port) = some e.port)

/-- What is wrong with one end of a new link. -/
def endpointFault? (t : Topology) (e : Endpoint) : Option TopologyFault :=
  if !t.hasNode e.node then some (.unknownEndpoint e.node)
  else if t.portTaken e then some (.portTaken e.port e.node)
  else none

/-- Trunk or cross-connect by the ends' devices; nothing without a ROADM or with an end unknown. -/
def classify? (t : Topology) (l : Link) : Option OpticalKind :=
  match t.node? l.a.node, t.node? l.b.node with
  | some a, some b =>
    match a.isRoadm, b.isRoadm with
    | true, true => some .trunk
    | true, false | false, true => some .crossConnect
    | false, false => none
  | _, _ => none

/-- What is wrong with a new link: first its ends are looked at, one after the other. -/
def linkFault? (t : Topology) (l : Link) : Option TopologyFault :=
  match t.endpointFault? l.a with
  | some fault => some fault
  | none =>
    match t.endpointFault? l.b with
    | some fault => some fault
    | none =>
      if l.a.node = l.b.node then some (.selfLink l.a.node)
      else if l.isOptical && (t.classify? l).isNone then
        some (.noRoadm l.a.node l.a.port l.b.node l.b.port)
      else none

/-- Adds a link between ports that are still free; an optical one needs a ROADM. -/
def addLink (t : Topology) (l : Link) : Except TopologyFault (LinkId × Topology) :=
  match t.linkFault? l with
  | some fault => .error fault
  | none => .ok (t.links.length, { t with links := t.links ++ [l] })

/-- Declares a domain of existing nodes, replacing one of the same name. -/
def addDomain (t : Topology) (name : String) (members : List String) :
    Except TopologyFault Topology :=
  let set := KeySet.ofList members
  match set.toList.find? (fun m => !t.hasNode m) with
  | some unknown => .error (.unknownMember name unknown)
  | none => .ok { t with domains := t.domains.insert name set }

/-- The scope of an optional domain name. -/
def scope (t : Topology) : Option String → Except TopologyFault Scope
  | none => .ok .all
  | some name =>
    match t.domains.get? name with
    | some members => .ok (.domain name members)
    | none => .error (.unknownDomain name)

def link? (t : Topology) (id : LinkId) : Option Link := t.links[id]?

/-- The links with their ids. -/
def numberedLinks (t : Topology) : List (LinkId × Link) := t.links.zipIdx.map (fun e => (e.2, e.1))

/-- Trunk or cross-connect, for an optical link. -/
def opticalKind? (t : Topology) (l : Link) : Option OpticalKind :=
  if l.isOptical then t.classify? l else none

/-- The port that a link makes on one of its nodes. A ROADM reports the speed of its own end, a
packet switch that of the far end, so that both ends of a cross-connect report the ROADM's. -/
def portOf (t : Topology) (this : Node) (own far : Endpoint) (l : Link) : Port :=
  match t.opticalKind? l with
  | some kind =>
    { port := own.port
      speed := if this.isRoadm then own.speed else far.speed
      kind := match kind with
        | .crossConnect => .och
        | .trunk => .oms }
  | none => { port := own.port, speed := 0, kind := .copper }

/-- The port on a node that a link makes, if it touches the node. -/
def portOn? (t : Topology) (this : Node) (l : Link) : Option Port :=
  match l.endpointOn? this.name, l.farEnd? this.name with
  | some own, some far => some (t.portOf this own far l)
  | _, _ => none

/-- The ports of a node by ascending number. -/
def ports (t : Topology) (name : String) : List Port :=
  match t.node? name with
  | none => []
  | some this =>
    (Dict.ofList ((t.links.filterMap (t.portOn? this)).map (fun p => (p.port, p)))).values

/-- Every cross-connect. -/
def crossConnects (t : Topology) : List LinkId :=
  (t.numberedLinks.filter (fun e => t.opticalKind? e.2 = some .crossConnect)).map (·.1)

/-- The cross-connects that touch a node. -/
def crossConnectsOf (t : Topology) (name : String) : List LinkId :=
  t.crossConnects.filter (fun id => ((t.link? id).bind (·.endpointOn? name)).isSome)

/-- The ROADM's end and the packet switch's end of a cross-connect. -/
def crossConnectEnds? (t : Topology) (id : LinkId) : Option (Endpoint × Endpoint) :=
  match t.link? id with
  | none => none
  | some l =>
    if t.opticalKind? l = some .crossConnect then
      match t.node? l.a.node with
      | some a => if a.isRoadm then some (l.a, l.b) else some (l.b, l.a)
      | none => none
    else none

end Topology

end OpticalTestbed
