import OpticalTestbed.Record.Source
import OpticalTestbed.Topology.Graph
/-!
The description of a topology as it is written down, and the topology that it builds.
-/
namespace OpticalTestbed

structure SwitchDescription where
  name : String
  dpid : String
  kind : NodeKind
  mac : Option String
  manufacturer : Option String
  annotations : Annotations

structure LinkDescription where
  node1 : String
  port1 : Nat
  node2 : String
  port2 : Nat
  speed1 : Nat
  speed2 : Nat
  kind : LinkKind
  annotations : Annotations

structure TopologyDescription where
  switches : List SwitchDescription
  links : List LinkDescription
  domains : Dict String (List String)

def NodeKind.ofName? : String → Option NodeKind
  | "roadm" => some .roadm
  | "switch" => some .switch
  | _ => none

def NodeKind.name : NodeKind → String
  | roadm => "roadm"
  | switch => "switch"

def LinkKind.ofName? : String → Option LinkKind
  | "packet" => some .packet
  | "optical" => some .optical
  | _ => none

def LinkKind.name : LinkKind → String
  | packet => "packet"
  | optical => "optical"

namespace SwitchDescription

/-- The node that a description of a switch stands for. -/
def node? (s : SwitchDescription) : Except TopologyFault Node :=
  match Dpid.ofText? s.dpid with
  | .error fault => .error fault
  | .ok dpid =>
    let node := Node.new s.name dpid s.kind s.annotations
    .ok { node with
      mac := s.mac.map (fun mac =>
        String.ofList ((mac.toList.filter (· ≠ ':')).map Text.lowerAscii))
      manufacturer := s.manufacturer.getD node.manufacturer }

end SwitchDescription

namespace LinkDescription

/-- The link that a description of a link stands for. -/
def link (l : LinkDescription) : Link where
  a := ⟨l.node1, l.port1, l.speed1⟩
  b := ⟨l.node2, l.port2, l.speed2⟩
  kind := l.kind
  annotations := l.annotations

end LinkDescription

namespace TopologyDescription

def addSwitches (t : Topology) : List SwitchDescription → Except TopologyFault Topology
  | [] => .ok t
  | s :: more =>
    match s.node? with
    | .error fault => .error fault
    | .ok node =>
      match t.addNode node with
      | .error fault => .error fault
      | .ok t' => addSwitches t' more

def addLinks (t : Topology) : List LinkDescription → Except TopologyFault Topology
  | [] => .ok t
  | l :: more =>
    match t.addLink l.link with
    | .error fault => .error fault
    | .ok (_, t') => addLinks t' more

def addDomains (t : Topology) : List (String × List String) → Except TopologyFault Topology
  | [] => .ok t
  | (name, members) :: more =>
    match t.addDomain name members with
    | .error fault => .error fault
    | .ok t' => addDomains t' more

/-- Builds the topology: all switches, then all links, then the domains by name. -/
def build (d : TopologyDescription) : Except TopologyFault Topology :=
  match addSwitches Topology.empty d.switches with
  | .error fault => .error fault
  | .ok t =>
    match addLinks t d.links with
    | .error fault => .error fault
    | .ok t' => addDomains t' d.domains.entries

end TopologyDescription

section Read

variable {ν : Type} [Source ν]

open Source

def annotations? (v : ν) : Option Annotations := dict? json? v

def SwitchDescription.read? (v : ν) : Option SwitchDescription := do
  let f ← fields? false [⟨"name", false⟩, ⟨"dpid", false⟩, ⟨"kind", true⟩, ⟨"mac", true⟩,
    ⟨"manufacturer", true⟩, ⟨"annotations", true⟩] v
  return {
    name := ← required f "name" text?
    dpid := ← required f "dpid" text?
    kind := ← defaulted f "kind" (fun v => (choice? v).bind NodeKind.ofName?) .switch
    mac := ← optional f "mac" text?
    manufacturer := ← optional f "manufacturer" text?
    annotations := ← defaulted f "annotations" annotations? Dict.empty }

def LinkDescription.read? (v : ν) : Option LinkDescription := do
  let f ← fields? false [⟨"node1", false⟩, ⟨"port1", false⟩, ⟨"node2", false⟩, ⟨"port2", false⟩,
    ⟨"speed1", true⟩, ⟨"speed2", true⟩, ⟨"kind", true⟩, ⟨"annotations", true⟩] v
  return {
    node1 := ← required f "node1" text?
    port1 := ← required f "port1" (upTo? max32)
    node2 := ← required f "node2" text?
    port2 := ← required f "port2" (upTo? max32)
    speed1 := ← defaulted f "speed1" (upTo? max64) 0
    speed2 := ← defaulted f "speed2" (upTo? max64) 0
    kind := ← defaulted f "kind" (fun v => (choice? v).bind LinkKind.ofName?) .optical
    annotations := ← defaulted f "annotations" annotations? Dict.empty }

/-- Reads a description from any source of records. -/
def TopologyDescription.read? (v : ν) : Option TopologyDescription := do
  let f ← fields? false [⟨"switches", true⟩, ⟨"links", true⟩, ⟨"domains", true⟩] v
  return {
    switches := ← defaulted f "switches" (list? SwitchDescription.read?) []
    links := ← defaulted f "links" (list? LinkDescription.read?) []
    domains := ← defaulted f "domains" (dict? (list? text?)) Dict.empty }

end Read

section Write

/-- A member that is left out when it has no value. -/
def optionalMember (name : String) : Option Json → List (String × Json)
  | some v => [(name, v)]
  | none => []

/-- Annotations as a member, left out when there are none. -/
def annotationsMember (a : Annotations) : List (String × Json) :=
  if a.isEmpty then [] else [("annotations", .ofDict a)]

def SwitchDescription.toJson (s : SwitchDescription) : Json :=
  .obj ([("name", .str s.name), ("dpid", .str s.dpid), ("kind", .str s.kind.name)] ++
    optionalMember "mac" (s.mac.map .str) ++
    optionalMember "manufacturer" (s.manufacturer.map .str) ++
    annotationsMember s.annotations)

def LinkDescription.toJson (l : LinkDescription) : Json :=
  .obj ([("node1", .str l.node1), ("port1", .nat l.port1), ("node2", .str l.node2),
    ("port2", .nat l.port2), ("speed1", .nat l.speed1), ("speed2", .nat l.speed2),
    ("kind", .str l.kind.name)] ++ annotationsMember l.annotations)

def TopologyDescription.toJson (d : TopologyDescription) : Json :=
  .obj ([("switches", .arr (d.switches.map (·.toJson))),
      ("links", .arr (d.links.map (·.toJson)))] ++
    if d.domains.isEmpty then []
    else [("domains", .ofDict (d.domains.mapValues (fun _ names => .arr (names.map .str))))])

end Write

end OpticalTestbed
