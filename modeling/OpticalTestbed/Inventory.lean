import OpticalTestbed.Record.Source
import OpticalTestbed.Topology.Graph
/-!
Descriptors of the devices in a scope and of every optical link: the common source of the
controller document and the emulator document.
-/
namespace OpticalTestbed

structure DeviceDescriptor where
  uri : String
  mac : String
  hardware : String
  manufacturer : String
  type : String
  annotations : Annotations
  ports : List Port

/-- A link by the subjects `uri/port` of its ends. -/
structure LinkDescriptor where
  src : String
  dst : String
  type : String
  annotations : Annotations

structure Inventory where
  devices : List DeviceDescriptor
  links : List LinkDescriptor

/-- The subject of a port: the device URI and the port number. -/
def portSubject (uri : String) (port : Nat) : String := uri ++ "/" ++ decimalText port

/-- The MAC address of an emulated ROADM: twelve times `f` and the last octet of its id. -/
def roadmMac (d : Dpid) : String := "ffffffffffff" ++ String.ofList (d.digits.drop 14)

/-- The descriptor of a node. A packet switch without a MAC address of its own has the one that
`macOf` finds under its name, or none. -/
def DeviceDescriptor.ofNode (t : Topology) (macOf : String → Option String) (n : Node) :
    DeviceDescriptor where
  uri := n.dpid.uri
  mac := match n.mac, n.kind with
    | some mac, _ => mac
    | none, .roadm => roadmMac n.dpid
    | none, .switch => (macOf n.name).getD ""
  hardware := n.kind.hardware
  manufacturer := n.manufacturer
  type := n.kind.typeName
  annotations := n.annotations
  ports := t.ports n.name

/-- The descriptor of a link, unless an end is not in the topology. -/
def LinkDescriptor.ofLink? (t : Topology) (l : Link) : Option LinkDescriptor :=
  match t.node? l.a.node, t.node? l.b.node with
  | some src, some dst => some {
      src := portSubject src.dpid.uri l.a.port
      dst := portSubject dst.dpid.uri l.b.port
      type := l.kind.typeName
      annotations := l.annotations }
  | _, _ => none

namespace Inventory

/-- The devices in scope and all optical links, in the order of the topology. Links are not
restricted, because the emulator carries the whole optical graph. -/
def ofTopology (t : Topology) (scope : Scope) (macOf : String → Option String) : Inventory where
  devices := (t.nodes.filter (fun n => scope.contains n.name)).map (DeviceDescriptor.ofNode t macOf)
  links := (t.links.filter (·.isOptical)).filterMap (LinkDescriptor.ofLink? t)

/-- The devices that the controller has to report as available. -/
def deviceUris (i : Inventory) : List String := i.devices.map (·.uri)

end Inventory

section Read

variable {ν : Type} [Source ν]

open Source

def PortKind.ofName? : String → Option PortKind
  | "COPPER" => some .copper
  | "OCH" => some .och
  | "OMS" => some .oms
  | _ => none

def Port.read? (v : ν) : Option Port := do
  let f ← fields? false [⟨"port", false⟩, ⟨"speed", false⟩, ⟨"type", false⟩] v
  return {
    port := ← required f "port" (upTo? max32)
    speed := ← required f "speed" (upTo? max64)
    kind := ← required f "type" (fun v => (choice? v).bind PortKind.ofName?) }

def Port.toJson (p : Port) : Json :=
  .obj [("port", .nat p.port), ("speed", .nat p.speed), ("type", .str p.kind.typeName)]

def DeviceDescriptor.read? (v : ν) : Option DeviceDescriptor := do
  let f ← fields? false [⟨"uri", false⟩, ⟨"mac", false⟩, ⟨"hw", false⟩, ⟨"mfr", false⟩,
    ⟨"type", false⟩, ⟨"annotations", false⟩, ⟨"ports", false⟩] v
  return {
    uri := ← required f "uri" text?
    mac := ← required f "mac" text?
    hardware := ← required f "hw" text?
    manufacturer := ← required f "mfr" text?
    type := ← required f "type" text?
    annotations := ← required f "annotations" (dict? json?)
    ports := ← required f "ports" (list? Port.read?) }

def LinkDescriptor.read? (v : ν) : Option LinkDescriptor := do
  let f ← fields? false [⟨"src", false⟩, ⟨"dst", false⟩, ⟨"type", false⟩, ⟨"annotations", false⟩] v
  return {
    src := ← required f "src" text?
    dst := ← required f "dst" text?
    type := ← required f "type" text?
    annotations := ← required f "annotations" (dict? json?) }

/-- Reads descriptors from any source of records. -/
def Inventory.read? (v : ν) : Option Inventory := do
  let f ← fields? false [⟨"devices", false⟩, ⟨"links", false⟩] v
  return {
    devices := ← required f "devices" (list? DeviceDescriptor.read?)
    links := ← required f "links" (list? LinkDescriptor.read?) }

end Read

def DeviceDescriptor.toJson (d : DeviceDescriptor) : Json :=
  .obj [("uri", .str d.uri), ("mac", .str d.mac), ("hw", .str d.hardware),
    ("mfr", .str d.manufacturer), ("type", .str d.type), ("annotations", .ofDict d.annotations),
    ("ports", .arr (d.ports.map (·.toJson)))]

def LinkDescriptor.toJson (l : LinkDescriptor) : Json :=
  .obj [("src", .str l.src), ("dst", .str l.dst), ("type", .str l.type),
    ("annotations", .ofDict l.annotations)]

def Inventory.toJson (i : Inventory) : Json :=
  .obj [("devices", .arr (i.devices.map (·.toJson))), ("links", .arr (i.links.map (·.toJson)))]

end OpticalTestbed
