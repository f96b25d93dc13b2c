import OpticalTestbed.Dpid
import OpticalTestbed.Json.Printer
/-!
The parts of an optical topology: nodes, links between their ports, and the ports that a
controller sees.
-/
namespace OpticalTestbed

/-- Free-form properties of a node or a link, passed through to the controller. -/
abbrev Annotations : Type := Dict String Json

/-- What kind of device a node stands for. -/
inductive NodeKind where
  /-- A reconfigurable optical add/drop multiplexer, which is emulated. -/
  | roadm
  /-- A plain packet switch. -/
  | switch
  deriving DecidableEq

namespace NodeKind

/-- The device type in the controller document. -/
def typeName : NodeKind → String
  | roadm => "ROADM"
  | switch => "SWITCH"

/-- The driver in the controller document. -/
def hardware : NodeKind → String
  | roadm => "LINC-OE"
  | switch => "PK"

end NodeKind

/-- What a port is used for, by the link on it. -/
inductive PortKind where
  | copper
  /-- An optical channel, facing a packet switch. -/
  | och
  /-- An optical multiplex section, on a trunk. -/
  | oms
  deriving DecidableEq

def PortKind.typeName : PortKind → String
  | copper => "COPPER"
  | och => "OCH"
  | oms => "OMS"

inductive LinkKind where
  | packet
  | optical
  deriving DecidableEq

/-- The link type in both documents. -/
def LinkKind.typeName : LinkKind → String
  | packet => "PACKET"
  | optical => "OPTICAL"

/-- How many ends of an optical link are ROADMs: two on a trunk, one on a cross-connect. -/
inductive OpticalKind where
  | trunk
  | crossConnect
  deriving DecidableEq

structure Node where
  name : String
  dpid : Dpid
  kind : NodeKind
  manufacturer : String
  /-- The MAC address, twelve digits without delimiters, if it was given. -/
  mac : Option String
  annotations : Annotations

namespace Node

/-- The text of an annotation: a text stands for itself, any other value for its JSON form. -/
def annotationText : Json → String
  | .str s => s
  | v => v.text

/-- A node with default manufacturer; its `name` annotation defaults to its name. -/
def new (name : String) (dpid : Dpid) (kind : NodeKind) (annotations : Annotations) : Node where
  name := name
  dpid := dpid
  kind := kind
  manufacturer := "Linc"
  mac := none
  annotations :=
    if annotations.contains "name" then annotations else annotations.insert "name" (.str name)

def isRoadm (n : Node) : Bool := n.kind = .roadm

/-- The name by which the documents show the node. -/
def displayName (n : Node) : String := ((n.annotations.get? "name").map annotationText).getD n.name

end Node

/-- One side of a link. -/
structure Endpoint where
  node : String
  port : Nat
  speed : Nat
  deriving DecidableEq

/-- A link between two endpoints; neither comes first by meaning. -/
structure Link where
  a : Endpoint
  b : Endpoint
  kind : LinkKind
  annotations : Annotations

namespace Link

def isOptical (l : Link) : Bool := l.kind = .optical

/-- The endpoint on a node, if the link touches it. -/
def endpointOn? (l : Link) (node : String) : Option Endpoint :=
  if l.a.node = node then some l.a
  else if l.b.node = node then some l.b
  else none

/-- The endpoint opposite a node. -/
def farEnd? (l : Link) (node : String) : Option Endpoint :=
  if l.a.node = node then some l.b
  else if l.b.node = node then some l.a
  else none

/-- Whether the annotations mark the link as a wavelength-division trunk. -/
def isWdm (annotations : Annotations) : Bool :=
  match annotations.get? "optical.type" with
  | some (.str t) => t = "WDM"
  | _ => false

end Link

/-- A port as the controller sees it. -/
structure Port where
  port : Nat
  speed : Nat
  kind : PortKind
  deriving DecidableEq

/-- The position of a link in its topology. -/
abbrev LinkId : Type := Nat

def LinkId.text (id : LinkId) : String := "link#" ++ decimalText id

end OpticalTestbed
