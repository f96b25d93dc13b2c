import OpticalTestbed.Inventory
/-!
The emulator's topology document: one entry per ROADM and one per optical link. Links name their
ends by the names that the switch entries carry, so the switch entries come first.
-/
namespace OpticalTestbed

structure SwitchConfig where
  allowed : Bool
  latitude : Json
  longitude : Json
  name : String
  nodeDpid : String
  regens : Json
  type : String

structure LinkConfig where
  allowed : Bool
  nodeDpid1 : String
  nodeDpid2 : String
  nodeName1 : String
  nodeName2 : String
  port1 : Nat
  port2 : Nat
  bandwidth : Option Json
  waves : Option Json
  type : String

structure TopoConfig where
  switches : List SwitchConfig
  links : List LinkConfig

/-- The delimited datapath id in a device or port subject. -/
def delimitedIdOf (subject : String) : String := String.ofList (delimitedId subject.toList)

/-- The name of a device that has no switch entry. -/
def unknownName : String := "none"

namespace SwitchConfig

/-- The name that a device shows in the document. -/
def shownName (d : DeviceDescriptor) : String :=
  ((d.annotations.get? "name").map Node.annotationText).getD unknownName

def ofDevice (d : DeviceDescriptor) : SwitchConfig where
  allowed := true
  latitude := d.annotations.getD "latitude" (.real (.zero false))
  longitude := d.annotations.getD "longitude" (.real (.zero false))
  name := shownName d
  nodeDpid := delimitedIdOf d.uri
  regens := d.annotations.getD "optical.regens" (.nat 0)
  type := "Roadm"

end SwitchConfig

namespace LinkConfig

/-- The port number behind the first slash of a subject. -/
def portOfSubject? (subject : String) : Except TopologyFault Nat :=
  match Text.splitOn '/' subject.toList with
  | _ :: port :: _ =>
    match Numeral.bounded? max32 port with
    | some n => .ok n
    | none => .error (.noPortNumber subject)
  | _ => .error (.noPortNumber subject)

/-- The entry of a link, whose ends are named as `names` says. -/
def ofLink? (names : Dict String String) (l : LinkDescriptor) : Except TopologyFault LinkConfig :=
  match portOfSubject? l.src with
  | .error fault => .error fault
  | .ok port1 =>
    match portOfSubject? l.dst with
    | .error fault => .error fault
    | .ok port2 =>
      let nodeDpid1 := delimitedIdOf l.src
      let nodeDpid2 := delimitedIdOf l.dst
      .ok {
        allowed := true
        nodeDpid1, nodeDpid2, port1, port2
        nodeName1 := names.getD nodeDpid1 unknownName
        nodeName2 := names.getD nodeDpid2 unknownName
        bandwidth := l.annotations.get? "bandwidth"
        waves := l.annotations.get? "optical.waves"
        type := if Link.isWdm l.annotations then "wdmLink" else "pktOptLink" }

end LinkConfig

namespace TopoConfig

/-- The switch entries of the ROADMs among the devices. -/
def switchesOf (i : Inventory) : List SwitchConfig :=
  (i.devices.filter (·.type = NodeKind.roadm.typeName)).map SwitchConfig.ofDevice

/-- The names that the switch entries give to datapath ids, added to a table. -/
def namesOf (table : Dict String String) (switches : List SwitchConfig) : Dict String String :=
  table.insertAll (switches.map (fun s => (s.nodeDpid, s.name)))

/-- One entry after another; the first link without port numbers is the fault. -/
def linksFrom (names : Dict String String) :
    List LinkDescriptor → Except TopologyFault (List LinkConfig)
  | [] => .ok []
  | l :: more =>
    match LinkConfig.ofLink? names l with
    | .error fault => .error fault
    | .ok entry =>
      match linksFrom names more with
      | .error fault => .error fault
      | .ok entries => .ok (entry :: entries)

/-- The link entries of the optical links. -/
def linksOf (i : Inventory) (names : Dict String String) : Except TopologyFault (List LinkConfig) :=
  linksFrom names (i.links.filter (·.type = LinkKind.optical.typeName))

/-- The document of the given descriptors. -/
def ofInventory? (i : Inventory) : Except TopologyFault TopoConfig :=
  let switches := switchesOf i
  match linksOf i (namesOf Dict.empty switches) with
  | .error fault => .error fault
  | .ok links => .ok ⟨switches, links⟩

end TopoConfig

section Write

def SwitchConfig.toJson (s : SwitchConfig) : Json :=
  .obj [("allowed", .bool s.allowed), ("latitude", s.latitude), ("longitude", s.longitude),
    ("name", .str s.name), ("nodeDpid", .str s.nodeDpid),
    ("params", .obj [("numregens", s.regens)]), ("type", .str s.type)]

/-- A parameter that is left out when it has no value. -/
def LinkConfig.parameter (name : String) : Option Json → List (String × Json)
  | some v => [(name, v)]
  | none => []

def LinkConfig.toJson (l : LinkConfig) : Json :=
  .obj [("allowed", .bool l.allowed), ("nodeDpid1", .str l.nodeDpid1),
    ("nodeDpid2", .str l.nodeDpid2),
    ("params", .obj ([("nodeName1", .str l.nodeName1), ("nodeName2", .str l.nodeName2),
      ("port1", .nat l.port1), ("port2", .nat l.port2)] ++
      parameter "bandwidth" l.bandwidth ++ parameter "numWaves" l.waves)),
    ("type", .str l.type)]

def TopoConfig.toJson (c : TopoConfig) : Json :=
  .obj [("switchConfig", .arr (c.switches.map (·.toJson))),
    ("linkConfig", .arr (c.links.map (·.toJson)))]

end Write

section Read

variable {ν : Type} [Source ν]

open Source

def SwitchConfig.read? (v : ν) : Option SwitchConfig := do
  let f ← fields? false [⟨"allowed", false⟩, ⟨"latitude", false⟩, ⟨"longitude", false⟩,
    ⟨"name", false⟩, ⟨"nodeDpid", false⟩, ⟨"params", false⟩, ⟨"type", false⟩] v
  let params ← required f "params" (fields? false [⟨"numregens", false⟩])
  return {
    allowed := ← required f "allowed" bool?
    latitude := ← required f "latitude" json?
    longitude := ← required f "longitude" json?
    name := ← required f "name" text?
    nodeDpid := ← required f "nodeDpid" text?
    regens := ← required params "numregens" json?
    type := ← required f "type" text? }

def LinkConfig.read? (v : ν) : Option LinkConfig := do
  let f ← fields? false [⟨"allowed", false⟩, ⟨"nodeDpid1", false⟩, ⟨"nodeDpid2", false⟩,
    ⟨"params", false⟩, ⟨"type", false⟩] v
  let params ← required f "params" (fields? false [⟨"nodeName1", false⟩, ⟨"nodeName2", false⟩,
    ⟨"port1", false⟩, ⟨"port2", false⟩, ⟨"bandwidth", true⟩, ⟨"numWaves", true⟩])
  return {
    allowed := ← required f "allowed" bool?
    nodeDpid1 := ← required f "nodeDpid1" text?
    nodeDpid2 := ← required f "nodeDpid2" text?
    nodeName1 := ← required params "nodeName1" text?
    nodeName2 := ← required params "nodeName2" text?
    port1 := ← required params "port1" (upTo? max32)
    port2 := ← required params "port2" (upTo? max32)
    bandwidth := ← optional params "bandwidth" json?
    waves := ← optional params "numWaves" json?
    type := ← required f "type" text? }

/-- Reads a document from any source of records. -/
def TopoConfig.read? (v : ν) : Option TopoConfig := do
  let f ← fields? false [⟨"switchConfig", false⟩, ⟨"linkConfig", false⟩] v
  return {
    switches := ← required f "switchConfig" (list? SwitchConfig.read?)
    links := ← required f "linkConfig" (list? LinkConfig.read?) }

end Read

end OpticalTestbed
