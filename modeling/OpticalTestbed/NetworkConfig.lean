import OpticalTestbed.Inventory
/-!
The controller's network configuration: properties of devices, ports and links, each under the
subject that names it.
-/
namespace OpticalTestbed

structure NetworkConfig where
  /-- The basic properties of a device, by its URI. -/
  devices : Dict String (Dict String Json)
  /-- The optical port behind a subject `uri/port`. -/
  ports : Dict String Port
  /-- The basic properties of a link, by its subject `src-dst`. -/
  links : Dict String (Dict String Json)

namespace NetworkConfig

/-- The basic properties of a device: four fixed ones, and its annotations laid over them. -/
def deviceBasics (d : DeviceDescriptor) : Dict String Json :=
  (Dict.ofList [("driver", .str d.hardware), ("mfr", .str d.manufacturer), ("mac", .str d.mac),
    ("type", .str d.type)]).insertAll d.annotations.entries

/-- The basic properties of a link: its type, and its annotations laid over that. -/
def linkBasics (l : LinkDescriptor) : Dict String Json :=
  (Dict.ofList [("type", .str l.type)]).insertAll l.annotations.entries

/-- The subject of a link. -/
def linkSubject (l : LinkDescriptor) : String := l.src ++ "-" ++ l.dst

/-- The document of the given descriptors. -/
def ofInventory (i : Inventory) : NetworkConfig where
  devices := Dict.ofList (i.devices.map (fun d => (d.uri, deviceBasics d)))
  ports := Dict.ofList
    (i.devices.flatMap (fun d => d.ports.map (fun p => (portSubject d.uri p.port, p))))
  links := Dict.ofList (i.links.map (fun l => (linkSubject l, linkBasics l)))

/-- The document that carries links and nothing else. -/
def linksOnly (links : List LinkDescriptor) : NetworkConfig := ofInventory ⟨[], links⟩

/-- The subjects of a link's ends, read from the link's subject. -/
def endsOfSubject? (subject : String) : Option (String × String) :=
  (Text.cutAt? ['-'] subject.toList).map (fun e => (String.ofList e.1, String.ofList e.2))

/-- The ends of every link of the document. -/
def linkEndpoints (c : NetworkConfig) : List (String × String) :=
  c.links.keys.filterMap endsOfSubject?

def basicToJson (d : Dict String Json) : Json := .obj [("basic", .ofDict d)]

def opticalToJson (p : Port) : Json := .obj [("optical", p.toJson)]

def toJson (c : NetworkConfig) : Json :=
  .obj [("devices", .ofDict (c.devices.mapValues (fun _ d => basicToJson d))),
    ("ports", .ofDict (c.ports.mapValues (fun _ p => opticalToJson p))),
    ("links", .ofDict (c.links.mapValues (fun _ d => basicToJson d)))]

section Read

variable {ν : Type} [Source ν]

open Source

def basic? (v : ν) : Option (Dict String Json) := do
  let f ← fields? false [⟨"basic", false⟩] v
  required f "basic" (dict? json?)

def optical? (v : ν) : Option Port := do
  let f ← fields? false [⟨"optical", false⟩] v
  required f "optical" Port.read?

/-- Reads a document; a missing section is an empty one. -/
def read? (v : ν) : Option NetworkConfig := do
  let f ← fields? false [⟨"devices", true⟩, ⟨"ports", true⟩, ⟨"links", true⟩] v
  return {
    devices := ← defaulted f "devices" (dict? basic?) Dict.empty
    ports := ← defaulted f "ports" (dict? optical?) Dict.empty
    links := ← defaulted f "links" (dict? basic?) Dict.empty }

end Read

end NetworkConfig

end OpticalTestbed
