import OpticalTestbed.Interfaces
import OpticalTestbed.NetworkConfig
import OpticalTestbed.SysConfig.Generation
import OpticalTestbed.TopoConfig
/-!
Both documents of a topology, made together and written to the work directory.
-/
namespace OpticalTestbed

structure Synthesis where
  inventory : Inventory
  network : NetworkConfig
  emulator : TopoConfig

/-- Where the documents of a directory lie. -/
structure DocumentPaths where
  network : String
  emulator : String
  sysConfig : String

def DocumentPaths.ofDirectory (directory : String) : DocumentPaths where
  network := Path.join directory networkFile
  emulator := Path.join directory emulatorFile
  sysConfig := Path.join directory sysConfigFile

namespace Synthesis

/-- The documents of the devices in scope. -/
def ofTopology? (t : Topology) (scope : Scope) (macOf : String → Option String) :
    Except TopologyFault Synthesis :=
  let inventory := Inventory.ofTopology t scope macOf
  match TopoConfig.ofInventory? inventory with
  | .error fault => .error fault
  | .ok emulator => .ok ⟨inventory, NetworkConfig.ofInventory inventory, emulator⟩

/-- The documents of an optional domain; MAC addresses are those of local interfaces. -/
def ofDomain (t : Topology) (domain : Option String) : Op Synthesis := fun w =>
  match t.scope domain with
  | .error fault => (.error (.invalidTopology fault), w)
  | .ok scope =>
    match ofTopology? t scope (Interfaces.macOf w.files) with
    | .error fault => (.error (.invalidTopology fault), w)
    | .ok s => (.ok s, w)

/-- Writes both documents into a directory, the controller's first. -/
def write (s : Synthesis) (directory : String) : Op DocumentPaths := do
  let paths := DocumentPaths.ofDirectory directory
  Op.writeText paths.network s.network.toJson.document
  Op.writeText paths.emulator s.emulator.toJson.document
  return paths

end Synthesis

end OpticalTestbed
