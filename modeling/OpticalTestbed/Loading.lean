import OpticalTestbed.Configuration
import OpticalTestbed.Topology.Description
import OpticalTestbed.Yaml.Parser
/-!
Reading the settings and the topology from files.
-/
namespace OpticalTestbed

/-- Why a file did not give what it should. -/
inductive LoadFault where
  | notOpened
  | malformed
  | unresolved (cause : Failure)
  | badConfiguration (fault : ConfigurationFault)
  | badTopology (fault : TopologyFault)

namespace Loading

/-- A record in a YAML file. -/
def record {α : Type} (read? : Yaml.Placed → Option α) (files : FileTree) (path : String) :
    Except LoadFault α :=
  if !files.canOpen path then .error .notOpened
  else match files.readText path with
    | .error _ => .error .malformed
    | .ok text =>
      match (Yaml.Node.ofText? text).bind (fun v => read? ⟨v, 0⟩) with
      | some a => .ok a
      | none => .error .malformed

def settings (files : FileTree) (path : String) : Except LoadFault Settings :=
  record Settings.read? files path

/-- The configuration that optional settings and the environment give, if it has no fault. -/
def configuration (files : FileTree) (path : Option String) (lookup : String → Option String)
    (invoker : Option String) : Except LoadFault Configuration :=
  let given := match path with
    | some path => settings files path
    | none => .ok Settings.empty
  match given with
  | .error fault => .error fault
  | .ok s =>
    match Configuration.resolve s lookup invoker files with
    | .error cause => .error (.unresolved cause)
    | .ok c =>
      match c.fault? with
      | some fault => .error (.badConfiguration fault)
      | none => .ok c

def topology (files : FileTree) (path : String) : Except LoadFault Topology :=
  match record TopologyDescription.read? files path with
  | .error fault => .error fault
  | .ok d =>
    match d.build with
    | .error fault => .error (.badTopology fault)
    | .ok t => .ok t

end Loading

end OpticalTestbed
