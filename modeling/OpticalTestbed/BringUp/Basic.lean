import OpticalTestbed.Bindings
import OpticalTestbed.Configuration
import OpticalTestbed.Release
import OpticalTestbed.SysConfig.SwitchIds
import OpticalTestbed.Synthesis
/-!
The state of a bring-up and what it works with.
-/
namespace OpticalTestbed

/-- Where a bring-up is. -/
inductive Phase where
  | idle
  | synthesizing
  | starting
  | waitingForInterfaces
  | binding
  | waitingForControllerSync
  | running
  | stopping
  deriving DecidableEq

def Phase.text : Phase → String
  | idle => "idle"
  | synthesizing => "synthesizing"
  | starting => "starting"
  | waitingForInterfaces => "waiting for interfaces"
  | binding => "binding"
  | waitingForControllerSync => "waiting for controller sync"
  | running => "running"
  | stopping => "stopping"

/-- What a bring-up works with, and what stays the same throughout. -/
structure Testbed where
  configuration : Configuration
  installation : Installation
  topology : Topology
  /-- The domain whose devices belong to the controller; all devices if there is none. -/
  domain : Option String
  release : Release

namespace Testbed

/-- A testbed whose installations are all there. -/
def of? (c : Configuration) (t : Topology) (domain : Option String) : Except Failure Testbed :=
  match c.installation with
  | .error e => .error e
  | .ok installation =>
    .ok ⟨c, installation, t, domain, Release.ofUser installation.emulatorRoot c.user⟩

end Testbed

/-- What a bring-up has come to so far. -/
structure BringUp where
  phase : Phase
  bindings : Bindings
  switchIds : SwitchIds
  synthesis : Option Synthesis

namespace BringUp

/-- Nothing done yet. -/
def fresh (t : Topology) : BringUp := ⟨.idle, Bindings.ofTopology t, SwitchIds.empty, none⟩

/-- The devices that the controller has to report as available. -/
def expectedDevices (b : BringUp) : KeySet String :=
  KeySet.ofList ((b.synthesis.map (·.inventory.deviceUris)).getD [])

end BringUp

/-- What came of a bring-up that was not broken off. -/
structure BringUpReport where
  /-- How many cross-connects have a tap bound. -/
  bound : Nat
  warnings : List Failure
  /-- Whether anything went wrong. -/
  degraded : Bool

end OpticalTestbed
