import OpticalTestbed.BringUp.Operations
import OpticalTestbed.CommandLine.Arguments
import OpticalTestbed.HostAddress
import OpticalTestbed.Loading
/-!
The commands of the program, each as a function of its arguments, the environment and the world.
-/
namespace OpticalTestbed.CommandLine

/-- What a command needs of its surroundings. -/
structure Context where
  lookup : String → Option String
  /-- What the program that tells the user's name prints. -/
  whoami : Option ByteArray
  /-- The outside parties, given the address of the controller's device list. -/
  outside : (address : String) → Outside

namespace Context

/-- The user who invoked the program. -/
def invoker (x : Context) : Option String := Home.user? x.lookup x.whoami

/-- The outside parties of a configuration, whose first controller is asked for devices. -/
def outsideOf (x : Context) (c : Configuration) : Outside :=
  x.outside (match c.controllers with
    | first :: _ => deviceListAddress first.ip c.restPort
    | [] => "")

end Context

/-- How a command ends: with an exit code and what it prints. -/
structure Ending where
  code : Nat
  output : String

def Ending.success : Ending := ⟨0, ""⟩

/-- The command could not do what it should. -/
def Ending.failure : Ending := ⟨1, ""⟩

/-- The arguments are wrong. -/
def Ending.misuse : Ending := ⟨2, ""⟩

def ofAnswer {α : Type} : Except Failure α → Ending
  | .ok _ => .success
  | .error _ => .failure

/-- Writes the documents of a topology into a directory, which is made if it is missing. -/
def synth (topologyPath : String) (domain : Option String) (output : String) (w : World) :
    Ending × World :=
  match Loading.topology w.files topologyPath with
  | .error _ => (.failure, w)
  | .ok t =>
    match w.files.createDirectories output with
    | (.error _, files) => (.failure, { w with files := files })
    | (.ok _, files) =>
      let work : Op DocumentPaths := do (← Synthesis.ofDomain t domain).write output
      let (answer, w) := work { w with files := files }
      (ofAnswer answer, w)

/-- The configuration and the topology that the other commands start from. -/
def loaded? (x : Context) (config : Option String) (topologyPath : String) (files : FileTree) :
    Option (Configuration × Topology) :=
  match Loading.configuration files config x.lookup x.invoker with
  | .error _ => none
  | .ok c =>
    match Loading.topology files topologyPath with
    | .error _ => none
    | .ok t => some (c, t)

/-- Brings a testbed up; unless it is to be left running, it is taken down again as soon as the
standard input ends. A bring-up that fails is cleaned up after. -/
def up (x : Context) (config : Option String) (topologyPath : String) (domain : Option String)
    (detach : Bool) (w : World) : Ending × World :=
  match loaded? x config topologyPath w.files with
  | none => (.failure, w)
  | some (c, t) =>
    let o := x.outsideOf c
    match Testbed.of? c t domain with
    | .error _ => (.failure, w)
    | .ok bed =>
      match (BringUp.fresh t).start o bed w with
      | (.error _, b, w) => (.failure, (b.stop o bed w).2.2)
      | (.ok _, b, w) =>
        if detach then (.success, w)
        else
          let (answer, _, w) := b.stop o bed w
          (ofAnswer answer, w)

/-- Takes down what an earlier bring-up left running. -/
def down (x : Context) (config : Option String) (topologyPath : String) (w : World) :
    Ending × World :=
  match loaded? x config topologyPath w.files with
  | none => (.failure, w)
  | some (c, t) =>
    let o := x.outsideOf c
    match Testbed.of? c t none with
    | .error _ => (.failure, w)
    | .ok bed =>
      let (_, b, w) := (BringUp.fresh t).rediscover bed w
      let (answer, _, w) := b.stop o bed w
      (ofAnswer answer, w)

/-- The `sys.config` of the installation that settings and environment name. -/
def installedSysConfig? (x : Context) (config : Option String) (files : FileTree) :
    Option String := do
  let s ← match config with
    | some path => (Loading.settings files path).toOption
    | none => some Settings.empty
  let c ← (Configuration.resolve s x.lookup x.invoker files).toOption
  let root ← c.emulatorRoot
  return (Release.ofUser root c.user).sysConfig

/-- Prints the tap behind a port of a ROADM. -/
def findTap (x : Context) (config : Option String) (dpid : String) (port : Nat)
    (path : Option String) (w : World) : Ending × World :=
  let found : Option String := do
    let d ← (Dpid.ofText? dpid).toOption
    let path ← path.or (installedSysConfig? x config w.files)
    let text ← (w.files.readText path).toOption
    (SysConfig.tapOf text d.text port).toOption
  match found with
  | some tap => (⟨0, tap ++ "\n"⟩, w)
  | none => (.failure, w)

/-- Waits until the controller reports every device of a topology as available. -/
def waitDevices (x : Context) (config : Option String) (topologyPath : String)
    (domain : Option String) (w : World) : Ending × World :=
  match loaded? x config topologyPath w.files with
  | none => (.failure, w)
  | some (c, t) =>
    match t.scope domain with
    | .error _ => (.failure, w)
    | .ok scope =>
      let expected := KeySet.ofList (Inventory.ofTopology t scope (fun _ => none)).deviceUris
      let (answer, w) := Waiting.forDevices (x.outsideOf c) c.deviceWait expected w
      (ofAnswer answer, w)

/-- Runs the program with some arguments. -/
def run (x : Context) (args : List String) (w : World) : Ending × World :=
  match parse args with
  | .help => (.success, w)
  | .wrong => (.misuse, w)
  | .command name values =>
    let config := valueOf? values "config"
    let topology := (valueOf? values "topology").getD ""
    let domain := valueOf? values "domain"
    match name with
    | "synth" => synth topology domain ((valueOf? values "output").getD ".") w
    | "up" => up x config topology domain (valueOf? values "detach").isSome w
    | "down" => down x config topology w
    | "find-tap" =>
      findTap x config ((valueOf? values "dpid").getD "")
        ((Numeral.bounded? max32 ((valueOf? values "port").getD "").toList).getD 0)
        (valueOf? values "sys-config") w
    | _ => waitDevices x config topology domain w

end OpticalTestbed.CommandLine
