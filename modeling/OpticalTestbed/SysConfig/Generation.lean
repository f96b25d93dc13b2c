import OpticalTestbed.SysConfig.Controllers
import OpticalTestbed.World
/-!
The startup configuration: an outside generator makes it from the emulator document in the work
directory, and the controller list is put right afterwards.
-/
namespace OpticalTestbed

/-- The names of the documents in the work directory. -/
def networkFile : String := "Topology.json"
def emulatorFile : String := "TopoConfig.json"
def sysConfigFile : String := "sys.config"
def crossConnectFile : String := "crossConnect.json"

namespace SysConfig

/-- The generator's call for the first controller, in the work directory. -/
def generatorCall (generator work : String) (first : Controller) : Invocation where
  program := Path.join generator "config_generator"
  args := [emulatorFile, Path.join generator "sys.config.template", first.ip,
    decimalText first.port]
  directory := some work

/-- Makes `sys.config` in the work directory and lists all controllers in it; its path. The
generator has failed if it prints anything but blanks. -/
def generate (o : Outside) (generator work : String) : List Controller → Op String
  | [] => Op.fail (.configurationMissing "controller" "at least one controller address is required")
  | first :: more => do
    let output := trimmed (← o.call (generatorCall generator work first))
    if !output.isEmpty then Op.fail (.synthesisFailure output)
    else
      let path := Path.join work sysConfigFile
      let text ← Op.readText path
      Op.writeText path (patchControllers text (first :: more))
      return path

end SysConfig

end OpticalTestbed
