import OpticalTestbed.Home
import OpticalTestbed.Settings
/-!
The settings with everything filled in that they leave out, the faults such a configuration can
have, and the installations it names.
-/
namespace OpticalTestbed

/-- The installations that a bring-up needs. -/
structure Installation where
  onosRoot : String
  emulatorRoot : String
  generatorRoot : String

structure Configuration where
  controllers : List Controller
  restPort : Nat
  credentials : Credentials
  user : String
  onosRoot : Option String
  emulatorRoot : Option String
  generatorRoot : Option String
  workDirectory : String
  interfaceWait : PollPolicy
  deviceWait : PollPolicy

/-- What is wrong with a configuration. -/
inductive ConfigurationFault where
  | noController
  | emptyAddress
  | portZero (ip : String)
  | listedTwice (ip : String) (port : Nat)
  | zeroInterval (wait : String)
  | shortTimeout (wait : String)
  deriving DecidableEq

namespace ConfigurationFault

/-- Whether the fault is about a wait and not about a controller. -/
def isAboutWait : ConfigurationFault → Bool
  | zeroInterval _ | shortTimeout _ => true
  | _ => false

def reason : ConfigurationFault → String
  | noController => "at least one controller is required"
  | emptyAddress => "controller ip is empty"
  | portZero ip => "controller " ++ ip ++ " has port 0"
  | listedTwice ip port => "controller " ++ ip ++ ":" ++ decimalText port ++ " listed twice"
  | zeroInterval wait => wait ++ " interval must be non-zero"
  | shortTimeout wait => wait ++ " timeout is shorter than its interval"

def message (f : ConfigurationFault) : String :=
  (if f.isAboutWait then "Invalid wait policy: " else "Invalid controller configuration: ") ++
    f.reason

end ConfigurationFault

namespace Configuration

/-- The port of the controller's web service when none is given. -/
def standardRestPort : Nat := 8181

/-- The credentials in the environment, each part with its standard value. -/
def credentialsOf (lookup : String → Option String) : Credentials where
  user := (lookup "ONOS_WEB_USER").getD Credentials.standard.user
  password := (lookup "ONOS_WEB_PASS").getD Credentials.standard.password

/-- A directory under a home directory, if it is there. -/
def searched? (files : FileTree) (home name : String) : Option String :=
  match Home.find files home name with
  | .ok path => some path
  | .error _ => none

/-- Fills in what the settings leave out: from the environment, then from the home directory of the
user, who is the invoking one unless the settings name another. -/
def resolve (s : Settings) (lookup : String → Option String) (invoker : Option String)
    (files : FileTree) : Except Failure Configuration :=
  match s.user.or invoker with
  | none => .error (.configurationMissing "user" Home.noUserText)
  | some user =>
    let home := Home.directory user
    .ok {
      controllers := s.controllers
      restPort := s.restPort.getD standardRestPort
      credentials := s.credentials.getD (credentialsOf lookup)
      user := user
      onosRoot := (s.onosRoot.or ((lookup "ONOS_ROOT").filter (!·.isEmpty))).or
        (searched? files home "onos")
      emulatorRoot := s.emulatorRoot.or (searched? files home "linc-oe")
      generatorRoot := s.generatorRoot.or (searched? files home "LINC-config-generator")
      workDirectory := s.workDirectory.getD "."
      interfaceWait := s.interfaceWait.getD .standard
      deviceWait := s.deviceWait.getD .standard }

/-- The first fault in a list of controllers, given those before it. -/
def controllerFault? (seen : List Controller) : List Controller → Option ConfigurationFault
  | [] => none
  | c :: more =>
    if (trimmed c.ip).isEmpty then some .emptyAddress
    else if c.port = 0 then some (.portZero c.ip)
    else if c ∈ seen then some (.listedTwice c.ip c.port)
    else controllerFault? (c :: seen) more

def policyFault? (wait : String) (p : PollPolicy) : Option ConfigurationFault :=
  if p.interval.nanos = 0 then some (.zeroInterval wait)
  else if p.timeout.nanos < p.interval.nanos then some (.shortTimeout wait)
  else none

/-- The first fault: controllers are looked at before waits. -/
def fault? (c : Configuration) : Option ConfigurationFault :=
  if c.controllers.isEmpty then some .noController
  else
    (controllerFault? [] c.controllers).or
      ((policyFault? "interface_wait" c.interfaceWait).or
        (policyFault? "device_wait" c.deviceWait))

/-- The installations, or the first one that is missing. -/
def installation (c : Configuration) : Except Failure Installation :=
  match c.onosRoot, c.emulatorRoot, c.generatorRoot with
  | none, _, _ => .error (.configurationMissing "ONOS" "set ONOS_ROOT or onos_root")
  | _, none, _ => .error (.configurationMissing "LINC-OE"
      "install linc-oe in the user's home or set linc_dir")
  | _, _, none => .error (.configurationMissing "LINC config generator"
      "install LINC-config-generator in the user's home or set config_gen_dir")
  | some onos, some emulator, some generator => .ok ⟨onos, emulator, generator⟩

end Configuration

end OpticalTestbed
