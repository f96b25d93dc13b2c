import OpticalTestbed.Poll
import OpticalTestbed.SysConfig.Controllers
import OpticalTestbed.Text.Quoted
/-!
The settings that an operator writes down. Every one of them may be left out.
-/
namespace OpticalTestbed

/-- How to log in to the controller. -/
structure Credentials where
  user : String
  password : String
  deriving DecidableEq

namespace Credentials

def standard : Credentials := ⟨"onos", "rocks"⟩

/-- The credentials as they may be shown: without the password. -/
def shown (c : Credentials) : String :=
  String.ofList ("Credentials \x7b user: ".toList ++ Text.quoted c.user.toList ++
    ", password: ".toList ++ Text.quoted "<redacted>".toList ++ " \x7d".toList)

end Credentials

structure Settings where
  controllers : List Controller
  restPort : Option Nat
  credentials : Option Credentials
  user : Option String
  onosRoot : Option String
  emulatorRoot : Option String
  generatorRoot : Option String
  workDirectory : Option String
  interfaceWait : Option PollPolicy
  deviceWait : Option PollPolicy

namespace Settings

/-- Settings that leave everything out. -/
def empty : Settings := ⟨[], none, none, none, none, none, none, none, none, none⟩

end Settings

section Read

variable {ν : Type} [Source ν]

open Source

def Controller.read? (v : ν) : Option Controller := do
  let f ← fields? false [⟨"ip", false⟩, ⟨"port", true⟩] v
  return {
    ip := ← required f "ip" text?
    port := ← defaulted f "port" (upTo? max16) defaultControllerPort }

def Credentials.read? (v : ν) : Option Credentials := do
  let f ← fields? false [⟨"user", false⟩, ⟨"password", false⟩] v
  return {
    user := ← required f "user" text?
    password := ← required f "password" text? }

/-- The fields of the settings. -/
def Settings.fieldSpecs : List FieldSpec :=
  [⟨"controllers", true⟩, ⟨"rest_port", false⟩, ⟨"credentials", false⟩, ⟨"user", false⟩,
    ⟨"onos_root", false⟩, ⟨"linc_dir", false⟩, ⟨"config_gen_dir", false⟩, ⟨"work_dir", false⟩,
    ⟨"interface_wait", false⟩, ⟨"device_wait", false⟩]

/-- Reads settings; a field that does not belong there is an error. -/
def Settings.read? (v : ν) : Option Settings := do
  let f ← fields? true fieldSpecs v
  return {
    controllers := ← defaulted f "controllers" (list? Controller.read?) []
    restPort := ← optional f "rest_port" (upTo? max16)
    credentials := ← optional f "credentials" Credentials.read?
    user := ← optional f "user" text?
    onosRoot := ← optional f "onos_root" text?
    emulatorRoot := ← optional f "linc_dir" text?
    generatorRoot := ← optional f "config_gen_dir" text?
    workDirectory := ← optional f "work_dir" text?
    interfaceWait := ← optional f "interface_wait" PollPolicy.read?
    deviceWait := ← optional f "device_wait" PollPolicy.read? }

end Read

section Write

def Controller.toJson (c : Controller) : Json := .obj [("ip", .str c.ip), ("port", .nat c.port)]

def Credentials.toJson (c : Credentials) : Json :=
  .obj [("user", .str c.user), ("password", .str c.password)]

/-- A value, or null where there is none. -/
def orNull {α : Type} (write : α → Json) : Option α → Json
  | some a => write a
  | none => .null

def Settings.toJson (s : Settings) : Json :=
  .obj [("controllers", .arr (s.controllers.map (·.toJson))),
    ("rest_port", orNull .nat s.restPort),
    ("credentials", orNull (·.toJson) s.credentials), ("user", orNull .str s.user),
    ("onos_root", orNull .str s.onosRoot), ("linc_dir", orNull .str s.emulatorRoot),
    ("config_gen_dir", orNull .str s.generatorRoot), ("work_dir", orNull .str s.workDirectory),
    ("interface_wait", orNull (·.toJson) s.interfaceWait),
    ("device_wait", orNull (·.toJson) s.deviceWait)]

end Write

end OpticalTestbed
