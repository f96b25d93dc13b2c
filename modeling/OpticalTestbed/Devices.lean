import OpticalTestbed.Record.Source
/-!
What the controller reports about its devices, and whether that covers the devices that are
expected.
-/
namespace OpticalTestbed

structure DeviceStatus where
  id : String
  available : Bool
  deriving DecidableEq

structure DeviceList where
  devices : List DeviceStatus
  deriving DecidableEq

/-- The outcome of comparing one report with the expected devices. -/
inductive Readiness where
  | ready
  /-- Fewer devices are reported than expected. -/
  | registering (reported expected : Nat)
  /-- Expected devices that are missing or not available, in ascending order. -/
  | unavailable (pending : List String)
  deriving DecidableEq

namespace Readiness

def isReady : Readiness → Bool
  | ready => true
  | _ => false

def text : Readiness → String
  | ready => "ready"
  | registering reported expected =>
    decimalText reported ++ " of " ++ decimalText expected ++ " devices registered"
  | unavailable pending => "waiting for " ++ joined ", " pending

end Readiness

namespace DeviceList

/-- Whether a device is reported as available. -/
def hasAvailable (r : DeviceList) (id : String) : Bool :=
  r.devices.any (fun d => d.id = id && d.available)

/-- Compares the report with the expected devices: first by number, then one by one. -/
def check (expected : KeySet String) (r : DeviceList) : Readiness :=
  if r.devices.length < Dict.size expected then
    .registering r.devices.length (Dict.size expected)
  else match expected.toList.filter (fun id => !r.hasAvailable id) with
    | [] => .ready
    | pending => .unavailable pending

end DeviceList

section Read

variable {ν : Type} [Source ν]

open Source

def DeviceStatus.read? (v : ν) : Option DeviceStatus := do
  let f ← fields? false [⟨"id", false⟩, ⟨"available", true⟩] v
  return {
    id := ← required f "id" text?
    available := ← defaulted f "available" bool? false }

def DeviceList.read? (v : ν) : Option DeviceList := do
  let f ← fields? false [⟨"devices", true⟩] v
  return { devices := ← defaulted f "devices" (list? DeviceStatus.read?) [] }

end Read

def DeviceStatus.toJson (d : DeviceStatus) : Json :=
  .obj [("id", .str d.id), ("available", .bool d.available)]

def DeviceList.toJson (r : DeviceList) : Json :=
  .obj [("devices", .arr (r.devices.map (·.toJson)))]

end OpticalTestbed
