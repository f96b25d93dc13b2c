import OpticalTestbed.SysConfig.Taps
import OpticalTestbed.World
/-!
Network interfaces of the emulation host: which there are, their addresses, and the taps that are
created and brought up for the emulator.
-/
namespace OpticalTestbed.Interfaces

/-- The interface that a line of `ip -o link show` is about: what stands between the first two
colons, up to an at sign. -/
def nameOfLine? (line : List Char) : Option (List Char) :=
  match Text.splitOn ':' line with
  | _ :: second :: _ =>
    let name := (Text.trim second).takeWhile (· ≠ '@')
    if name.isEmpty then none else some name
  | _ => none

/-- The interfaces that `ip -o link show` lists. -/
def names (output : String) : List String :=
  ((Text.lines output.toList).filterMap nameOfLine?).map String.ofList

/-- Whether an interface is named like a tap. -/
def isTap (name : String) : Bool := Text.startsWith SysConfig.tapWord name.toList

/-- How many of the listed interfaces are taps. -/
def countTaps (output : String) : Nat := ((names output).filter isTap).length

/-- The file that holds the MAC address of an interface. -/
def addressFile (name : String) : String :=
  Path.join (Path.join "/sys/class/net" name) "address"

/-- The MAC address of an interface, without colons. -/
def macOf (files : FileTree) (name : String) : Option String :=
  match files.readText (addressFile name) with
  | .ok text => some (String.ofList ((Text.trim text.toList).filter (· ≠ ':')))
  | .error _ => none

/-- A call of `ip`. -/
def ip (args : List String) : Invocation := ⟨"ip", args, none⟩

def showCall : Invocation := ip ["-o", "link", "show"]

def addCall (name : String) : Invocation := ip ["tuntap", "add", "dev", name, "mode", "tap"]

def upCall (name : String) : Invocation := ip ["link", "set", "dev", name, "up"]

/-- The interfaces that there are right now. -/
def present (o : Outside) : Op (KeySet String) := do
  return KeySet.ofList (names (← o.call showCall))

/-- How many taps there are right now. -/
def countPresent (o : Outside) : Op Nat := do
  return ((← present o).toList.filter isTap).length

/-- Creates a tap unless it is among those present, and brings it up. What the programs print does
not matter. -/
def ensureAmong (o : Outside) (there : KeySet String) (name : String) : Op Unit := do
  if !Dict.contains there name then
    let _ ← o.call (addCall name)
  let _ ← o.call (upCall name)

/-- Makes sure that a tap exists and is up. -/
def ensure (o : Outside) (name : String) : Op Unit := do
  ensureAmong o (← present o) name

/-- Goes through some taps; the number of those that were not there. -/
def ensureEach (o : Outside) (there : KeySet String) : List String → Op Nat
  | [] => pure 0
  | name :: more => do
    ensureAmong o there name
    let created ← ensureEach o there more
    return if Dict.contains there name then created else created + 1

/-- Makes sure that all of some taps exist and are up; the number of those that did not exist. -/
def ensureAll (o : Outside) (taps : List String) : Op Nat := do
  ensureEach o (← present o) taps

end OpticalTestbed.Interfaces
