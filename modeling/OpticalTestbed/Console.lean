import OpticalTestbed.Release
import OpticalTestbed.World
/-!
The console of the running emulator: commands go into one pipe, and what the emulator prints comes
out of another.
-/
namespace OpticalTestbed

/-- What the console understands. Switches go by the numbers that `sys.config` gives them. -/
inductive ConsoleCommand where
  | startSwitch (switch : Nat)
  | stopSwitch (switch : Nat)
  | portUp (switch port : Nat)
  | portDown (switch port : Nat)
  deriving DecidableEq

namespace ConsoleCommand

def text : ConsoleCommand → String
  | startSwitch n => "linc:start_switch(" ++ decimalText n ++ ")."
  | stopSwitch n => "linc:stop_switch(" ++ decimalText n ++ ")."
  | portUp n p => "linc:port_up(" ++ decimalText n ++ "," ++ decimalText p ++ ")."
  | portDown n p => "linc:port_down(" ++ decimalText n ++ "," ++ decimalText p ++ ")."

/-- The command as it is sent, with the end of its line. -/
def wire (c : ConsoleCommand) : String := c.text ++ "\r\n"

end ConsoleCommand

namespace Console

/-- Sends a command; whether the emulator could take it. -/
def send (r : Release) (c : ConsoleCommand) (files : FileTree) : Bool × FileTree :=
  match files.send r.writePipe c.wire.toUTF8 with
  | .ok files => (true, files)
  | .error _ => (false, files)

/-- What the emulator has printed since it was last read, if there is a pipe to read. -/
def read (r : Release) (files : FileTree) : Option String × FileTree :=
  match files.receive r.readPipe with
  | .ok (bytes, files) => (some (Utf8.lossy bytes), files)
  | .error _ => (none, files)

/-- Sends a command; that it could not be sent does no harm. -/
def tell (r : Release) (c : ConsoleCommand) : Op Unit := fun w =>
  (.ok (), { w with files := (send r c w.files).2 })

/-- Removes stale pipes, which would make the emulator number its next ones differently. -/
def clear (r : Release) : Op Nat := fun w =>
  let (removed, files) := w.files.clearDirectory r.pipeDirectory
  (.ok removed, { w with files := files })

end Console

end OpticalTestbed
