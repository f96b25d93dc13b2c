import OpticalTestbed.Release
import OpticalTestbed.World
/-!
Starting and stopping the emulator by its control script.
-/
namespace OpticalTestbed.Emulator

def scriptCall (r : Release) (action : String) : Invocation := ⟨r.controlScript, [action], none⟩

/-- Stops the emulator. One that is not running may be stopped too, and what the script prints does
not matter. -/
def stop (o : Outside) (r : Release) : Op Unit := do
  let _ ← o.call (scriptCall r "stop")

/-- Starts the emulator. If the script prints anything but blanks the start has failed, and the
emulator is stopped again. -/
def start (o : Outside) (r : Release) : Op Unit := do
  let output := trimmed (← o.call (scriptCall r "start"))
  if output.isEmpty then return ()
  let _ ← (stop o r).attempt
  Op.fail (.emulatorStart output)

end OpticalTestbed.Emulator
