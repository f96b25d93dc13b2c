import OpticalTestbed.Interfaces
import OpticalTestbed.Poll
/-!
The two waits of a bring-up: for taps to appear, and for devices to become available. A probe that
fails counts as one that was not ready.
-/
namespace OpticalTestbed.Waiting

/-- The outcome of a wait as one of work. -/
def outcome {α : Type} (what : String) : Except PollStop α × World → Except Failure α × World
  | (.ok a, w) => (.ok a, w)
  | (.error stop, w) => (.error (stop.failure what), w)

/-- Counts taps; ready when there are at least as many as expected. -/
def tapProbe (o : Outside) (expected : Nat) (_attempt : Nat) (w : World) : Option Nat × World :=
  match Interfaces.countPresent o w with
  | (.ok n, w) => (if expected ≤ n then some n else none, w)
  | (.error _, w) => (none, w)

/-- Waits until there are at least so many taps. A domain may see more of them than it uses. -/
def forTaps (o : Outside) (policy : PollPolicy) (expected : Nat) : Op Nat := fun w =>
  outcome "tap interfaces" (Poll.run policy (·.cancelled) (tapProbe o expected) w)

/-- Asks for the devices; ready when every expected one is available. -/
def deviceProbe (o : Outside) (expected : KeySet String) (_attempt : Nat) (w : World) :
    Option Unit × World :=
  match o.fetchDevices w with
  | (.ok reported, w) => (if (reported.check expected).isReady then some () else none, w)
  | (.error _, w) => (none, w)

/-- Waits until every expected device is available. -/
def forDevices (o : Outside) (policy : PollPolicy) (expected : KeySet String) : Op Unit := fun w =>
  outcome "controller devices" (Poll.run policy (·.cancelled) (deviceProbe o expected) w)

end OpticalTestbed.Waiting
