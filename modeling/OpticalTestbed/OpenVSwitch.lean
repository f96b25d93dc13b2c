import OpticalTestbed.World
/-!
Packet switches that are Open vSwitch bridges named after their nodes. Attaching and detaching are
calls of `ovs-vsctl`, which prints nothing when all went well.
-/
namespace OpticalTestbed.OpenVSwitch

def attachCall (node tap : String) : Invocation :=
  ⟨"ovs-vsctl", ["--may-exist", "add-port", node, tap], none⟩

def detachCall (node tap : String) : Invocation :=
  ⟨"ovs-vsctl", ["--if-exists", "del-port", node, tap], none⟩

/-- What an answer of the program means: anything printed but blanks is a refusal. -/
def verdict (node tap : String) : Except Failure String → Except Failure Unit
  | .error e => .error e
  | .ok output =>
    let output := trimmed output
    if output.isEmpty then .ok () else .error (.binding node tap output)

/-- The host's answer to a call, given how programs are run. -/
def reply (run : World → Invocation → Reply String) (call : String → String → Invocation)
    (w : World) (node tap : String) : Reply Unit :=
  let r := run w (call node tap)
  ⟨verdict node tap r.answer, r.files, r.raises⟩

/-- Outside parties whose switch host is Open vSwitch. -/
def outside (run : World → Invocation → Reply String) (fetch : World → Reply DeviceList) :
    Outside where
  run := run
  attach := reply run attachCall
  detach := reply run detachCall
  fetch := fetch

end OpticalTestbed.OpenVSwitch
