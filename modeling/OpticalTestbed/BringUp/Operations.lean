import OpticalTestbed.Binding
import OpticalTestbed.BringUp.Basic
import OpticalTestbed.Console
import OpticalTestbed.Emulator
import OpticalTestbed.Push
import OpticalTestbed.Waiting
/-!
Bringing a testbed up and taking it down again. Before the emulator runs, a failure breaks the
bring-up off; afterwards it is a warning and the bring-up ends degraded. Only cancellation breaks a
wait off, and it leaves everything in place to be stopped.
-/
namespace OpticalTestbed.BringUp

variable (o : Outside) (t : Testbed)

/-- An answer, the state of the bring-up and the world after an operation. -/
abbrev Outcome (α : Type) : Type := Except Failure α × BringUp × World

/-- Writes the documents, has `sys.config` made and installs it; its text and the documents. -/
def synthesize : Op (String × Synthesis) := do
  let work := t.configuration.workDirectory
  let synthesis ← Synthesis.ofDomain t.topology t.domain
  let _ ← synthesis.write work
  let generated ← SysConfig.generate o t.installation.generatorRoot work t.configuration.controllers
  let text ← Op.readText generated
  Op.writeText t.release.sysConfig text
  return (text, synthesis)

/-- Creates the taps that a `sys.config` names, removes stale pipes and starts the emulator. -/
def launch (sysConfig : String) : Op Unit := do
  let _ ← Interfaces.ensureAll o (SysConfig.taps sysConfig)
  let _ ← Console.clear t.release
  Emulator.start o t.release

/-- Pushes a document in the work directory to a controller. -/
def push (controller document : String) : Op Unit :=
  Push.push o t.installation.onosRoot t.configuration.workDirectory controller document

/-- Pushes the controller document to every controller; what went wrong. -/
def pushAll : List Controller → World → List Failure × World
  | [], w => ([], w)
  | c :: more, w =>
    let (answer, w) := push o t c.ip networkFile w
    let (es, w) := pushAll more w
    (match answer with
      | .ok _ => es
      | .error e => e :: es, w)

/-- The warning that a failed wait leaves, unless it was cancelled. -/
def waitWarning {α : Type} : Except Failure α → Except Failure (List Failure)
  | .ok _ => .ok []
  | .error (.cancelled what) => .error (.cancelled what)
  | .error e => .ok [e]

/-- The second half of a start: waiting for devices and pushing the document, after `bound` links
were bound and the given warnings arose. -/
def sync (bound : Nat) (warnings : List Failure) (b : BringUp) (w : World) :
    Outcome BringUpReport :=
  let b := { b with phase := .waitingForControllerSync }
  let (answer, w) := Waiting.forDevices o t.configuration.deviceWait b.expectedDevices w
  match waitWarning answer with
  | .error e => (.error e, b, w)
  | .ok late =>
    let (refused, w) := pushAll o t t.configuration.controllers w
    let all := warnings ++ late ++ refused
    (.ok ⟨bound, all, !all.isEmpty⟩, { b with phase := .running }, w)

/-- The first half of a start with a running emulator: waiting for taps and binding them. -/
def connect (sysConfig : String) (b : BringUp) (w : World) : Outcome BringUpReport :=
  let b := { b with phase := .waitingForInterfaces }
  let (answer, w) :=
    Waiting.forTaps o t.configuration.interfaceWait t.topology.crossConnects.length w
  match waitWarning answer with
  | .error e => (.error e, b, w)
  | .ok late =>
    let (report, bindings, w) :=
      (Bindings.ofTopology t.topology).bindAll o t.topology sysConfig w
    sync o t report.bound.length (late ++ report.warnings)
      { b with phase := .binding, bindings := bindings } w

/-- Brings the testbed up, which is only allowed when nothing is going on. -/
def start (b : BringUp) (w : World) : Outcome BringUpReport :=
  if b.phase ≠ .idle then (.error (.notIdle b.phase.text), b, w)
  else match synthesize o t w with
    | (.error e, w) => (.error e, b, w)
    | (.ok (sysConfig, synthesis), w) =>
      let b := { b with switchIds := SwitchIds.ofText sysConfig, synthesis := some synthesis }
      match launch o t sysConfig w with
      | (.error e, w) => (.error e, b, w)
      | (.ok _, w) => connect o t sysConfig b w

/-- Detaches everything and stops the emulator. Allowed at any time, and more than once. -/
def stop (b : BringUp) (w : World) : Outcome Unit :=
  let (_, bindings, w) := b.bindings.unbindAll o t.topology w
  let (answer, w) := Emulator.stop o t.release w
  (answer, { b with phase := .idle, bindings := bindings }, w)

/-- Takes bindings and switch numbers from the installed `sys.config`, so that what an earlier
bring-up attached can be detached; the number of bindings. -/
def rediscover (b : BringUp) (w : World) : Outcome Nat :=
  match Op.readText t.release.sysConfig w with
  | (.error e, w) => (.error e, b, w)
  | (.ok sysConfig, w) =>
    let (recovered, bindings) := (Bindings.ofTopology t.topology).recover t.topology sysConfig
    (.ok recovered, { b with switchIds := SwitchIds.ofText sysConfig, bindings := bindings }, w)

/-- The switch numbers, taken from the installed `sys.config` when there are none yet. -/
def knownSwitchIds (b : BringUp) (w : World) : SwitchIds :=
  if b.switchIds.isEmpty then (SwitchIds.load? w.files t.release.sysConfig).getD b.switchIds
  else b.switchIds

/-- The number of a ROADM, and the state in which the numbers are known. -/
def switchNumber (name : String) (b : BringUp) (w : World) :
    Except Failure (Nat × Node) × BringUp :=
  match (t.topology.node? name).filter (·.isRoadm) with
  | none => (.error (.invalidTopology (.notRoadm name)), b)
  | some node =>
    let b := { b with switchIds := knownSwitchIds t b w }
    match b.switchIds.get? node.dpid.text with
    | some n => (.ok (n, node), b)
    | none => (.error (.invalidTopology (.notConfigured name node.dpid.text)), b)

/-- Stops one ROADM and detaches its cross-connects. -/
def stopSwitch (name : String) (b : BringUp) (w : World) : Outcome Unit :=
  match switchNumber t name b w with
  | (.error e, b) => (.error e, b, w)
  | (.ok (n, _), b) =>
    let (_, w) := Console.tell t.release (.stopSwitch n) w
    let (_, bindings, w) := b.bindings.unbind o t.topology name w
    (.ok (), { b with bindings := bindings }, w)

/-- The descriptors of the cross-connects of a ROADM. -/
def crossConnectDescriptors (name : String) : List LinkDescriptor :=
  ((t.topology.crossConnectsOf name).filterMap t.topology.link?).filterMap
    (LinkDescriptor.ofLink? t.topology)

/-- The document of a ROADM's cross-connects, for the controller. -/
def crossConnectDocument (name : String) : NetworkConfig :=
  NetworkConfig.linksOnly (crossConnectDescriptors t name)

/-- Tells the first controller about the cross-connects of a ROADM; what went wrong. -/
def pushCrossConnects (w : World) : List Failure × World :=
  match t.configuration.controllers with
  | [] => ([], w)
  | first :: _ =>
    match push o t first.ip crossConnectFile w with
    | (.ok _, w) => ([], w)
    | (.error e, w) => ([e], w)

/-- Starts one ROADM again, attaches its detached cross-connects and tells the first controller. -/
def startSwitch (name : String) (b : BringUp) (w : World) : Outcome BindReport :=
  match switchNumber t name b w with
  | (.error e, b) => (.error e, b, w)
  | (.ok (n, _), b) =>
    let (_, w) := Console.tell t.release (.startSwitch n) w
    match Op.readText t.release.sysConfig w with
    | (.error e, w) => (.error e, b, w)
    | (.ok sysConfig, w) =>
      let (report, bindings, w) := b.bindings.bindDetached o t.topology sysConfig name w
      let b := { b with bindings := bindings }
      let path := Path.join t.configuration.workDirectory crossConnectFile
      match Op.writeText path (crossConnectDocument t name).toJson.document w with
      | (.error e, w) => (.error e, b, w)
      | (.ok _, w) =>
        let (warnings, w) := pushCrossConnects o t w
        (.ok ⟨report.bound, report.warnings ++ warnings⟩, b, w)

/-- Brings a port of a ROADM up or down. -/
def setPortState (name : String) (port : Nat) (up : Bool) (b : BringUp) (w : World) :
    Outcome Unit :=
  match switchNumber t name b w with
  | (.error e, b) => (.error e, b, w)
  | (.ok (n, _), b) =>
    let (_, w) := Console.tell t.release (if up then .portUp n port else .portDown n port) w
    (.ok (), b, w)

end OpticalTestbed.BringUp
