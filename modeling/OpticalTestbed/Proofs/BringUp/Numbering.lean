import OpticalTestbed.Proofs.BindReport
import OpticalTestbed.Proofs.BringUp.Preparing
import OpticalTestbed.Proofs.BringUp.Run
import OpticalTestbed.Proofs.Console
import OpticalTestbed.Proofs.Topology.Description
import Mathlib.Logic.Relation
/-!
Which switch a console command goes to. As long as the installed `sys.config` changes only when a
start installs one, the switch numbers that are known are those that it implies, so that a request
about a ROADM puts one line into the pipe of the console, with the number that the installed
`sys.config` gives it.
-/
namespace OpticalTestbed.BringUp

/-- The installed `sys.config`, as far as it can be read. -/
def installed (t : Testbed) (w : World) : Except FileFault String :=
  w.files.readText t.release.sysConfig

/-- The number that the installed `sys.config` gives a switch, if it can be read. -/
def installedNumber (t : Testbed) (w : World) (dpid : Dpid) : Option Nat :=
  (SwitchIds.load? w.files t.release.sysConfig).bind (·.get? dpid.text)

/-- No switch numbers are known, or they are those of the installed `sys.config`. -/
def Numbered (t : Testbed) (ids : SwitchIds) (w : World) : Prop :=
  ids.isEmpty = true ∨ ∃ text, installed t w = .ok text ∧ ids = SwitchIds.ofText text

/-- A step changes the installed `sys.config` only as a start does that comes to install one. What
the start does later leaves it alone, and so does all of a start that does not get there. -/
def Step.InstallsOnly (t : Testbed) : Step → BringUp × World → Prop
  | .operation o .start, (b, w) => b.phase = .idle →
    installed t (start o t b w).2.2 = installed t (match synthesize o t w with
      | (.ok _, v) => v
      | (.error _, _) => w)
  | step, s => installed t (step.take t s).2 = installed t s.2

/-- In a run the installed `sys.config` changes only when a start comes to install one. -/
def InstallsOnly (t : Testbed) (steps : List Step) (s : BringUp × World) : Prop :=
  ∀ done step, done ++ [step] <+: steps → step.InstallsOnly t (run t done s)

variable {o : Outside} {t : Testbed} {b : BringUp} {w w' : World} {ids : SwitchIds} {name : String}

theorem InstallsOnly.cons {step : Step} {steps : List Step} {s : BringUp × World}
    (h : step.InstallsOnly t s) (hmore : InstallsOnly t steps (step.take t s)) :
    InstallsOnly t (step :: steps) s := by
  rintro done last hdone
  cases done with
  | nil =>
    obtain ⟨rfl, -⟩ := List.cons_prefix_cons.1 (List.nil_append [last] ▸ hdone)
    exact h
  | cons first done =>
    obtain ⟨rfl, hrest⟩ := List.cons_prefix_cons.1 hdone
    exact hmore done last hrest

theorem installsOnly_nil {s : BringUp × World} : InstallsOnly t [] s := by
  intro done last hdone
  simp at hdone

theorem load?_eq : SwitchIds.load? w.files t.release.sysConfig =
    (installed t w).toOption.map SwitchIds.ofText := by
  unfold SwitchIds.load? installed
  cases w.files.readText t.release.sysConfig <;> rfl

section Known

theorem Numbered.of_installed (h : Numbered t ids w) (hw : installed t w' = installed t w) :
    Numbered t ids w' := by
  unfold Numbered
  rwa [hw]

/-- Numbers that are looked up in the installed `sys.config` are those that it implies. -/
theorem Numbered.known (h : Numbered t b.switchIds w) : Numbered t (knownSwitchIds t b w) w := by
  unfold knownSwitchIds
  split
  · rw [load?_eq]
    cases hread : installed t w with
    | error fault => exact h
    | ok text => exact .inr ⟨text, hread, rfl⟩
  · exact h

theorem Numbered.get?_known (h : Numbered t b.switchIds w) (dpid : Dpid) :
    (knownSwitchIds t b w).get? dpid.text = installedNumber t w dpid := by
  unfold knownSwitchIds installedNumber
  rw [load?_eq]
  split
  · rename_i hempty
    cases installed t w with
    | error fault => exact Dict.get?_of_isEmpty hempty _
    | ok text => rfl
  · rename_i hempty
    obtain ⟨text, hread, hids⟩ := h.resolve_left hempty
    rw [hread, hids]
    rfl

/-- The number of a ROADM is the one that the installed `sys.config` gives it. -/
theorem Numbered.switchNumber_ok (h : Numbered t b.switchIds w) {n : Nat} {node : Node}
    {b' : BringUp} (found : switchNumber t name b w = (.ok (n, node), b')) :
    t.topology.node? name = some node ∧ node.isRoadm = true ∧
      installedNumber t w node.dpid = some n := by
  cases switchNumber_path found with
  | numbered hnode hroadm hn => exact ⟨hnode, hroadm, (h.get?_known _).symm.trans hn⟩

/-- There is no number of what is not a ROADM, or not in the installed `sys.config`. -/
theorem Numbered.switchNumber_error (h : Numbered t b.switchIds w) {e : Failure} {b' : BringUp}
    (found : switchNumber t name b w = (.error e, b')) :
    (∃ fault, e = .invalidTopology fault) ∧ ∀ node, t.topology.node? name = some node →
      node.isRoadm = true → installedNumber t w node.dpid = none := by
  cases switchNumber_path found with
  | notRoadm hnone =>
    refine ⟨⟨_, rfl⟩, fun node hnode hroadm => ?_⟩
    rw [hnone node hnode] at hroadm
    cases hroadm
  | notConfigured hnode _ hn =>
    refine ⟨⟨_, rfl⟩, fun node hnode' _ => ?_⟩
    obtain rfl := Option.some.inj (hnode.symm.trans hnode')
    exact (h.get?_known _).symm.trans hn

theorem Numbered.switchNumber (h : Numbered t b.switchIds w)
    {answer : Except Failure (Nat × Node)} {b' : BringUp}
    (found : switchNumber t name b w = (answer, b')) : Numbered t b'.switchIds w := by
  cases switchNumber_path found with
  | notRoadm => exact h
  | notConfigured => exact h.known
  | numbered => exact h.known

end Known

section Requests

/-- What can be asked of one ROADM by way of the console. -/
inductive Request where
  | stop
  | start
  | setPort (port : Nat) (up : Bool)

namespace Request

/-- The operation that a request about a ROADM is. -/
def operation (name : String) : Request → Operation
  | stop => .stopSwitch name
  | start => .startSwitch name
  | setPort port up => .setPortState name port up

/-- Whether the operation succeeds, or how it fails. -/
def answer (o : Outside) (t : Testbed) (name : String) :
    Request → BringUp → World → Except Failure Unit
  | stop, b, w => (stopSwitch o t name b w).1
  | start, b, w => (startSwitch o t name b w).1.map fun _ => ()
  | setPort port up, b, w => (setPortState t name port up b w).1

/-- The command for the switch of a number. -/
def command : Request → Nat → ConsoleCommand
  | stop, n => .stopSwitch n
  | start, n => .startSwitch n
  | setPort port true, n => .portUp n port
  | setPort port false, n => .portDown n port

/-- The line that asks the emulator for it. -/
def line (n : Nat) : Request → String
  | stop => "linc:stop_switch(" ++ decimalText n ++ ").\r\n"
  | start => "linc:start_switch(" ++ decimalText n ++ ").\r\n"
  | setPort port true =>
    "linc:port_up(" ++ decimalText n ++ "," ++ decimalText port ++ ").\r\n"
  | setPort port false =>
    "linc:port_down(" ++ decimalText n ++ "," ++ decimalText port ++ ").\r\n"

theorem wire_command (r : Request) (n : Nat) : (r.command n).wire = r.line n := by
  have hend : ∀ s : String, s ++ ")." ++ "\r\n" = s ++ ").\r\n" := fun s => String.append_assoc
  cases r with
  | stop => exact hend _
  | start => exact hend _
  | setPort port up => cases up <;> exact hend _

end Request

/-- One thing that a bring-up does other than by way of the console. -/
inductive OffConsole (o : Outside) (t : Testbed) : World → World → Prop
  | called (i : Invocation) (w : World) : OffConsole o t w (o.call i w).2
  | attached (node tap : String) (w : World) : OffConsole o t w (o.attachTap node tap w).2
  | detached (node tap : String) (w : World) : OffConsole o t w (o.detachTap node tap w).2
  | written (name : String) (w : World) : OffConsole o t w
    (Op.writeText (Path.join t.configuration.workDirectory crossConnectFile)
      (crossConnectDocument t name).toJson.document w).2

/-- Some things are done, none of them by way of the console. -/
abbrev AwayFromConsole (o : Outside) (t : Testbed) : World → World → Prop :=
  Relation.ReflTransGen (OffConsole o t)

/-- The ways in which a request about a ROADM goes: it has no number, or the pipe of the console is
given one line. -/
inductive RequestPath {α : Type} (o : Outside) (t : Testbed) (name : String)
    (command : Nat → ConsoleCommand) (b : BringUp) (w : World) : Outcome α → Prop
  | unknown {e : Failure} {b' : BringUp} : switchNumber t name b w = (.error e, b') →
    RequestPath o t name command b w (.error e, b', w)
  | told {n : Nat} {node : Node} {b' b'' : BringUp} {answer : Except Failure α} {v w' : World} :
    switchNumber t name b w = (.ok (n, node), b') →
    (∀ fault, answer ≠ .error (.invalidTopology fault)) → b''.switchIds = b'.switchIds →
    w.Puts t.release (command n).wire v → AwayFromConsole o t v w' →
    RequestPath o t name command b w (answer, b'', w')

theorem call_away (i : Invocation) : (o.call i).Along (AwayFromConsole o t) :=
  fun w => .single (.called i w)

theorem attachTap_away (node tap : String) : (o.attachTap node tap).Along (AwayFromConsole o t) :=
  fun w => .single (.attached node tap w)

theorem unbindInvariant_away (o : Outside) (t : Testbed) (before : World) :
    Bindings.UnbindInvariant o t.topology
      (fun b w => b.Accounts t.topology ∧ AwayFromConsole o t before w) where
  accounts h := h.1
  detached := by
    intro b w w' name link ends tap answer ht _ hcall ⟨hacc, haway⟩
    refine ⟨hacc.markDetached (hacc.of_tap? ht), haway.tail ?_⟩
    have hdetached := OffConsole.detached (o := o) (t := t) ends.2.node tap w
    rwa [hcall] at hdetached

theorem stopSwitch_path (ha : b.bindings.Accounts t.topology) (o : Outside) (name : String)
    (w : World) : RequestPath o t name .stopSwitch b w (stopSwitch o t name b w) := by
  unfold stopSwitch
  split
  · rename_i found
    exact .unknown found
  · rename_i n node b' found
    rw [← switchNumber_bindings found] at ha
    have hunbound := (unbindInvariant_away o t
      (Console.tell t.release (.stopSwitch n) w).2).unbind name ⟨ha, .refl⟩
    exact .told found (fun _ h => by cases h) rfl (Console.tell_puts _ _ w) hunbound.2

theorem startSwitch_path (ha : b.bindings.Accounts t.topology) (o : Outside) (name : String)
    (w : World) : RequestPath o t name .startSwitch b w (startSwitch o t name b w) := by
  unfold startSwitch
  split
  · rename_i found
    exact .unknown found
  · rename_i n node b' found
    rw [← switchNumber_bindings found] at ha
    have puts := Console.tell_puts t.release (.startSwitch n) w
    dsimp only
    split
    · rename_i failed
      obtain ⟨fault, -, rfl, rfl⟩ := Op.readText_error failed
      exact .told found (fun _ h => by cases h) rfl puts .refl
    · rename_i sysConfig w₁ readBack
      obtain ⟨-, rfl⟩ := Op.readText_ok readBack
      have hbound := (Bindings.passRelation_along (fun i _ => call_away (o := o) (t := t) i)
        attachTap_away).bindDetached (w := (Console.tell t.release (.startSwitch n) w).2)
          sysConfig name ha
      have hwritten := hbound.tail (.written name _)
      split
      · rename_i failed
        obtain ⟨⟨at_, fault, rfl⟩, -⟩ := World.writeText_error failed
        rw [failed] at hwritten
        exact .told found (fun _ h => by cases h) rfl puts hwritten
      · rename_i w₂ written
        rw [written] at hwritten
        exact .told found (fun _ h => by cases h) rfl puts
          (hwritten.trans (pushCrossConnects_along call_away w₂))

theorem setPortState_path (o : Outside) (name : String) (port : Nat) (up : Bool) (w : World) :
    RequestPath o t name (Request.setPort port up).command b w
      (setPortState t name port up b w) := by
  unfold setPortState
  split
  · rename_i found
    exact .unknown found
  · rename_i n node b' found
    refine .told found (fun _ h => by cases h) rfl ?_ .refl
    cases up <;> exact Console.tell_puts _ _ w

theorem Request.path (ha : b.bindings.Accounts t.topology) (o : Outside) (name : String)
    (r : Request) (w : World) : RequestPath o t name r.command b w
      (r.answer o t name b w, (r.operation name).perform o t b w) := by
  cases r with
  | stop => exact stopSwitch_path ha o name w
  | start =>
    have path := startSwitch_path ha o name w
    simp only [Request.answer, Request.operation, Operation.perform]
    generalize startSwitch o t name b w = outcome at path
    cases path with
    | unknown found => exact .unknown found
    | @told n node b' b'' answer v w' found hvalid hids puts haway =>
      refine .told found (fun fault h => ?_) hids puts haway
      cases answer with
      | error e => exact hvalid fault (congrArg Except.error (Except.error.inj h))
      | ok report => cases h
  | setPort port up => exact setPortState_path o name port up w

end Requests

section Steps

/-- A start takes the numbers from what it has come to install. -/
theorem start_switchIds (idle : b.phase = .idle) :
    (start o t b w).2.1.switchIds = match (synthesize o t w).1 with
      | .ok (text, _) => SwitchIds.ofText text
      | .error _ => b.switchIds := by
  have path := start_path o t b w
  generalize start o t b w = outcome at path
  cases path with
  | notIdle hphase => exact absurd idle hphase
  | notSynthesized _ failed => rw [failed]
  | notLaunched _ made _ =>
    rw [made]
    rfl
  | cancelledBeforeBinding launched _ =>
    obtain ⟨-, w₁, made, -⟩ := launched
    rw [made]
    rfl
  | cancelledAfterBinding reached _ =>
    obtain ⟨_, _, ⟨-, w₁, made, -⟩, -⟩ := reached
    rw [made]
    rfl
  | finished reached _ _ _ =>
    obtain ⟨_, _, ⟨-, w₁, made, -⟩, -⟩ := reached
    rw [made]
    rfl

theorem Numbered.start (h : Numbered t b.switchIds w)
    (honly : (Step.operation o .start).InstallsOnly t (b, w)) :
    Numbered t (start o t b w).2.1.switchIds (start o t b w).2.2 := by
  by_cases idle : b.phase = .idle
  · have hread := honly idle
    have hids := start_switchIds (o := o) (t := t) (w := w) idle
    generalize hdone : synthesize o t w = result at hread hids
    obtain ⟨answer, v⟩ := result
    rw [hids]
    cases answer with
    | error e => exact h.of_installed hread
    | ok made =>
      obtain ⟨-, -, -, -, hfound⟩ := synthesize_produces hdone
      exact .inr ⟨made.1, hread.trans hfound, rfl⟩
  · rw [BringUp.start, if_pos idle]
    exact h

theorem Numbered.rediscover (h : Numbered t b.switchIds w) :
    Numbered t (rediscover t b w).2.1.switchIds (rediscover t b w).2.2 := by
  unfold BringUp.rediscover
  split
  · rename_i failed
    obtain ⟨_, _, _, rfl⟩ := Op.readText_error failed
    exact h
  · rename_i sysConfig w' readBack
    obtain ⟨hread, rfl⟩ := Op.readText_ok readBack
    exact .inr ⟨sysConfig, hread, rfl⟩

/-- Of a request about a ROADM, the numbers that it has looked up remain. -/
theorem Numbered.request (h : Numbered t b.switchIds w) (ha : b.bindings.Accounts t.topology)
    (o : Outside) (name : String) (r : Request) :
    Numbered t ((r.operation name).perform o t b w).1.switchIds w := by
  have path := r.path ha o name w
  generalize r.answer o t name b w = answer at path
  generalize (r.operation name).perform o t b w = after at path
  cases path with
  | unknown found => exact h.switchNumber found
  | told found _ hids _ _ => exact hids ▸ h.switchNumber found

/-- A step keeps the numbers in line with the installed `sys.config`, if it changes that only by
installing one. -/
theorem Step.take_numbered (step : Step) {s : BringUp × World}
    (ha : s.1.bindings.Accounts t.topology) (h : Numbered t s.1.switchIds s.2)
    (honly : step.InstallsOnly t s) :
    Numbered t (step.take t s).1.switchIds (step.take t s).2 := by
  obtain ⟨b, w⟩ := s
  dsimp only at ha h
  cases step with
  | operation o op =>
    cases op with
    | start => exact h.start honly
    | stop => exact h.of_installed honly
    | rediscover =>
      simp only [take, Operation.perform]
      exact h.rediscover
    | stopSwitch name => exact (h.request ha o name .stop).of_installed honly
    | startSwitch name => exact (h.request ha o name .start).of_installed honly
    | setPortState name port up => exact (h.request ha o name (.setPort port up)).of_installed honly
  | pass o p => exact h.of_installed honly
  | elsewhere files cancelled => exact h.of_installed honly

theorem run_numbered {steps : List Step} (w : World)
    (honly : InstallsOnly t steps (fresh t.topology, w))
    {done : List Step} (hdone : done <+: steps) :
    Numbered t (run t done (fresh t.topology, w)).1.switchIds
      (run t done (fresh t.topology, w)).2 := by
  induction done using List.reverseRecOn with
  | nil => exact .inl rfl
  | append_singleton done step ih =>
    have hbefore := ih ((List.prefix_append done [step]).trans hdone)
    rw [run_append]
    exact step.take_numbered (run_accounts done w) hbefore (honly done step hdone)

end Steps

/-- What comes of a request about a ROADM. Either there is no such ROADM or the installed
`sys.config` does not number it: then the request is refused, and at most the numbers are looked up.
Or the pipe of the console is given one line, with the number that the installed `sys.config` gives
that ROADM, and all else is done away from it. -/
inductive Addressed (o : Outside) (t : Testbed) (name : String) (r : Request) (b : BringUp)
    (w : World) : Except Failure Unit → BringUp × World → Prop
  | refused {fault : TopologyFault} {b' : BringUp} :
    (∀ node, t.topology.node? name = some node → node.isRoadm = true →
      installedNumber t w node.dpid = none) →
    b' = { b with switchIds := b'.switchIds } →
    Addressed o t name r b w (.error (.invalidTopology fault)) (b', w)
  | told {node : Node} {n : Nat} {answer : Except Failure Unit} {b' : BringUp} {v w' : World} :
    t.topology.node? name = some node → node.isRoadm = true →
    installedNumber t w node.dpid = some n →
    (∀ fault, answer ≠ .error (.invalidTopology fault)) →
    w.Puts t.release (r.line n) v → AwayFromConsole o t v w' →
    Addressed o t name r b w answer (b', w')

/-- A request about a ROADM that is numbered is the line for that number, and what follows it. -/
theorem Addressed.puts {r : Request} {answer : Except Failure Unit} {after : BringUp × World}
    {node : Node} {n : Nat} (h : Addressed o t name r b w answer after)
    (hnode : t.topology.node? name = some node) (hroadm : node.isRoadm = true)
    (hn : installedNumber t w node.dpid = some n) :
    ∃ v, w.Puts t.release (r.line n) v ∧ AwayFromConsole o t v after.2 := by
  cases h with
  | refused hnone =>
    rw [hnone node hnode hroadm] at hn
    cases hn
  | told hnode' _ hn' _ puts haway =>
    obtain rfl := Option.some.inj (hnode.symm.trans hnode')
    obtain rfl := Option.some.inj (hn.symm.trans hn')
    exact ⟨_, puts, haway⟩

theorem Numbered.addressed (h : Numbered t b.switchIds w) (ha : b.bindings.Accounts t.topology)
    (o : Outside) (name : String) (r : Request) : Addressed o t name r b w
      (r.answer o t name b w) ((r.operation name).perform o t b w) := by
  have path := r.path ha o name w
  generalize r.answer o t name b w = answer at path
  generalize (r.operation name).perform o t b w = after at path
  cases path with
  | unknown found =>
    obtain ⟨⟨fault, rfl⟩, hnone⟩ := h.switchNumber_error found
    exact .refused hnone (switchNumber_state found)
  | told found hvalid _ puts haway =>
    obtain ⟨hnode, hroadm, hn⟩ := h.switchNumber_ok found
    exact .told hnode hroadm hn hvalid (r.wire_command _ ▸ puts) haway

/-- Away from the console a place is left alone that nobody else writes to. -/
theorem AwayFromConsole.leaves {here place : Place} (h : AwayFromConsole o t w w')
    (hcalls : ∀ i, (o.call i).Along (World.Leaves here place))
    (hattach : ∀ node tap, (o.attachTap node tap).Along (World.Leaves here place))
    (hdetach : ∀ node tap, (o.detachTap node tap).Along (World.Leaves here place))
    (hdocument : FileTree.lexical here
      (Path.join t.configuration.workDirectory crossConnectFile) ≠ place) :
    World.Leaves here place w w' := by
  induction h with
  | refl => exact Std.Refl.refl w
  | tail _ hdone ih =>
    refine IsTrans.trans _ _ _ ih ?_
    cases hdone with
    | called i => exact hcalls i _
    | attached node tap => exact hattach node tap _
    | detached node tap => exact hdetach node tap _
    | written name => exact World.leaves_writeText hdocument _ _

/-- All along a run in which the installed `sys.config` changes only when a start installs one, the
switch numbers are none or those that it implies, and each request about a ROADM is one line in the
pipe of the console, for the very switch that it numbers, or is refused. -/
theorem run_addressed {steps : List Step} {w : World}
    (honly : InstallsOnly t steps (fresh t.topology, w)) :
    ∀ done, done <+: steps → ∃ b v, run t done (fresh t.topology, w) = (b, v) ∧
      Numbered t b.switchIds v ∧ ∀ o name (r : Request), Addressed o t name r b v
        (r.answer o t name b v) ((r.operation name).perform o t b v) := by
  intro done hdone
  have hnumbered := run_numbered w honly hdone
  exact ⟨_, _, rfl, hnumbered, hnumbered.addressed (run_accounts done w)⟩

namespace Sample

/-- Where the pipe is that the emulator reads. -/
def pipePlace : Place := ["pipes", "erlang.pipe.1.w"]

/-- Where the `sys.config` is installed. -/
def installedAt : Place := ["linc", "rel", "linc", "releases", "1.0", "sys.config"]

/-- Files with the terse `sys.config` installed and an emulator that reads its pipe. -/
def listening : FileTree :=
  (terseWorld.files.put installedAt (.file terseConfig.toUTF8)).put pipePlace
    (.pipe .reader "".toUTF8)

/-- A first start. -/
def started : BringUp × World := (start outside testbed (fresh topology) terseWorld).2

/-- A start, after which the emulator comes to read its pipe. -/
def steps : List Step := [.operation outside .start, .elsewhere listening false]

theorem find_listening : listening.find testbed.release.writePipe =
    .ok (pipePlace, .pipe .reader "".toUTF8) := by
  have hplace : (listening.place testbed.release.writePipe).toOption = some pipePlace := by
    decide +kernel
  rw [FileTree.find, toOption_eq_some_iff.1 hplace]
  rfl

theorem steps_installsOnly : InstallsOnly testbed steps (fresh topology, terseWorld) := by
  obtain ⟨hmade, hstarted, hlistening⟩ :
      (installed testbed (match synthesize outside testbed terseWorld with
        | (.ok _, w) => w
        | (.error _, _) => terseWorld)).toOption = some terseConfig ∧
      (installed testbed started.2).toOption = some terseConfig ∧
      (installed testbed ⟨listening, false, started.2.history⟩).toOption = some terseConfig := by
    decide +kernel
  rw [toOption_eq_some_iff] at hmade hstarted hlistening
  exact .cons (fun _ => hstarted.trans hmade.symm)
    (.cons (hlistening.trans hstarted.symm) installsOnly_nil)

end Sample

/-- After a start, to stop the ROADM is one line for switch 1, as the installed `sys.config` numbers
it, and the pipe holds that line and nothing else. -/
theorem run_addressed_sample :
    InstallsOnly Sample.testbed Sample.steps (fresh Sample.topology, Sample.terseWorld) ∧
    ∃ b v, run Sample.testbed Sample.steps (fresh Sample.topology, Sample.terseWorld) = (b, v) ∧
      Numbered Sample.testbed b.switchIds v ∧
      v.files.get? Sample.pipePlace = some (.pipe .reader "".toUTF8) ∧
      (stopSwitch Sample.outside Sample.testbed "r1" b v).2.2.files.get? Sample.pipePlace =
        some (.pipe .reader "linc:stop_switch(1).\r\n".toUTF8) := by
  have honly := Sample.steps_installsOnly
  obtain ⟨b, v, hrun, hnumbered, haddressed⟩ := run_addressed honly _ List.prefix_rfl
  have hv : v = ⟨Sample.listening, false, Sample.started.2.history⟩ :=
    (congrArg Prod.snd hrun).symm
  obtain ⟨hnumber, hdocument⟩ : installedNumber Sample.testbed v Sample.roadm.dpid = some 1 ∧
      FileTree.lexical v.files.current (Path.join Sample.testbed.configuration.workDirectory
        crossConnectFile) ≠ Sample.pipePlace := by
    rw [hv]
    decide +kernel
  have hfind : v.files.find Sample.testbed.release.writePipe =
      .ok (Sample.pipePlace, .pipe .reader "".toUTF8) := by
    rw [hv]
    exact Sample.find_listening
  obtain ⟨v₁, puts, haway⟩ := (haddressed Sample.outside "r1" .stop).puts rfl rfl hnumber
  obtain ⟨hcurrent, hput⟩ := puts.get?_pipe hfind
  have hline : "".toUTF8 ++ (Request.stop.line 1).toUTF8 = "linc:stop_switch(1).\r\n".toUTF8 := by
    decide +kernel
  rw [hline] at hput
  have hleaves : World.Leaves v.files.current Sample.pipePlace v₁ _ := haway.leaves
    (fun _ _ h => ⟨h, rfl⟩) (fun _ _ _ h => ⟨h, rfl⟩) (fun _ _ _ h => ⟨h, rfl⟩) hdocument
  exact ⟨honly, b, v, hrun, hnumbered, FileTree.find_ok hfind, (hleaves hcurrent).2.trans hput⟩

end OpticalTestbed.BringUp
