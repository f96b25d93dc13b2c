import OpticalTestbed.OpenVSwitch
import OpticalTestbed.Proofs.BringUp.Start
/-!
Runs of a bring-up: operations in any order, passes over its bindings, and changes that others make
in between. What every step preserves holds all along a run.
-/
namespace OpticalTestbed

namespace BringUp

/-- What can be asked of a bring-up. -/
inductive Operation where
  | start
  | stop
  | rediscover
  | stopSwitch (name : String)
  | startSwitch (name : String)
  | setPortState (name : String) (port : Nat) (up : Bool)

/-- The state of the bring-up and the world after an operation. -/
def Operation.perform (o : Outside) (t : Testbed) :
    Operation → BringUp → World → BringUp × World
  | start, b, w => (BringUp.start o t b w).2
  | stop, b, w => (BringUp.stop o t b w).2
  | rediscover, b, w => (BringUp.rediscover t b w).2
  | stopSwitch name, b, w => (BringUp.stopSwitch o t name b w).2
  | startSwitch name, b, w => (BringUp.startSwitch o t name b w).2
  | setPortState name port up, b, w => (BringUp.setPortState t name port up b w).2

/-- One step of a run. The outside parties may be others in each step. -/
inductive Step where
  | operation (o : Outside) (op : Operation)
  | pass (o : Outside) (p : Bindings.Pass)
  /-- Somebody else changes files, raises the cancellation flag or lowers it. -/
  | elsewhere (files : FileTree) (cancelled : Bool)

def Step.take (t : Testbed) : Step → BringUp × World → BringUp × World
  | operation o op, (b, w) => op.perform o t b w
  | pass o p, (b, w) =>
    let (bindings, w) := p.run o t.topology b.bindings w
    ({ b with bindings := bindings }, w)
  | elsewhere files cancelled, (b, w) => (b, { w with files := files, cancelled := cancelled })

def run (t : Testbed) : List Step → BringUp × World → BringUp × World
  | [], s => s
  | step :: more, s => run t more (step.take t s)

section Run

variable {t : Testbed} {I : BringUp × World → Prop} {s : BringUp × World}

theorem run_append (steps more : List Step) :
    run t (steps ++ more) s = run t more (run t steps s) := by
  induction steps generalizing s with
  | nil => rfl
  | cons step steps ih => exact ih

/-- What every step preserves holds after the run. -/
theorem run_induction (hstep : ∀ (step : Step) s, I s → I (step.take t s)) (steps : List Step)
    (hs : I s) : I (run t steps s) := by
  induction steps generalizing s with
  | nil => exact hs
  | cons step more ih => exact ih (hstep step s hs)

end Run

section Operations

open Bindings

variable {o : Outside} {t : Testbed} {Q : Bindings → World → Prop} {b : BringUp} {w : World}
  {name : String}

/-- The ways in which the number of a ROADM is looked up. -/
inductive NumberPath (t : Testbed) (name : String) (b : BringUp) (w : World) :
    Except Failure (Nat × Node) × BringUp → Prop
  | notRoadm : (∀ node, t.topology.node? name = some node → node.isRoadm = false) →
    NumberPath t name b w (.error (.invalidTopology (.notRoadm name)), b)
  | notConfigured {node : Node} : t.topology.node? name = some node → node.isRoadm = true →
    (knownSwitchIds t b w).get? node.dpid.text = none →
    NumberPath t name b w (.error (.invalidTopology (.notConfigured name node.dpid.text)),
      { b with switchIds := knownSwitchIds t b w })
  | numbered {node : Node} {n : Nat} : t.topology.node? name = some node → node.isRoadm = true →
    (knownSwitchIds t b w).get? node.dpid.text = some n →
    NumberPath t name b w (.ok (n, node), { b with switchIds := knownSwitchIds t b w })

theorem switchNumber_path {result : Except Failure (Nat × Node) × BringUp}
    (h : switchNumber t name b w = result) : NumberPath t name b w result := by
  subst h
  unfold switchNumber
  split
  · rename_i hnone
    refine .notRoadm fun node hnode => ?_
    simpa [hnode] using hnone
  · rename_i node hnode
    obtain ⟨hnode, hroadm⟩ := Option.filter_eq_some_iff.1 hnode
    dsimp only
    split
    · exact .numbered hnode hroadm ‹_›
    · exact .notConfigured hnode hroadm ‹_›

/-- Nothing but the known numbers changes when one is looked up. -/
theorem switchNumber_state {answer : Except Failure (Nat × Node)} {b' : BringUp}
    (h : switchNumber t name b w = (answer, b')) : b' = { b with switchIds := b'.switchIds } := by
  cases switchNumber_path h <;> rfl

theorem switchNumber_bindings {answer : Except Failure (Nat × Node)} {b' : BringUp}
    (h : switchNumber t name b w = (answer, b')) : b'.bindings = b.bindings := by
  rw [switchNumber_state h]

theorem stop_invariant (h : BindInvariant o t.topology Q) (hu : UnbindInvariant o t.topology Q)
    (hq : Q b.bindings w) : Q (stop o t b w).2.1.bindings (stop o t b w).2.2 :=
  h.quiet (Emulator.stop_of_calls Op.composes_along (o.call_quiet _) _) (hu.unbindAll hq)

/-- A start leaves the bindings alone until it comes to bind links, and binds them afresh then. -/
theorem start_invariant (h : BindInvariant o t.topology Q) (hq : Q b.bindings w)
    (hbind : ∀ sysConfig s late w', AtBinding o t b w sysConfig s late w' →
      Q (bound o t sysConfig w').2.1 (bound o t sysConfig w').2.2) :
    Q (start o t b w).2.1.bindings (start o t b w).2.2 := by
  have path := start_path o t b w
  generalize start o t b w = outcome at path
  cases path with
  | notIdle => exact hq
  | notSynthesized _ failed => exact h.quiet (synthesize_quiet.of_eq failed) hq
  | notLaunched _ made failed =>
    exact h.quiet ((launch_quiet _).of_eq failed) (h.quiet (synthesize_quiet.of_eq made) hq)
  | cancelledBeforeBinding launched waited =>
    exact h.quiet ((Waiting.forTaps_along (o.call_quiet _) _ _).of_eq waited)
      (h.quiet launched.quiet hq)
  | cancelledAfterBinding reached waited =>
    exact h.quiet ((Waiting.forDevices_along o.fetchDevices_quiet _ _).of_eq waited)
      (hbind _ _ _ _ reached)
  | @finished _ _ _ _ _ _ w₁ w₂ reached waited =>
    have hw := h.quiet ((Waiting.forDevices_along o.fetchDevices_quiet _ _).of_eq waited)
      (hbind _ _ _ _ reached)
    have hp : w₂.Quiet (pushAll o t t.configuration.controllers w₂).2 :=
      pushAll_along o.call_quiet _ _
    exact h.quiet hp hw

theorem rediscover_invariant (hq : Q b.bindings w)
    (hnew : ∀ sysConfig, w.files.readText t.release.sysConfig = .ok sysConfig →
      Q ((ofTopology t.topology).recover t.topology sysConfig).2 w) :
    Q (rediscover t b w).2.1.bindings (rediscover t b w).2.2 := by
  unfold rediscover
  split
  · rename_i failed
    obtain ⟨_, _, _, rfl⟩ := Op.readText_error failed
    exact hq
  · rename_i sysConfig w' readBack
    obtain ⟨hr, rfl⟩ := Op.readText_ok readBack
    exact hnew sysConfig hr

theorem stopSwitch_invariant (h : BindInvariant o t.topology Q)
    (hu : UnbindInvariant o t.topology Q) (hq : Q b.bindings w) :
    Q (stopSwitch o t name b w).2.1.bindings (stopSwitch o t name b w).2.2 := by
  unfold stopSwitch
  split
  · rename_i found
    rwa [switchNumber_bindings found]
  · rename_i n _ b' found
    rw [← switchNumber_bindings found] at hq
    exact hu.unbind name (h.quiet (World.tell_calls _ (.stopSwitch n) w) hq)

theorem startSwitch_invariant (h : BindInvariant o t.topology Q) (hq : Q b.bindings w) :
    Q (startSwitch o t name b w).2.1.bindings (startSwitch o t name b w).2.2 := by
  unfold startSwitch
  split
  · rename_i found
    rwa [switchNumber_bindings found]
  · rename_i n _ b' found
    rw [← switchNumber_bindings found] at hq
    have htold := h.quiet (World.tell_calls t.release (.startSwitch n) w) hq
    dsimp only
    split
    · rename_i failed
      obtain ⟨_, -, -, rfl⟩ := Op.readText_error failed
      exact htold
    · rename_i sysConfig w₁ readBack
      obtain ⟨-, rfl⟩ := Op.readText_ok readBack
      have hbound := h.bindDetached sysConfig name htold
      split
      · rename_i failed
        exact h.quiet ((World.writeText_calls _ _).of_eq failed) hbound
      · rename_i w₂ written
        have hwritten := h.quiet ((World.writeText_calls _ _).of_eq written) hbound
        exact h.quiet (pushCrossConnects_along o.call_quiet _) hwritten

theorem setPortState_invariant (h : BindInvariant o t.topology Q) (hq : Q b.bindings w)
    (port : Nat) (up : Bool) : Q (setPortState t name port up b w).2.1.bindings
      (setPortState t name port up b w).2.2 := by
  unfold setPortState
  split
  · rename_i found
    rwa [switchNumber_bindings found]
  · rename_i n _ b' found
    rw [← switchNumber_bindings found] at hq
    exact h.quiet (World.tell_calls _ _ w) hq

/-- Only a start and a rediscovery put new bindings in the place of those that there were. -/
theorem Operation.perform_invariant (h : PassInvariant o t.topology Q) (op : Operation)
    (hq : Q b.bindings w)
    (hstart : op = .start → ∀ sysConfig s late w', AtBinding o t b w sysConfig s late w' →
      Q (bound o t sysConfig w').2.1 (bound o t sysConfig w').2.2)
    (hrediscover : op = .rediscover → ∀ sysConfig,
      w.files.readText t.release.sysConfig = .ok sysConfig →
      Q ((ofTopology t.topology).recover t.topology sysConfig).2 w) :
    Q (op.perform o t b w).1.bindings (op.perform o t b w).2 := by
  cases op <;> simp only [perform]
  case start => exact start_invariant h.toBindInvariant hq (hstart rfl)
  case stop => exact stop_invariant h.toBindInvariant h.toUnbindInvariant hq
  case rediscover => exact rediscover_invariant hq (hrediscover rfl)
  case stopSwitch => exact stopSwitch_invariant h.toBindInvariant h.toUnbindInvariant hq
  case startSwitch => exact startSwitch_invariant h.toBindInvariant hq
  case setPortState port up => exact setPortState_invariant h.toBindInvariant hq port up

end Operations

section Accounts

variable {t : Testbed}

theorem Step.take_accounts (step : Step) (s : BringUp × World)
    (h : s.1.bindings.Accounts t.topology) :
    (step.take t s).1.bindings.Accounts t.topology := by
  cases step with
  | operation o op =>
    have hp := Bindings.passInvariant_accounts o t.topology
    have hnew := Bindings.accounts_ofTopology t.topology
    exact Operation.perform_invariant (Q := fun b _ => b.Accounts t.topology) hp op h
      (fun _ sysConfig _ _ w' _ => hnew.bindAll o sysConfig w')
      (fun _ sysConfig _ => hnew.recover o s.2 sysConfig)
  | pass o p => exact (Bindings.passInvariant_accounts o t.topology).run p h
  | elsewhere files cancelled => exact h

/-- The bindings account for the topology all along a run. -/
theorem run_accounts (steps : List Step) (w : World) :
    (run t steps (fresh t.topology, w)).1.bindings.Accounts t.topology :=
  run_induction (I := fun s => s.1.bindings.Accounts t.topology) Step.take_accounts steps
    (Bindings.accounts_ofTopology t.topology)

end Accounts

/-! ## A small testbed -/

namespace Sample

def roadm : Node := .new "r1" (.ofNumber 0xff01) .roadm .empty

def packetSwitch : Node := .new "s1" (.ofNumber 1) .switch .empty

/-- The cross-connect between port 10 of the ROADM and port 1 of the packet switch. -/
def crossConnect : Link := ⟨⟨"r1", 10, 10⟩, ⟨"s1", 1, 0⟩, .optical, .empty⟩

def topology : Topology where
  nodes := [roadm, packetSwitch]
  positions := (Dict.empty.insert "r1" 0).insert "s1" 1
  links := [crossConnect]
  domains := .empty

theorem built : topology.Built := by
  have hr : Topology.Built ⟨[roadm], Dict.empty.insert "r1" 0, [], .empty⟩ :=
    .addNode (n := roadm) .empty rfl
  have hp : Topology.Built { topology with links := [] } := .addNode (n := packetSwitch) hr rfl
  have hf : Topology.linkFault? { topology with links := [] } crossConnect = none := by decide
  refine @Topology.Built.addLink _ _ crossConnect 0 hp ?_
  rw [Topology.addLink, hf]
  rfl

def configuration : Configuration where
  controllers := [⟨"10.0.0.1", 6633⟩]
  restPort := 8181
  credentials := .standard
  user := "u"
  onosRoot := none
  emulatorRoot := none
  generatorRoot := none
  workDirectory := "/work"
  interfaceWait := ⟨.ofSeconds 1, .ofSeconds 1⟩
  deviceWait := ⟨.ofSeconds 1, .ofSeconds 1⟩

def testbed : Testbed where
  configuration := configuration
  installation := ⟨"/onos", "/linc", "/gen"⟩
  topology := topology
  domain := none
  release := ⟨"/linc", "/pipes"⟩

/-- A `sys.config` that names a tap for the cross-connect. -/
def sysConfig : String :=
  joined "\n" ["\x7bport,1,[\x7binterface,\"tap7\"\x7d]\x7d", "\x7bswitch,0,",
    "\x7bdatapath_id,\"00:00:00:00:00:00:ff:01\"\x7d", "\x7bport,1,\x7bport_no,10\x7d\x7d"]

/-- The directories of the testbed, with a `sys.config` in the work directory and in the release. -/
def files : FileTree where
  entries := [(["work"], .directory), (["linc"], .directory), (["linc", "rel"], .directory),
    (["linc", "rel", "linc"], .directory), (["linc", "rel", "linc", "releases"], .directory),
    (["linc", "rel", "linc", "releases", "1.0"], .directory), (["pipes"], .directory),
    (["work", "sys.config"], .file sysConfig.toUTF8),
    (["linc", "rel", "linc", "releases", "1.0", "sys.config"], .file sysConfig.toUTF8)]
  current := []

/-- Programs that print nothing, and a controller that reports no device. -/
def outside : Outside :=
  OpenVSwitch.outside (fun w _ => ⟨.ok "", w.files, false⟩) (fun w => ⟨.ok ⟨[]⟩, w.files, false⟩)

def world : World := ⟨files, false, []⟩

/-- A `sys.config` that names the same tap in fewer words. -/
def terseConfig : String := "port,1,tap7\n00:00:00:00:00:00:ff:01\nport,1,port_no,10\x7d"

def terseWorld : World :=
  { world with files := files.put ["work", "sys.config"] (.file terseConfig.toUTF8) }

end Sample

end BringUp

end OpticalTestbed
