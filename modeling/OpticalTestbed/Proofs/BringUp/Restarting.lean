import OpticalTestbed.Proofs.BringUp.Numbering
import OpticalTestbed.Proofs.Rebinding
/-!
Stopping one ROADM and starting it again. To stop it releases its taps one by one, to start it binds
all its cross-connects anew, and neither touches another ROADM: what was attached is attached again,
as long as the `sys.config` still names the same taps and no call fails.
-/
namespace OpticalTestbed.BringUp

variable {o : Outside} {t : Testbed} {name : String} {b : BringUp} {w : World} {node : Node} {n : Nat}

/-- A ROADM has a number among those that are known. -/
structure Configured (t : Testbed) (name : String) (b : BringUp) (w : World) (node : Node)
    (n : Nat) : Prop where
  found : t.topology.node? name = some node
  roadm : node.isRoadm = true
  number : (knownSwitchIds t b w).get? node.dpid.text = some n

theorem Configured.switchNumber_eq (h : Configured t name b w node n) :
    switchNumber t name b w = (.ok (n, node), { b with switchIds := knownSwitchIds t b w }) := by
  have hfound : (t.topology.node? name).filter (·.isRoadm) = some node :=
    Option.filter_eq_some_iff.2 ⟨h.found, h.roadm⟩
  simp only [switchNumber, hfound, h.number]

theorem configured_of_switchNumber {b' : BringUp}
    (h : switchNumber t name b w = (.ok (n, node), b')) :
    Configured t name b w node n ∧ b' = { b with switchIds := knownSwitchIds t b w } := by
  cases switchNumber_path h with
  | numbered hnode hroadm hnumber => exact ⟨⟨hnode, hroadm, hnumber⟩, rfl⟩

theorem Configured.number_unique {node' : Node} {n' : Nat} (h : Configured t name b w node n)
    (h' : Configured t name b w node' n') : n = n' := by
  obtain rfl := Option.some.inj (h.found.symm.trans h'.found)
  exact Option.some.inj (h.number.symm.trans h'.number)

/-- The world after a command on the console. -/
abbrev told (t : Testbed) (c : ConsoleCommand) (w : World) : World :=
  (Console.tell t.release c w).2

/-- The file that a started switch leaves for the controller. -/
abbrev crossConnectPath (t : Testbed) : String :=
  Path.join t.configuration.workDirectory crossConnectFile

/-- What binding comes to when switch `n` is started with a `sys.config`. -/
abbrev rebound (o : Outside) (t : Testbed) (name sysConfig : String) (n : Nat) (b : BringUp)
    (w : World) : BindReport × Bindings × World :=
  b.bindings.bindDetached o t.topology sysConfig name (told t (.startSwitch n) w)

/-- The ways in which a ROADM is started. -/
inductive RestartPath (o : Outside) (t : Testbed) (name : String) (b : BringUp) (w : World) :
    Outcome BindReport → Prop
  | refused {e : Failure} {b' : BringUp} : switchNumber t name b w = (.error e, b') →
    RestartPath o t name b w (.error e, b', w)
  | unread {node : Node} {n : Nat} {e : Failure} {w₁ : World} : Configured t name b w node n →
    Op.readText t.release.sysConfig (told t (.startSwitch n) w) = (.error e, w₁) →
    RestartPath o t name b w (.error e, { b with switchIds := knownSwitchIds t b w }, w₁)
  | unwritten {node : Node} {n : Nat} {sysConfig : String} {e : Failure} {w₁ : World} :
    Configured t name b w node n →
    (told t (.startSwitch n) w).files.readText t.release.sysConfig = .ok sysConfig →
    Op.writeText (crossConnectPath t) (crossConnectDocument t name).toJson.document
      (rebound o t name sysConfig n b w).2.2 = (.error e, w₁) →
    RestartPath o t name b w (.error e, { b with
      switchIds := knownSwitchIds t b w
      bindings := (rebound o t name sysConfig n b w).2.1 }, w₁)
  | restarted {node : Node} {n : Nat} {sysConfig : String} {w₁ : World} :
    Configured t name b w node n →
    (told t (.startSwitch n) w).files.readText t.release.sysConfig = .ok sysConfig →
    Op.writeText (crossConnectPath t) (crossConnectDocument t name).toJson.document
      (rebound o t name sysConfig n b w).2.2 = (.ok (), w₁) →
    RestartPath o t name b w
      (.ok ⟨(rebound o t name sysConfig n b w).1.bound,
        (rebound o t name sysConfig n b w).1.warnings ++ (pushCrossConnects o t w₁).1⟩, { b with
      switchIds := knownSwitchIds t b w
      bindings := (rebound o t name sysConfig n b w).2.1 }, (pushCrossConnects o t w₁).2)

theorem startSwitch_restartPath (o : Outside) (t : Testbed) (name : String) (b : BringUp) (w : World) :
    RestartPath o t name b w (startSwitch o t name b w) := by
  unfold startSwitch
  split
  · rename_i found
    exact .refused found
  · rename_i n node b' found
    obtain ⟨configured, rfl⟩ := configured_of_switchNumber found
    dsimp only
    split
    · rename_i failed
      exact .unread configured failed
    · rename_i sysConfig w₁ readBack
      obtain ⟨hread, rfl⟩ := Op.readText_ok readBack
      split
      · rename_i failed
        exact .unwritten configured hread failed
      · rename_i w₂ written
        exact .restarted configured hread written

section Frame

/-- Numbers that are known stay known, whatever is installed later. -/
theorem Configured.later {b' : BringUp} (h : Configured t name b w node n)
    (hids : b'.switchIds = knownSwitchIds t b w) (w' : World) : Configured t name b' w' node n where
  found := h.found
  roadm := h.roadm
  number := by
    have hnumber := h.number
    rw [← hids] at hnumber
    -- numbers are loaded once: those that are there are not looked up again
    have hfilled : ¬b'.switchIds.isEmpty = true := fun hempty => by
      cases hnumber.symm.trans (Dict.get?_of_isEmpty hempty _)
    rwa [knownSwitchIds, if_neg hfilled]

theorem Configured.stopSwitch_eq (h : Configured t name b w node n) (o : Outside) :
    stopSwitch o t name b w = (.ok (), { b with
      switchIds := knownSwitchIds t b w
      bindings := (b.bindings.unbind o t.topology name (told t (.stopSwitch n) w)).2.1 },
      (b.bindings.unbind o t.topology name (told t (.stopSwitch n) w)).2.2) := by
  simp only [stopSwitch, h.switchNumber_eq]

/-- To start a ROADM changes what is bound on that ROADM only. -/
theorem roadm?_startSwitch {other : String} (h : other ≠ name) :
    (startSwitch o t name b w).2.1.bindings.roadm? other = b.bindings.roadm? other := by
  have path := startSwitch_restartPath o t name b w
  generalize startSwitch o t name b w = outcome at path
  cases path with
  | refused found => rw [switchNumber_bindings found]
  | unread => rfl
  | unwritten => exact Bindings.roadm?_bindDetached h
  | restarted => exact Bindings.roadm?_bindDetached h

end Frame

/-- What stopping a ROADM comes to: the host is asked to give up each tap of it, nobody is asked for
anything else, and the other ROADMs are as they were. -/
structure SwitchStopped (t : Testbed) (name : String) (b : BringUp) (w : World)
    (released : List Occurrence) (outcome : Outcome Unit) : Prop where
  answer : outcome.1 = .ok ()
  calls : w.Traces outcome.2.2 released
  each : List.Forall₂ (fun e c => c.event.Releases t.topology e) (b.bindings.attachedOn name)
    released
  detached : outcome.2.1.bindings.attachedOn name = []
  others : ∀ other ≠ name, outcome.2.1.bindings.roadm? other = b.bindings.roadm? other

theorem Configured.exists_stopped (h : Configured t name b w node n)
    (ha : b.bindings.Accounts t.topology) (o : Outside) :
    ∃ released, SwitchStopped t name b w released (stopSwitch o t name b w) := by
  have htold : w.Traces (told t (.stopSwitch n) w) [] := World.traces_of_history_eq rfl
  obtain ⟨released, hreleased, heach⟩ :=
    Bindings.unbind_traces (o := o) (w := told t (.stopSwitch n) w) ha name
  rw [h.stopSwitch_eq]
  refine ⟨released, ?_⟩
  constructor
  case answer => rfl
  case calls => exact htold.append hreleased
  case each => exact heach
  case detached =>
    refine Bindings.attachedOn_eq_nil_iff.2 fun link => ?_
    rw [Bindings.tap?_unbind, if_pos rfl]
  case others => exact fun other hne => Bindings.roadm?_unbind hne

section Start

/-- A ROADM whose number is known is bound by the `sys.config` that is read, and only writing the
document for the controller can fail then. -/
theorem Configured.startSwitch_rebinds (h : Configured t name b w node n) {sysConfig : String}
    (hread : installed t (told t (.startSwitch n) w) = .ok sysConfig) (o : Outside) :
    (startSwitch o t name b w).2.1.bindings = (rebound o t name sysConfig n b w).2.1 ∧
      (rebound o t name sysConfig n b w).2.2.Quiet (startSwitch o t name b w).2.2 ∧
      ((Op.writeText (crossConnectPath t) (crossConnectDocument t name).toJson.document
          (rebound o t name sysConfig n b w).2.2).1 = .ok () →
        ∃ warnings, (startSwitch o t name b w).1 =
          .ok ⟨(rebound o t name sysConfig n b w).1.bound, warnings⟩) := by
  have path := startSwitch_restartPath o t name b w
  generalize startSwitch o t name b w = outcome at path
  cases path with
  | refused found => cases found.symm.trans h.switchNumber_eq
  | unread configured failed =>
    obtain rfl := configured.number_unique h
    obtain ⟨fault, hfault, -, -⟩ := Op.readText_error failed
    cases hfault.symm.trans hread
  | unwritten configured hread' failed =>
    obtain rfl := configured.number_unique h
    obtain rfl := Except.ok.inj (hread'.symm.trans hread)
    refine ⟨rfl, (World.writeText_calls _ _).of_eq failed, fun hok => ?_⟩
    rw [failed] at hok
    cases hok
  | @restarted _ _ _ w₁ configured hread' written =>
    obtain rfl := configured.number_unique h
    obtain rfl := Except.ok.inj (hread'.symm.trans hread)
    have hwritten : World.Quiet _ w₁ := (World.writeText_calls _ _).of_eq written
    exact ⟨rfl, IsTrans.trans _ _ _ hwritten (pushCrossConnects_along o.call_quiet w₁),
      fun _ => ⟨_, rfl⟩⟩

/-- What has become of a ROADM that was stopped and started again with a `sys.config`: each of its
cross-connects has the tap that is named for it, and the host took these taps. So a link has its tap
again that is still named; the packet switch that had to give it up took it back. -/
structure SwitchRestored (t : Testbed) (node : Node) (sysConfig : String) (before after : Bindings)
    (released trace : List Occurrence) : Prop where
  taps : ∀ link ∈ t.topology.crossConnectsOf node.name,
    after.tap? node.name link = Bindings.tapFor t.topology sysConfig node link
  taken : List.Forall₂ (Event.Takes t.topology) (after.attachedOn node.name) (hostCalls trace)
  restored : ∀ link tap, (link, tap) ∈ before.attachedOn node.name →
    Bindings.tapFor t.topology sysConfig node link = some tap →
    (link, tap) ∈ after.attachedOn node.name ∧ ∃ packet answer,
      .detached packet tap answer ∈ hostCalls released ∧
      .attached packet tap (.ok ()) ∈ hostCalls trace

/-- What starting a stopped ROADM comes to. -/
structure SwitchRestarted (o : Outside) (t : Testbed) (node : Node) (n : Nat) (sysConfig : String)
    (before : Bindings) (released : List Occurrence) (b : BringUp) (w : World)
    (outcome : Outcome BindReport) : Prop where
  answer : (Op.writeText (crossConnectPath t) (crossConnectDocument t node.name).toJson.document
      (rebound o t node.name sysConfig n b w).2.2).1 = .ok () →
    ∃ warnings, outcome.1 = .ok ⟨outcome.2.1.bindings.attachedOn node.name, warnings⟩
  calls : ∃ trace, w.Traces outcome.2.2 trace ∧ (Unfailing trace →
    SwitchRestored t node sysConfig before outcome.2.1.bindings released trace)

/-- A ROADM with nothing attached that is started. -/
theorem Configured.restarted (h : Configured t node.name b w node n)
    (ha : b.bindings.Accounts t.topology) (hfree : b.bindings.attachedOn node.name = [])
    {before : Bindings} (hbefore : before.Accounts t.topology) {released : List Occurrence}
    (hreleased : List.Forall₂ (fun e c => c.event.Releases t.topology e)
      (before.attachedOn node.name) released) {sysConfig : String}
    (hread : installed t (told t (.startSwitch n) w) = .ok sysConfig) (o : Outside) :
    SwitchRestarted o t node n sysConfig before released b w (startSwitch o t node.name b w) := by
  obtain ⟨hbindings, hquiet, hanswer⟩ := h.startSwitch_rebinds hread o
  obtain ⟨hbound, made, hmade, htaken⟩ :=
    ha.rebinds h.found h.roadm hfree o sysConfig (told t (.startSwitch n) w)
  have htold : w.Traces (told t (.startSwitch n) w) [] := World.traces_of_history_eq rfl
  obtain ⟨more, hmore, hothers⟩ := World.calls_iff_traces.1 hquiet
  constructor
  case answer =>
    rw [hbindings, ← hbound]
    exact hanswer
  case calls =>
    refine ⟨made ++ more, (htold.append hmade).append hmore, fun hnone => ?_⟩
    rw [hbindings]
    obtain ⟨htaps, htakes⟩ := htaken (List.forall_mem_append.1 hnone).1
    -- writing the document and telling the controller ask nothing of the host
    have hcalls : hostCalls (made ++ more) = hostCalls made := by
      rw [hostCalls_append, hostCalls_eq_nil hothers, List.append_nil]
    rw [← hcalls] at htakes
    refine ⟨htaps, htakes, fun link tap hlink htap => ?_⟩
    have hon := hbefore.of_tap? (Bindings.mem_attachedOn.1 hlink)
    have hagain := Bindings.mem_attachedOn.2 ((htaps link hon).trans htap)
    -- the link has one end on a packet switch, which gave the tap up and has taken it
    obtain ⟨c, hc, ends, answer, hends, hgiven⟩ := exists_of_forall₂ hreleased.flip hlink
    obtain ⟨e, he, ends', hends', rfl⟩ := exists_of_forall₂ htakes.flip hagain
    obtain rfl := Option.some.inj (hends.symm.trans hends')
    refine ⟨hagain, ends.2.node, answer, ?_, he⟩
    exact List.mem_filter.2 ⟨List.mem_map.2 ⟨c, hc, hgiven⟩, rfl⟩

end Start

/-- In every state that a bring-up comes to: to start a ROADM changes the bindings of that ROADM
only. A ROADM whose number is known is stopped by releasing its taps, and changes no other ROADM
either. When it is started again, at any time and whatever `sys.config` is installed by then, it is
bound as that `sys.config` says, and as before where that has not changed. The ROADMs whose numbers
are known are those that the installed `sys.config` numbers, as long as it changes only when a start
installs one. -/
theorem run_restarts (t : Testbed) (steps : List Step) (w : World) :
    ∃ b v, run t steps (fresh t.topology, w) = (b, v) ∧
      (InstallsOnly t steps (fresh t.topology, w) → ∀ node n,
        t.topology.node? node.name = some node → node.isRoadm = true →
        (Configured t node.name b v node n ↔ installedNumber t v node.dpid = some n)) ∧
      (∀ o name other, other ≠ name →
        (startSwitch o t name b v).2.1.bindings.roadm? other = b.bindings.roadm? other) ∧
      ∀ o node n, Configured t node.name b v node n →
        ∃ released, SwitchStopped t node.name b v released (stopSwitch o t node.name b v) ∧
          ∀ o' v' sysConfig, installed t (told t (.startSwitch n) v') = .ok sysConfig →
            SwitchRestarted o' t node n sysConfig b.bindings released
              (stopSwitch o t node.name b v).2.1 v'
              (startSwitch o' t node.name (stopSwitch o t node.name b v).2.1 v') := by
  have ha := run_accounts (t := t) steps w
  have hnumbered : InstallsOnly t steps (fresh t.topology, w) →
      Numbered t (run t steps (fresh t.topology, w)).1.switchIds
        (run t steps (fresh t.topology, w)).2 :=
    fun honly => run_numbered w honly List.prefix_rfl
  generalize run t steps (fresh t.topology, w) = s at ha hnumbered
  obtain ⟨b, v⟩ := s
  refine ⟨b, v, rfl, fun honly node n found isRoadm => ?_, fun o name other hne => ?_,
    fun o node n h => ?_⟩
  · rw [← (hnumbered honly).get?_known]
    exact ⟨Configured.number, fun hnumber => ⟨found, isRoadm, hnumber⟩⟩
  · exact roadm?_startSwitch hne
  · obtain ⟨released, hstopped⟩ := h.exists_stopped ha o
    refine ⟨released, hstopped, fun o' v' sysConfig hread => ?_⟩
    have hids : (stopSwitch o t node.name b v).2.1.switchIds = knownSwitchIds t b v := by
      rw [h.stopSwitch_eq]
    have hkept : (stopSwitch o t node.name b v).2.1.bindings.Accounts t.topology :=
      stopSwitch_invariant (Bindings.passInvariant_accounts o t.topology).toBindInvariant
        (Bindings.passInvariant_accounts o t.topology).toUnbindInvariant (w := v) ha
    exact (h.later hids v').restarted hkept hstopped.detached ha hstopped.each hread o'

/-- After a start the ROADM is stopped and started again, and has its tap again. -/
theorem run_restarts_sample :
    ∃ b v, run Sample.testbed [.operation Sample.outside .start]
        (fresh Sample.topology, Sample.terseWorld) = (b, v) ∧
      let stopped := stopSwitch Sample.outside Sample.testbed "r1" b v
      let started := startSwitch Sample.outside Sample.testbed "r1" stopped.2.1 stopped.2.2
      Configured Sample.testbed "r1" b v Sample.roadm 1 ∧
      b.bindings.attachedOn "r1" = [(0, "tap7")] ∧ stopped.2.1.bindings.attachedOn "r1" = [] ∧
      Unfailing started.2.2.history ∧ ∃ released trace,
        SwitchRestored Sample.testbed Sample.roadm Sample.terseConfig b.bindings
          started.2.1.bindings released trace := by
  obtain ⟨hnumber, hread, hattached, hnone⟩ :
      let s := run Sample.testbed [.operation Sample.outside .start]
        (fresh Sample.topology, Sample.terseWorld)
      let stopped := stopSwitch Sample.outside Sample.testbed "r1" s.1 s.2
      (knownSwitchIds Sample.testbed s.1 s.2).get? Sample.roadm.dpid.text = some 1 ∧
        (installed Sample.testbed (told Sample.testbed (.startSwitch 1) stopped.2.2)).toOption =
          some Sample.terseConfig ∧
        s.1.bindings.attachedOn "r1" = [(0, "tap7")] ∧
        Unfailing (startSwitch Sample.outside Sample.testbed "r1" stopped.2.1
          stopped.2.2).2.2.history := by decide +kernel
  obtain ⟨b, v, hrun, -, -, hrestarts⟩ := run_restarts Sample.testbed
    [.operation Sample.outside .start] Sample.terseWorld
  have hrun' : run Sample.testbed [.operation Sample.outside .start]
      (fresh Sample.topology, Sample.terseWorld) = (b, v) := hrun
  rw [hrun'] at hnumber hread hattached hnone
  have hconfigured : Configured Sample.testbed "r1" b v Sample.roadm 1 := ⟨rfl, rfl, hnumber⟩
  obtain ⟨released, hstopped, hagain⟩ := hrestarts Sample.outside Sample.roadm 1 hconfigured
  have hinstalled : installed Sample.testbed (told Sample.testbed (.startSwitch 1)
      (stopSwitch Sample.outside Sample.testbed "r1" b v).2.2) = .ok Sample.terseConfig :=
    toOption_eq_some_iff.1 hread
  obtain ⟨-, trace, htrace, hrestored⟩ := hagain Sample.outside _ Sample.terseConfig hinstalled
  exact ⟨b, v, hrun, hconfigured, hattached, hstopped.detached, hnone, released, trace,
    hrestored (htrace.unfailing hnone)⟩

namespace Sample

/-- Another ROADM on the packet switch. -/
def second : Node := .new "r2" (.ofNumber 0xff02) .roadm .empty

/-- A testbed with both ROADMs, whose work directory is where the `sys.config` is installed. -/
def shared : Testbed := { testbed with
  configuration := { configuration with workDirectory := "/linc/rel/linc/releases/1.0" }
  topology :=
    { nodes := [roadm, second, packetSwitch]
      positions := ((Dict.empty.insert "r1" 0).insert "r2" 1).insert "s1" 2
      links := [crossConnect, ⟨⟨"r2", 10, 10⟩, ⟨"s1", 2, 0⟩, .optical, .empty⟩]
      domains := .empty } }

/-- The installed `sys.config` numbers the first ROADM only. -/
def firstWorld : World :=
  { world with files := files.put installedAt (.file "00:00:00:00:00:00:ff:01".toUTF8) }

/-- A `sys.config` that numbers the second ROADM and names a tap for it. -/
def secondConfig : String := "port,2,tap8\n00:00:00:00:00:00:ff:02\nport,2,port_no,10\x7d"

/-- A generator that leaves this `sys.config` and has something to say all the same. -/
def talkative : Outside := OpenVSwitch.outside (fun w i =>
  if i.program = "/gen/config_generator" then
    ⟨.ok "done", w.files.put installedAt (.file secondConfig.toUTF8), false⟩
  else ⟨.ok "", w.files, false⟩) (fun w => ⟨.ok ⟨[]⟩, w.files, false⟩)

end Sample

/-- The numbers are those of the `sys.config` that was there when the first ROADM was stopped; the
one that a failed start has left numbers the second ROADM. To stop and to start that one is refused:
nobody is asked for anything, and its link stays detached though its tap is named. -/
theorem restart_refused :
    ∃ b v, run Sample.shared [.operation Sample.outside (.stopSwitch "r1"),
        .operation Sample.talkative .start] (fresh Sample.shared.topology, Sample.firstWorld) = (b, v) ∧
      Sample.shared.topology.node? "r2" = some Sample.second ∧ Sample.second.isRoadm = true ∧
      installedNumber Sample.shared v Sample.second.dpid = some 1 ∧
      (installed Sample.shared v).toOption.bind
        (Bindings.tapFor Sample.shared.topology · Sample.second 1) = some "tap8" ∧
      1 ∈ Sample.shared.topology.crossConnectsOf "r2" ∧ b.bindings.tap? "r2" 1 = none ∧
      ∃ e, stopSwitch Sample.outside Sample.shared "r2" b v = (.error e, b, v) ∧
        startSwitch Sample.outside Sample.shared "r2" b v = (.error e, b, v) := by
  obtain ⟨hnumber, htap, hlink, hdetached, hfilled, hunknown⟩ :
      let s := run Sample.shared [.operation Sample.outside (.stopSwitch "r1"),
        .operation Sample.talkative .start] (fresh Sample.shared.topology, Sample.firstWorld)
      installedNumber Sample.shared s.2 Sample.second.dpid = some 1 ∧
        (installed Sample.shared s.2).toOption.bind
          (Bindings.tapFor Sample.shared.topology · Sample.second 1) = some "tap8" ∧
        1 ∈ Sample.shared.topology.crossConnectsOf "r2" ∧ s.1.bindings.tap? "r2" 1 = none ∧
        s.1.switchIds.isEmpty = false ∧ s.1.switchIds.get? Sample.second.dpid.text = none := by
    decide +kernel
  generalize run Sample.shared [.operation Sample.outside (.stopSwitch "r1"),
    .operation Sample.talkative .start] (fresh Sample.shared.topology, Sample.firstWorld) = s
    at hnumber htap hdetached hfilled hunknown
  obtain ⟨b, v⟩ := s
  have hknown : knownSwitchIds Sample.shared b v = b.switchIds := by
    rw [knownSwitchIds, hfilled]
    rfl
  have hfound : (Sample.shared.topology.node? "r2").filter (·.isRoadm) = some Sample.second := rfl
  have hrefused : switchNumber Sample.shared "r2" b v =
      (.error (.invalidTopology (.notConfigured "r2" Sample.second.dpid.text)), b) := by
    simp only [switchNumber, hfound, hknown, hunknown]
  refine ⟨b, v, rfl, rfl, rfl, hnumber, htap, hlink, hdetached,
    .invalidTopology (.notConfigured "r2" Sample.second.dpid.text), ?_, ?_⟩
  · simp only [stopSwitch, hrefused]
  · simp only [startSwitch, hrefused]

end OpticalTestbed.BringUp
