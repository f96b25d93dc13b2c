import OpticalTestbed.BringUp.Operations
import OpticalTestbed.Proofs.Passes
/-!
The ways in which a start can go, and the calls that its parts make.
-/
namespace OpticalTestbed.BringUp

variable {o : Outside} {t : Testbed} {b : BringUp} {w : World}

/-- The state once a `sys.config` has been installed. -/
def synthesized (b : BringUp) (sysConfig : String) (s : Synthesis) : BringUp :=
  { b with switchIds := SwitchIds.ofText sysConfig, synthesis := some s }

/-- A start from nothing has installed a `sys.config` and started the emulator. -/
structure Launched (o : Outside) (t : Testbed) (b : BringUp) (w : World) (sysConfig : String)
    (s : Synthesis) (w' : World) : Prop where
  idle : b.phase = .idle
  made : ∃ w₁, synthesize o t w = (.ok (sysConfig, s), w₁) ∧
    launch o t sysConfig w₁ = (.ok (), w')

/-- A start has waited for taps, with some warnings, and comes to bind links. -/
structure AtBinding (o : Outside) (t : Testbed) (b : BringUp) (w : World) (sysConfig : String)
    (s : Synthesis) (late : List Failure) (w' : World) : Prop where
  waited : ∃ w₁ answer, Launched o t b w sysConfig s w₁ ∧
    Waiting.forTaps o t.configuration.interfaceWait t.topology.crossConnects.length w₁ =
      (answer, w') ∧
    waitWarning answer = .ok late

/-- What binding comes to in a start. -/
abbrev bound (o : Outside) (t : Testbed) (sysConfig : String) (w : World) :
    BindReport × Bindings × World :=
  (Bindings.ofTopology t.topology).bindAll o t.topology sysConfig w

/-- The ways in which a start goes. -/
inductive StartPath (o : Outside) (t : Testbed) (b : BringUp) (w : World) :
    Outcome BringUpReport → Prop
  | notIdle : b.phase ≠ .idle → StartPath o t b w (.error (.notIdle b.phase.text), b, w)
  | notSynthesized {e : Failure} {w₁ : World} : b.phase = .idle →
    synthesize o t w = (.error e, w₁) → StartPath o t b w (.error e, b, w₁)
  | notLaunched {sysConfig : String} {s : Synthesis} {e : Failure} {w₁ w₂ : World} :
    b.phase = .idle → synthesize o t w = (.ok (sysConfig, s), w₁) →
    launch o t sysConfig w₁ = (.error e, w₂) →
    StartPath o t b w (.error e, b.synthesized sysConfig s, w₂)
  | cancelledBeforeBinding {sysConfig what : String} {s : Synthesis} {w₁ w₂ : World} :
    Launched o t b w sysConfig s w₁ →
    Waiting.forTaps o t.configuration.interfaceWait t.topology.crossConnects.length w₁ =
      (.error (.cancelled what), w₂) →
    StartPath o t b w (.error (.cancelled what),
      { b.synthesized sysConfig s with phase := .waitingForInterfaces }, w₂)
  | cancelledAfterBinding {sysConfig what : String} {s : Synthesis} {late : List Failure}
    {w₁ w₂ : World} : AtBinding o t b w sysConfig s late w₁ →
    Waiting.forDevices o t.configuration.deviceWait
      (b.synthesized sysConfig s).expectedDevices (bound o t sysConfig w₁).2.2 =
        (.error (.cancelled what), w₂) →
    StartPath o t b w (.error (.cancelled what),
      { b.synthesized sysConfig s with
        phase := .waitingForControllerSync
        bindings := (bound o t sysConfig w₁).2.1 }, w₂)
  | finished {sysConfig : String} {s : Synthesis} {late later all : List Failure}
    {answer : Except Failure Unit} {w₁ w₂ : World} : AtBinding o t b w sysConfig s late w₁ →
    Waiting.forDevices o t.configuration.deviceWait
      (b.synthesized sysConfig s).expectedDevices (bound o t sysConfig w₁).2.2 = (answer, w₂) →
    waitWarning answer = .ok later →
    all = late ++ (bound o t sysConfig w₁).1.warnings ++ later ++
      (pushAll o t t.configuration.controllers w₂).1 →
    StartPath o t b w (.ok ⟨(bound o t sysConfig w₁).1.bound.length, all, !all.isEmpty⟩,
      { b.synthesized sysConfig s with
        phase := .running
        bindings := (bound o t sysConfig w₁).2.1 },
      (pushAll o t t.configuration.controllers w₂).2)

theorem waitWarning_error {α : Type} {answer : Except Failure α} {e : Failure}
    (h : waitWarning answer = .error e) : ∃ what, e = .cancelled what ∧ answer = .error e := by
  cases answer with
  | ok a => cases h
  | error f => cases f <;> cases h; exact ⟨_, rfl, rfl⟩

theorem start_path (o : Outside) (t : Testbed) (b : BringUp) (w : World) :
    StartPath o t b w (start o t b w) := by
  unfold start
  split
  · rename_i hphase
    exact .notIdle hphase
  · rename_i hphase
    have idle : b.phase = .idle := Decidable.not_not.1 hphase
    split
    · rename_i failed
      exact .notSynthesized idle failed
    · rename_i sysConfig s w₁ made
      dsimp only
      split
      · rename_i failed
        exact .notLaunched idle made failed
      · rename_i w₂ launched
        have hl : Launched o t b w sysConfig s w₂ := ⟨idle, w₁, made, launched⟩
        unfold connect
        dsimp only
        split
        · rename_i e cancelled
          obtain ⟨what, rfl, ha⟩ := waitWarning_error cancelled
          exact .cancelledBeforeBinding hl (Prod.ext ha rfl)
        · rename_i late hlate
          have hb : AtBinding o t b w sysConfig s late _ := ⟨w₂, _, hl, rfl, hlate⟩
          unfold sync
          dsimp only
          split
          · rename_i e cancelled
            obtain ⟨what, rfl, ha⟩ := waitWarning_error cancelled
            exact .cancelledAfterBinding hb (Prod.ext ha rfl)
          · rename_i later hlater
            exact .finished hb rfl hlater rfl

/-- The part of a synthesis that comes before its result is installed. -/
def prepare (o : Outside) (t : Testbed) : Op (String × Synthesis) := do
  let work := t.configuration.workDirectory
  let synthesis ← Synthesis.ofDomain t.topology t.domain
  let _ ← synthesis.write work
  let generated ← SysConfig.generate o t.installation.generatorRoot work t.configuration.controllers
  let text ← Op.readText generated
  return (text, synthesis)

theorem synthesize_eq : synthesize o t = prepare o t >>= fun made =>
    Op.writeText t.release.sysConfig made.1 >>= fun _ => pure made := by
  simp only [synthesize, prepare, bind_assoc, pure_bind]

/-- The files that a start writes into the work directory. -/
def workFiles : List String := [networkFile, emulatorFile, sysConfigFile]

/-- The programs that a start runs before the emulator's script. -/
inductive IsEarlyCall (t : Testbed) : Invocation → Prop
  | generator (first : Controller) : IsEarlyCall t (SysConfig.generatorCall
      t.installation.generatorRoot t.configuration.workDirectory first)
  | interface {i : Invocation} : Interfaces.IsCall i → IsEarlyCall t i

/-- The programs that a start runs before it waits for anything. -/
inductive IsStartCall (t : Testbed) : Invocation → Prop
  | early {i : Invocation} : IsEarlyCall t i → IsStartCall t i
  | script (action : String) : IsStartCall t (Emulator.scriptCall t.release action)

section Calls

variable {C : (α : Type) → Op α → Prop}

theorem prepare_of_calls (hC : Op.Composes C)
    (hg : ∀ first, C _ (o.call (SysConfig.generatorCall t.installation.generatorRoot
      t.configuration.workDirectory first)))
    (hw : ∀ file ∈ workFiles, ∀ text,
      C _ (Op.writeText (Path.join t.configuration.workDirectory file) text)) :
    C _ (prepare o t) := by
  have hd : ∀ s : Synthesis, C _ (s.write t.configuration.workDirectory) := fun s =>
    s.write_of_calls hC fun file hf => hw file (List.mem_append_left [sysConfigFile] hf)
  have hs := hw sysConfigFile (by simp [workFiles])
  refine hC.bind (hC.reads (Synthesis.reads_ofDomain _ _)) fun s => hC.bind (hd s) fun _ => ?_
  refine hC.bind (SysConfig.generate_of_calls hC hg hs _) fun path => ?_
  exact hC.bind (hC.reads (Op.reads_readText path)) fun text => hC.pure _

theorem synthesize_of_calls (hC : Op.Composes C)
    (hg : ∀ first, C _ (o.call (SysConfig.generatorCall t.installation.generatorRoot
      t.configuration.workDirectory first)))
    (hw : ∀ file ∈ workFiles, ∀ text,
      C _ (Op.writeText (Path.join t.configuration.workDirectory file) text))
    (hi : ∀ text, C _ (Op.writeText t.release.sysConfig text)) : C _ (synthesize o t) := by
  rw [synthesize_eq]
  exact hC.bind (prepare_of_calls hC hg hw) fun made =>
    hC.bind (hi made.1) fun _ => hC.pure _

theorem launch_of_calls (hC : Op.Composes C) (hi : ∀ i, Interfaces.IsCall i → C _ (o.call i))
    (hc : C _ (Console.clear t.release))
    (he : ∀ action, C _ (o.call (Emulator.scriptCall t.release action))) (sysConfig : String) :
    C _ (launch o t sysConfig) :=
  hC.bind (Interfaces.ensureAll_of_calls hC hi _) fun _ =>
    hC.bind hc fun _ => Emulator.start_of_calls hC he

end Calls

theorem pushAll_along {R : World → World → Prop} [Std.Refl R] [IsTrans World R]
    (h : ∀ i, (o.call i).Along R) (controllers : List Controller) (w : World) :
    R w (pushAll o t controllers w).2 := by
  induction controllers generalizing w with
  | nil => exact refl w
  | cons c more ih =>
    have hc : (push o t c.ip networkFile).Along R :=
      Push.push_along (h _)
    exact IsTrans.trans _ _ _ (hc w) (ih _)

theorem pushCrossConnects_along {R : World → World → Prop} [Std.Refl R] [IsTrans World R]
    (h : ∀ i, (o.call i).Along R) (w : World) : R w (pushCrossConnects o t w).2 := by
  unfold pushCrossConnects
  split
  · exact refl w
  · rename_i first more _
    have hp : (push o t first.ip crossConnectFile).Along R := Push.push_along (h _)
    split
    · rename_i pushed
      exact hp.of_eq pushed
    · rename_i refused
      exact hp.of_eq refused

theorem synthesize_quiet : (synthesize o t).Along World.Quiet :=
  synthesize_of_calls Op.composes_along (fun _ => o.call_quiet _)
    (fun _ _ _ => World.writeText_calls _ _) (fun _ => World.writeText_calls _ _)

theorem launch_quiet (sysConfig : String) : (launch o t sysConfig).Along World.Quiet :=
  launch_of_calls Op.composes_along (fun _ _ => o.call_quiet _) (World.clear_calls _)
    (fun _ => o.call_quiet _) sysConfig

theorem Launched.quiet {sysConfig : String} {s : Synthesis} {w' : World}
    (h : Launched o t b w sysConfig s w') : w.Quiet w' := by
  obtain ⟨-, w₁, made, launched⟩ := h
  have hs := synthesize_quiet.of_eq made
  exact IsTrans.trans _ _ _ hs ((launch_quiet sysConfig).of_eq launched)

theorem AtBinding.quiet {sysConfig : String} {s : Synthesis} {late : List Failure} {w' : World}
    (h : AtBinding o t b w sysConfig s late w') : w.Quiet w' := by
  obtain ⟨w₁, answer, launched, waited, -⟩ := h
  have hw := (Waiting.forTaps_along (o.call_quiet _) _ _).of_eq waited
  exact IsTrans.trans _ _ _ launched.quiet hw

theorem AtBinding.start_eq {sysConfig : String} {s : Synthesis} {late : List Failure} {w' : World}
    (h : AtBinding o t b w sysConfig s late w') :
    start o t b w = sync o t (bound o t sysConfig w').1.bound.length
      (late ++ (bound o t sysConfig w').1.warnings)
      { b.synthesized sysConfig s with
        phase := .binding
        bindings := (bound o t sysConfig w').2.1 } (bound o t sysConfig w').2.2 := by
  obtain ⟨w₂, answer, ⟨idle, w₁, made, launched⟩, waited, hlate⟩ := h
  unfold start
  rw [if_neg (not_not.2 idle), made]
  dsimp only
  rw [launched]
  dsimp only [connect]
  rw [waited]
  dsimp only
  rw [hlate]
  rfl

/-- Once links are bound, a start leaves the bindings and the switch host alone. -/
theorem sync_bindings (n : Nat) (warnings : List Failure) :
    (sync o t n warnings b w).2.1.bindings = b.bindings ∧
      w.Quiet (sync o t n warnings b w).2.2 := by
  have hd := Waiting.forDevices_along o.fetchDevices_quiet t.configuration.deviceWait
    b.expectedDevices w
  unfold sync
  dsimp only
  split
  · exact ⟨rfl, hd⟩
  · have hp := pushAll_along (t := t) o.call_quiet t.configuration.controllers
      (Waiting.forDevices o t.configuration.deviceWait b.expectedDevices w).2
    exact ⟨rfl, IsTrans.trans _ _ _ hd hp⟩

/-- A start that does not come to bind links leaves the bindings and the switch host alone. -/
theorem start_unbound (h : ∀ sysConfig s late w', ¬AtBinding o t b w sysConfig s late w') :
    (start o t b w).2.1.bindings = b.bindings ∧ w.Quiet (start o t b w).2.2 := by
  have path := start_path o t b w
  generalize start o t b w = outcome at path
  cases path with
  | notIdle => exact ⟨rfl, refl w⟩
  | notSynthesized _ failed => exact ⟨rfl, synthesize_quiet.of_eq failed⟩
  | notLaunched _ made failed =>
    have hs := synthesize_quiet.of_eq made
    exact ⟨rfl, IsTrans.trans _ _ _ hs ((launch_quiet _).of_eq failed)⟩
  | cancelledBeforeBinding launched waited =>
    have hw := (Waiting.forTaps_along (o.call_quiet _) _ _).of_eq waited
    exact ⟨rfl, IsTrans.trans _ _ _ launched.quiet hw⟩
  | cancelledAfterBinding reached => exact absurd reached (h _ _ _ _)
  | finished reached => exact absurd reached (h _ _ _ _)

end OpticalTestbed.BringUp
