import OpticalTestbed.Proofs.BringUp.Aborting
import OpticalTestbed.Proofs.Interfaces
/-!
What a start calls until the emulator runs, call by call: the generator, the programs that look
after taps, and the emulator's script. Each of them finds the files that it works from.
-/
namespace OpticalTestbed

namespace Emulator

variable {o : Outside} {r : Release} {w w' : World}

theorem start_ok (h : start o r w = (.ok (), w')) : ∃ output,
    o.call (scriptCall r "start") w = (.ok output, w') ∧ (trimmed output).isEmpty = true := by
  obtain ⟨output, w₁, called, h⟩ := Op.bind_ok h
  dsimp only at h
  split at h
  · rename_i hblank
    cases h
    exact ⟨output, called, hblank⟩
  · obtain ⟨_, w₂, -, h⟩ := Op.bind_ok h
    cases h

end Emulator

namespace BringUp

variable {o : Outside} {t : Testbed} {b : BringUp} {w w' : World} {sysConfig text : String}
  {s : Synthesis}

/-- The work directory holds the documents of this synthesis. -/
def HoldsDocuments (t : Testbed) (w : World) (files : FileTree) : Prop :=
  ∃ s, (Synthesis.ofDomain t.topology t.domain w).1 = .ok s ∧
    files.readText (Path.join t.configuration.workDirectory networkFile) =
      .ok s.network.toJson.document ∧
    files.readText (Path.join t.configuration.workDirectory emulatorFile) =
      .ok s.emulator.toJson.document

/-- A text is what the generator left in a certain call, with every controller listed. -/
def Produced (o : Outside) (t : Testbed) (w : World) (c : Occurrence) (text : String) : Prop :=
  ∃ first more output left, t.configuration.controllers = first :: more ∧
    c.event = .ran (SysConfig.generatorCall t.installation.generatorRoot
      t.configuration.workDirectory first) (.ok output) ∧
    (trimmed output).isEmpty = true ∧
    (o.call (SysConfig.generatorCall t.installation.generatorRoot t.configuration.workDirectory
      first) { w with files := c.seen }).2.files.readText
        (Path.join t.configuration.workDirectory sysConfigFile) = .ok left ∧
    text = SysConfig.patchControllers left t.configuration.controllers

section Synthesizing

theorem ofDomain_ok (h : Synthesis.ofDomain t.topology t.domain w = (.ok s, w')) :
    (Synthesis.ofDomain t.topology t.domain w).1 = .ok s ∧ w' = w := by
  have hworld := (Synthesis.reads_ofDomain t.topology t.domain).world w
  rw [h] at hworld ⊢
  exact ⟨rfl, hworld⟩

theorem write_ok {paths : DocumentPaths} {work : String} (h : s.write work w = (.ok paths, w')) :
    w' = { w with files := w'.files } ∧
      w'.files.readText (Path.join work networkFile) = .ok s.network.toJson.document ∧
      w'.files.readText (Path.join work emulatorFile) = .ok s.emulator.toJson.document := by
  obtain ⟨_, w₁, network, h⟩ := Op.bind_ok h
  obtain ⟨_, w₂, emulator, h⟩ := Op.bind_ok h
  cases h
  have hnetwork := (World.writeText_ok network).1
  have hemulator := (World.writeText_ok emulator).1
  have hapart : FileTree.lexical w₁.files.current (Path.join work networkFile) ≠
      FileTree.lexical w₁.files.current (Path.join work emulatorFile) := by
    rw [lexical_workFile _ work (by simp [workFiles]),
      lexical_workFile _ work (by simp [workFiles])]
    exact fun h => absurd (List.append_cancel_left h) (by decide)
  refine ⟨?_, ?_, FileTree.readText_writeAtomic hemulator⟩
  · rw [World.writeText_world emulator, World.writeText_world network]
  · exact FileTree.readText_writeAtomic_other hemulator
      (FileTree.readText_writeAtomic hnetwork) hapart

theorem silent_readText (path : String) : (Op.readText path).Along (World.Calls fun _ => False) :=
  Op.composes_along.reads (Op.reads_readText path)

/-- Whatever becomes of it, a synthesis calls the generator at most, and not before its documents
are written. -/
theorem synthesize_trace (o : Outside) (t : Testbed) (w : World) :
    ∃ trace, w.Traces (synthesize o t w).2 trace ∧ (trace = [] ∨ ∃ c first, trace = [c] ∧
      c.event.Runs (· = SysConfig.generatorCall t.installation.generatorRoot
        t.configuration.workDirectory first) ∧ HoldsDocuments t w c.seen) := by
  have hdomain : (Synthesis.ofDomain t.topology t.domain).Along (World.Calls fun _ => False) :=
    Op.composes_along.reads (Synthesis.reads_ofDomain _ _)
  have hwrite : ∀ s : Synthesis, (s.write t.configuration.workDirectory).Along
      (World.Calls fun _ => False) :=
    fun s => s.write_of_calls Op.composes_along fun _ _ text => World.writeText_calls _ text
  rcases Op.silent_bind hdomain w with hnone | ⟨s, w₀, made, -, heq⟩
  · exact ⟨[], hnone, .inl rfl⟩
  obtain ⟨hs, rfl⟩ := ofDomain_ok made
  rw [synthesize, heq]
  rcases Op.silent_bind (hwrite s) w₀ with hnone | ⟨_, w₁, written, hw₁, heq⟩
  · exact ⟨[], hnone, .inl rfl⟩
  obtain ⟨-, hnetwork, hemulator⟩ := write_ok written
  rw [heq]
  cases hc : t.configuration.controllers with
  | nil => exact ⟨[], hw₁, .inl rfl⟩
  | cons first more =>
    have hcall := SysConfig.generate_traces o t.installation.generatorRoot
      t.configuration.workDirectory first more w₁
    have hinstall := Op.traces_bind_silent hcall fun path =>
      Op.composes_along.bind (silent_readText path) fun text =>
        Op.composes_along.bind (World.writeText_calls t.release.sysConfig text) fun _ =>
          Op.composes_along.pure (text, s)
    exact ⟨_, hw₁.append hinstall, .inr ⟨_, first, rfl, rfl, s, hs, hnetwork, hemulator⟩⟩

/-- A synthesis that succeeds has made its text from what the generator left, and installed it. -/
theorem synthesize_produces (done : synthesize o t w = (.ok (text, s), w')) :
    ∃ c, w.Traces w' [c] ∧ HoldsDocuments t w c.seen ∧ Produced o t w c text ∧
      w'.files.readText t.release.sysConfig = .ok text := by
  obtain ⟨s', w₀, made, h⟩ := Op.bind_ok done
  obtain ⟨hs, hw₀⟩ := ofDomain_ok made
  subst w₀
  obtain ⟨_, w₁, written, h⟩ := Op.bind_ok h
  obtain ⟨hw₁, hnetwork, hemulator⟩ := write_ok written
  obtain ⟨path, w₂, generated, h⟩ := Op.bind_ok h
  obtain ⟨rfl, first, more, output, left, w₃, hc, called, hblank, found, patched⟩ :=
    generate_ok generated
  obtain ⟨text', w₄, readBack, h⟩ := Op.bind_ok h
  obtain ⟨hread, hw₄⟩ := Op.readText_ok readBack
  subst w₄
  obtain ⟨_, w₅, installed, h⟩ := Op.bind_ok h
  cases h
  have hpatched := FileTree.readText_writeAtomic (World.writeText_ok patched).1
  rw [hpatched] at hread
  obtain rfl := Except.ok.inj hread
  have htrace : w.Traces w' [⟨.ran (SysConfig.generatorCall t.installation.generatorRoot
      t.configuration.workDirectory first) (.ok output), w₁.files⟩] := by
    rw [World.Traces, (World.writeText_ok installed).2, (World.writeText_ok patched).2,
      call_history called, hw₁]
    rfl
  have hleft : (o.call (SysConfig.generatorCall t.installation.generatorRoot
      t.configuration.workDirectory first) { w with files := w₁.files }).2.files.readText
        (Path.join t.configuration.workDirectory sysConfigFile) = .ok left := by
    rw [← hw₁, called]
    exact found
  exact ⟨_, htrace, ⟨s, hs, hnetwork, hemulator⟩,
    ⟨first, more, output, left, hc, rfl, hblank, hleft, rfl⟩,
    FileTree.readText_writeAtomic (World.writeText_ok installed).1⟩

end Synthesizing

section Launching

theorem emulatorStart_trace (o : Outside) (r : Release) (w : World) : ∃ answer more,
    w.Traces (Emulator.start o r w).2 (⟨.ran (Emulator.scriptCall r "start") answer, w.files⟩ ::
      more) ∧
    (∀ c ∈ more, c.event.Runs (· = Emulator.scriptCall r "stop")) ∧
    ((Emulator.start o r w).1 = .ok () → more = [] ∧ ∃ output, answer = .ok output ∧
      (trimmed output).isEmpty = true) := by
  have htrace := o.traces_call w (Emulator.scriptCall r "start")
  generalize hstart : Emulator.start o r w = result
  obtain ⟨answer, w'⟩ := result
  cases answer with
  | ok _ =>
    obtain ⟨output, called, hblank⟩ := Emulator.start_ok hstart
    rw [called] at htrace
    exact ⟨.ok output, [], htrace, by simp, fun _ => ⟨rfl, output, rfl, hblank⟩⟩
  | error e =>
    rcases emulatorStart_error hstart with called | ⟨output, stopped, w₁, called, -, hstop⟩
    · rw [called] at htrace
      exact ⟨.error e, [], htrace, by simp, nofun⟩
    · have hmore := o.traces_call w₁ (Emulator.scriptCall r "stop")
      rw [called] at htrace
      rw [hstop] at hmore
      exact ⟨.ok output, _, htrace.append hmore, List.forall_mem_singleton.2 rfl, nofun⟩

/-- What a launch calls. The emulator's script is run if all taps have been provided, and it finds
what was installed as the launch found it. -/
theorem launch_trace (o : Outside) (t : Testbed) (sysConfig : String) (w : World) :
    ∃ trace, w.Traces (launch o t sysConfig w).2 trace ∧
      ((∀ c ∈ trace, c.event.Runs Interfaces.IsCall) ∧ (launch o t sysConfig w).1 ≠ .ok () ∨
      ∃ output rest answer seen more,
        trace = ⟨.ran Interfaces.showCall (.ok output), w.files⟩ :: rest ++
          ⟨.ran (Emulator.scriptCall t.release "start") answer, seen⟩ :: more ∧
        (∀ c ∈ rest, c.event.Runs Interfaces.IsCall) ∧
        (∀ tap ∈ SysConfig.taps sysConfig,
          Interfaces.Provides (Interfaces.names output) rest tap) ∧
        (∀ here, OutOfReach o t here → w.files.current = here → seen.current = here ∧
          seen.get? (FileTree.lexical here t.release.sysConfig) =
            w.files.get? (FileTree.lexical here t.release.sysConfig)) ∧
        (∀ c ∈ more, c.event.Runs (· = Emulator.scriptCall t.release "stop")) ∧
        ((launch o t sysConfig w).1 = .ok () → more = [] ∧ ∃ printed, answer = .ok printed ∧
          (trimmed printed).isEmpty = true)) := by
  have hensure : ∀ {R : World → World → Prop} [Std.Refl R] [IsTrans World R],
      (∀ i, Interfaces.IsCall i → (o.call i).Along R) →
      (Interfaces.ensureAll o (SysConfig.taps sysConfig)).Along R :=
    fun h => Interfaces.ensureAll_of_calls Op.composes_along h _
  generalize hensured : Interfaces.ensureAll o (SysConfig.taps sysConfig) w = ensured
  obtain ⟨answer, w₁⟩ := ensured
  cases answer with
  | error e =>
    have hfailed : launch o t sysConfig w = (.error e, w₁) := Op.bind_of_error hensured
    obtain ⟨trace, htrace, hcalls⟩ := World.calls_iff_traces.1
      ((hensure fun _ hi => o.call_runs hi).of_eq hensured)
    rw [hfailed]
    exact ⟨trace, htrace, .inl ⟨hcalls, nofun⟩⟩
  | ok n =>
    obtain ⟨output, rest, hlisted, hcalls, hprovides⟩ := Interfaces.ensureAll_ok hensured
    obtain ⟨answer, more, hscript, hstops, hdone⟩ :=
      emulatorStart_trace o t.release (Console.clear t.release w₁).2
    have hcleared := hlisted.silent (World.clear_calls t.release w₁)
    have heq : launch o t sysConfig w = Emulator.start o t.release (Console.clear t.release w₁).2 :=
      Op.bind_of_ok hensured
    rw [heq]
    refine ⟨_, hcleared.append hscript, .inr ⟨output, rest, answer, _, more, rfl, hcalls, hprovides,
      fun here h hw => ?_, hstops, hdone⟩⟩
    have hkept := (hensure fun _ hi => h.programs _ (.early (.interface hi))).of_eq hensured
    exact IsTrans.trans _ _ _ hkept (World.leaves_clear h.pipe _) hw

end Launching

end BringUp

end OpticalTestbed
