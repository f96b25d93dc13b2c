import OpticalTestbed.OpenVSwitch
import OpticalTestbed.Proofs.BringUp.Course
import OpticalTestbed.Proofs.BringUp.Phases
/-!
How the severity of failures agrees with what a start does. A start is broken off by grave failures
only. Yet a program that cannot be run, which is grave, breaks a start off before the emulator runs
only; afterwards it is one of the warnings, and the only grave one.
-/
namespace OpticalTestbed

/-- If somebody who was asked to act failed gravely, then because a program could not be run. -/
def Event.BlamesPrograms (event : Event) : Prop :=
  ∀ e, event.FailsWith e → e.isFatal = true → ∃ command cause, e = .commandFailed command cause

section BlamesPrograms

variable {run : World → Invocation → Reply String} {fetch : World → Reply DeviceList}

theorem call_blamesPrograms {o : Outside} (h : o.ReportsCommands) (i : Invocation) :
    (o.call i).Along (World.Calls Event.BlamesPrograms) :=
  fun w => World.calls_iff_traces.2
    ⟨_, o.traces_call w i, List.forall_mem_singleton.2 fun e he _ => h w i e he⟩

theorem fetchDevices_blamesPrograms (o : Outside) :
    o.fetchDevices.Along (World.Calls Event.BlamesPrograms) :=
  fun w => World.calls_iff_traces.2
    ⟨_, o.traces_fetchDevices w, List.forall_mem_singleton.2 fun _ he => he.elim⟩

/-- A refusal of the switch host is not grave. -/
theorem attachTap_blamesPrograms (h : (OpenVSwitch.outside run fetch).ReportsCommands)
    (node tap : String) : ((OpenVSwitch.outside run fetch).attachTap node tap).Along
      (World.Calls Event.BlamesPrograms) := by
  intro w
  refine World.calls_iff_traces.2
    ⟨_, Outside.traces_attachTap _ w node tap, List.forall_mem_singleton.2 fun e he hgrave => ?_⟩
  have hverdict : OpenVSwitch.verdict node tap (run w (OpenVSwitch.attachCall node tap)).answer =
      .error e := he
  cases hrun : (run w (OpenVSwitch.attachCall node tap)).answer with
  | error e' =>
    rw [hrun] at hverdict
    cases hverdict
    exact h w _ e hrun
  | ok output =>
    rw [hrun] at hverdict
    simp only [OpenVSwitch.verdict] at hverdict
    split at hverdict <;> cases hverdict
    cases hgrave

end BlamesPrograms

namespace BringUp

variable {o : Outside} {t : Testbed} {b : BringUp} {w : World} {sysConfig : String}

section Grave

theorem call_grave (h : o.ReportsCommands) (i : Invocation) : (o.call i).Grave := by
  intro w e he
  obtain ⟨command, cause, rfl⟩ := h w i e he
  rfl

theorem writeText_grave (path text : String) : (Op.writeText path text).Grave := by
  intro w e he
  unfold Op.writeText Op.writeAtomic at he
  split at he <;> cases he
  rfl

theorem synthesize_grave (h : o.ReportsCommands) : (synthesize o t).Grave :=
  synthesize_of_calls Op.composes_grave (fun _ => call_grave h _)
    (fun _ _ => writeText_grave _) (writeText_grave _)

theorem launch_grave (h : o.ReportsCommands) (sysConfig : String) : (launch o t sysConfig).Grave :=
  launch_of_calls Op.composes_grave (fun _ _ => call_grave h _)
    (fun _ _ he => by cases he) (fun _ => call_grave h _) sysConfig

/-- Whatever breaks a start off is grave. -/
theorem start_grave (h : o.ReportsCommands) {e : Failure} {b' : BringUp} {w' : World}
    (failed : start o t b w = (.error e, b', w')) : e.isFatal = true := by
  have path := start_path o t b w
  rw [failed] at path
  cases path with
  | notIdle => rfl
  | notSynthesized _ failed => exact (synthesize_grave h).of_eq failed
  | notLaunched _ _ failed => exact (launch_grave h _).of_eq failed
  | cancelledBeforeBinding => rfl
  | cancelledAfterBinding => rfl

end Grave

/-- The calls of a start that finishes, from its coming to bind links on. Its grave warnings are the
grave failures among them. -/
theorem finished_explained {report : BringUpReport} {b' : BringUp} {w' : World}
    (finished : start o t b w = (.ok report, b', w')) :
    ∃ sysConfig s late v trace, AtBinding o t b w sysConfig s late v ∧ v.Traces w' trace ∧
      ∀ e, e.isFatal = true → (e ∈ report.warnings ↔ ∃ c ∈ trace, c.event.FailsWith e) := by
  have path := start_path o t b w
  rw [finished] at path
  cases path with
  | @finished sysConfig s late later all answer w₁ w₂ reached waited hlater hall =>
    obtain ⟨w₀, probes, -, -, -, -, hseen⟩ := reached.probes
    obtain ⟨binding, hbinding, -, hbound⟩ := Bindings.explained_bindAll o t.topology sysConfig w₁
    rw [reached.expectedDevices] at waited
    obtain ⟨fetches, hfetches, hkind, hfetched⟩ := devices_over waited hlater
    obtain ⟨pushes, hpushes, -, hpushed, -⟩ := pushAll_ends o t t.configuration.controllers w₂
    refine ⟨sysConfig, s, late, w₁, _, reached, (hbinding.append hfetches).append hpushes, ?_⟩
    intro e he
    -- what the waits leave is not grave
    have hmild : ∀ {es : List Failure}, (∀ e ∈ es, e.isFatal = false) → e ∉ es := by
      intro es hes hmem
      rw [hes e hmem] at he
      cases he
    have hasked : ¬∃ c ∈ fetches, c.event.FailsWith e := by
      rintro ⟨⟨event, seen⟩, hc, hf⟩
      have hfetch := hkind _ hc
      cases event <;> cases hfetch
      exact hf
    simp only [hall, List.mem_append, or_and_right, exists_or, hmild hseen.mild,
      hmild hfetched.mild, hasked, hbound.fatal_iff he, hpushed.fatal_iff he, false_or, or_false]

/-- A start that fails has failed gravely, and the grave warnings of one that finishes are of
programs which could not be run: those that were called for from its coming to bind links on. -/
theorem start_severity {run : World → Invocation → Reply String}
    {fetch : World → Reply DeviceList} (h : (OpenVSwitch.outside run fetch).ReportsCommands) :
    match start (OpenVSwitch.outside run fetch) t b w with
    | (.error e, _, _) => e.isFatal = true
    | (.ok report, _, w') => ∃ sysConfig s late v trace,
      AtBinding (OpenVSwitch.outside run fetch) t b w sysConfig s late v ∧ v.Traces w' trace ∧
        ∀ e, e.isFatal = true → (e ∈ report.warnings ↔
          (∃ c ∈ trace, c.event.FailsWith e) ∧
            ∃ command cause, e = .commandFailed command cause) := by
  generalize hstart : start (OpenVSwitch.outside run fetch) t b w = outcome
  obtain ⟨answer, b', w'⟩ := outcome
  cases answer with
  | error e => exact start_grave h hstart
  | ok report =>
    obtain ⟨sysConfig, s, late, v, trace, reached, htrace, hgrave⟩ := finished_explained hstart
    have hblames := reached.along (call_blamesPrograms h) (attachTap_blamesPrograms h)
      (fetchDevices_blamesPrograms _)
    rw [hstart] at hblames
    refine ⟨sysConfig, s, late, v, trace, reached, htrace, fun e he => ?_⟩
    rw [hgrave e he]
    refine ⟨fun ⟨c, hc, hf⟩ => ⟨⟨c, hc, hf⟩, ?_⟩, And.left⟩
    exact htrace.forall_of_calls hblames c hc e hf he

/-- Programs that print nothing, but the tool of the switch host is not installed. -/
def Sample.hostless : Outside :=
  OpenVSwitch.outside
    (fun w i => ⟨if i.program = "ovs-vsctl" then
        .error (.commandFailed i.text FileFault.notFound.text) else .ok "", w.files, false⟩)
    (fun w => ⟨.ok ⟨[]⟩, w.files, false⟩)

/-- A start that finishes although the tool of the switch host cannot be run. -/
theorem start_severity_hostless : Sample.hostless.ReportsCommands ∧
    ∃ report b' w' sysConfig s late v trace,
      start Sample.hostless Sample.testbed (fresh Sample.topology) Sample.terseWorld =
        (.ok report, b', w') ∧
      AtBinding Sample.hostless Sample.testbed (fresh Sample.topology) Sample.terseWorld sysConfig s
        late v ∧
      v.Traces w' trace ∧
      ∃ e ∈ report.warnings, e.isFatal = true ∧ ∃ c ∈ trace, c.event.FailsWith e := by
  have hreports : Sample.hostless.ReportsCommands := by
    intro w i e he
    simp only [Sample.hostless, OpenVSwitch.outside] at he
    split at he <;> cases he
    exact ⟨_, _, rfl⟩
  have hgrave : (start Sample.hostless Sample.testbed (fresh Sample.topology)
      Sample.terseWorld).1.map (·.warnings.any (·.isFatal)) = .ok true := by decide +kernel
  have hsevere := start_severity (t := Sample.testbed) (b := fresh Sample.topology)
    (w := Sample.terseWorld) hreports
  rw [show OpenVSwitch.outside _ _ = Sample.hostless from rfl] at hsevere
  generalize start Sample.hostless Sample.testbed (fresh Sample.topology) Sample.terseWorld =
    outcome at hgrave hsevere
  obtain ⟨answer, b', w'⟩ := outcome
  cases answer with
  | error e => cases hgrave
  | ok report =>
    obtain ⟨e, hmem, he⟩ := List.any_eq_true.1 (Except.ok.inj hgrave)
    obtain ⟨sysConfig, s, late, v, trace, reached, htrace, hiff⟩ := hsevere
    exact ⟨hreports, report, b', w', sysConfig, s, late, v, trace, rfl, reached, htrace, e, hmem,
      he, ((hiff e he).1 hmem).1⟩

end BringUp

end OpticalTestbed
