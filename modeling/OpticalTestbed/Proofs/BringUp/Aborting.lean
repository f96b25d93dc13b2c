import OpticalTestbed.Proofs.BringUp.Installing
/-!
A start that is broken off before the emulator runs: which programs it has run by then, that it does
not leave the emulator running, and what remains of it.
-/
namespace OpticalTestbed

theorem Path.getLast?_join (base : String) {rest : String} {c : Char}
    (h : rest.toList.getLast? = some c) : (Path.join base rest).toList.getLast? = some c := by
  unfold Path.join
  split
  · exact h
  · split <;> simp [String.toList_append, List.getLast?_append, List.getLast?_cons, h]

namespace BringUp

variable {o : Outside} {t : Testbed} {b : BringUp} {w w' : World} {i : Invocation} {e : Failure}
  {sysConfig : String}

/-- The call that pushes a document in the work directory to a controller. -/
def pushCall (t : Testbed) (controller document : String) : Invocation :=
  Push.toolCall t.installation.onosRoot t.configuration.workDirectory controller document

theorem getLast?_scriptCall (r : Release) (action : String) :
    (Emulator.scriptCall r action).program.toList.getLast? = some 'c' :=
  Path.getLast?_join _ (by decide)

theorem getLast?_pushCall (controller document : String) :
    (pushCall t controller document).program.toList.getLast? = some 'g' :=
  Path.getLast?_join _ (by decide)

theorem IsEarlyCall.getLast? (h : IsEarlyCall t i) :
    i.program.toList.getLast? = some 'r' ∨ i.program.toList.getLast? = some 'p' := by
  cases h with
  | generator first => exact .inl (Path.getLast?_join _ (by decide))
  | interface h =>
    have hip : "ip".toList.getLast? = some 'p' := by decide
    cases h <;> exact .inr hip

theorem IsEarlyCall.ne_script (h : IsEarlyCall t i) (action : String) :
    i ≠ Emulator.scriptCall t.release action := by
  rintro rfl
  have hc := getLast?_scriptCall t.release action
  rcases h.getLast? with hl | hl <;> rw [hc] at hl <;> exact absurd hl (by decide)

theorem IsEarlyCall.ne_push (h : IsEarlyCall t i) (controller document : String) :
    i ≠ pushCall t controller document := by
  rintro rfl
  have hg := getLast?_pushCall (t := t) controller document
  rcases h.getLast? with hl | hl <;> rw [hg] at hl <;> exact absurd hl (by decide)

theorem script_ne_push (action controller document : String) :
    Emulator.scriptCall t.release action ≠ pushCall t controller document := by
  intro he
  have hc := getLast?_scriptCall t.release action
  rw [he, getLast?_pushCall] at hc
  exact absurd hc (by decide)

theorem call_history {answer : Except Failure String} (h : o.call i w = (answer, w')) :
    w'.history = ⟨.ran i answer, w.files⟩ :: w.history := by
  cases h
  rfl

/-- An emulator that was not started well was told to stop, if its script ran at all. -/
theorem emulatorStart_error {r : Release} (h : Emulator.start o r w = (.error e, w')) :
    o.call (Emulator.scriptCall r "start") w = (.error e, w') ∨
      ∃ output answer w₁, o.call (Emulator.scriptCall r "start") w = (.ok output, w₁) ∧
        (trimmed output).isEmpty = false ∧
        o.call (Emulator.scriptCall r "stop") w₁ = (answer, w') := by
  rcases Op.bind_error h with h | ⟨output, w₁, started, h⟩
  · exact .inl h
  · dsimp only at h
    split at h
    · cases h
    · rename_i hblank
      rcases Op.bind_error h with h | ⟨_, w₂, stopped, h⟩
      · cases h
      · cases h
        have hw : (Emulator.stop o r w₁).2 = w' := congrArg Prod.snd stopped
        rw [Emulator.stop_apply] at hw
        exact .inr ⟨output, _, w₁, started, by simpa using hblank, by rw [← hw]⟩

theorem launch_error (h : launch o t sysConfig w = (.error e, w')) :
    w.Calls (·.Runs (IsEarlyCall t)) w' ∨
      ∃ w₁, w.Calls (·.Runs (IsEarlyCall t)) w₁ ∧
        Emulator.start o t.release w₁ = (.error e, w') := by
  have hensure : (Interfaces.ensureAll o (SysConfig.taps sysConfig)).Along
      (World.Calls (·.Runs (IsEarlyCall t))) :=
    Interfaces.ensureAll_of_calls Op.composes_along (fun _ hi => o.call_runs (.interface hi)) _
  rcases Op.bind_error h with h | ⟨_, w₁, ensured, h⟩
  · exact .inl (hensure.of_eq h)
  · rcases Op.bind_error h with h | ⟨_, w₂, cleared, h⟩
    · cases h
    · have hclear : w₁.Calls (·.Runs (IsEarlyCall t)) w₂ :=
        (World.clear_calls t.release).of_eq cleared
      exact .inr ⟨w₂, IsTrans.trans _ _ _ (hensure.of_eq ensured) hclear, h⟩

theorem synthesize_calls : (synthesize o t).Along (World.Calls (·.Runs (IsEarlyCall t))) :=
  synthesize_of_calls Op.composes_along (fun first => o.call_runs (.generator first))
    (fun _ _ _ => World.writeText_calls _ _) (fun _ => World.writeText_calls _ _)

/-- Programs were run but none to push a document, neither the switch host nor the controller was
asked for anything, and the emulator is not left running: each start of it that the script answered
was answered with a complaint, and then the last call is to stop it. -/
def Halts (t : Testbed) (w w' : World) : Prop :=
  ∃ made, w'.history = made ++ w.history ∧
    (∀ c ∈ made, c.event.Runs fun i => ∀ controller document, i ≠ pushCall t controller document) ∧
    ∀ c ∈ made, ∀ output,
      c.event = .ran (Emulator.scriptCall t.release "start") (.ok output) →
      (trimmed output).isEmpty = false ∧ ∃ last rest answer, made = last :: rest ∧
        last.event = .ran (Emulator.scriptCall t.release "stop") answer

theorem early_not_started {c : Occurrence} (hc : c.event.Runs (IsEarlyCall t)) {action : String}
    {answer : Except Failure String} :
    c.event ≠ .ran (Emulator.scriptCall t.release action) answer := by
  intro he
  rw [he] at hc
  exact hc.ne_script action rfl

theorem halts_of_early (h : w.Calls (·.Runs (IsEarlyCall t)) w') : Halts t w w' := by
  obtain ⟨made, hw, hm⟩ := h
  refine ⟨made, hw, fun c hc => ?_, fun c hc output he => ?_⟩
  · exact Event.Runs.imp (fun _ hi => hi.ne_push) _ (hm c hc)
  · exact absurd he (early_not_started (hm c hc))

theorem halts_of_emulatorStart {w₁ : World} (h : w.Calls (·.Runs (IsEarlyCall t)) w₁)
    (failed : Emulator.start o t.release w₁ = (.error e, w')) : Halts t w w' := by
  obtain ⟨made, hw, hm⟩ := h
  have hpush : ∀ c ∈ made,
      c.event.Runs fun i => ∀ controller document, i ≠ pushCall t controller document :=
    fun c hc => Event.Runs.imp (fun _ hi => hi.ne_push) _ (hm c hc)
  rcases emulatorStart_error failed with called | ⟨output, answer, w₂, called, hblank, stopped⟩
  · have hw' := call_history called
    rw [hw] at hw'
    refine ⟨_ :: made, hw', ?_, fun c hc output he => ?_⟩
    · exact List.forall_mem_cons.2 ⟨script_ne_push _, hpush⟩
    · rcases List.mem_cons.1 hc with rfl | hc
      · cases he
      · exact absurd he (early_not_started (hm c hc))
  · have hw' := call_history stopped
    rw [call_history called, hw] at hw'
    refine ⟨_ :: _ :: made, hw', ?_, fun c hc output' he => ?_⟩
    · exact List.forall_mem_cons.2
        ⟨script_ne_push _, List.forall_mem_cons.2 ⟨script_ne_push _, hpush⟩⟩
    · refine ⟨?_, _, _, answer, rfl, rfl⟩
      rcases List.mem_cons.1 hc with rfl | hc
      · exact absurd he (by simp [Emulator.scriptCall])
      · rcases List.mem_cons.1 hc with rfl | hc
        · cases he
          exact hblank
        · exact absurd he (early_not_started (hm c hc))

/-- What remains of a start that was broken off: bindings and phase are as they were, the programs
have come to rest, and what was installed and what is known of it is either as it was or made by
this very start. -/
structure Aborted (o : Outside) (t : Testbed) (b : BringUp) (w : World) (b' : BringUp)
    (w' : World) : Prop where
  phase : b'.phase = .idle
  bindings : b'.bindings = b.bindings
  halts : Halts t w w'
  installed :
    (b'.switchIds = b.switchIds ∧ b'.synthesis = b.synthesis ∧
      ∀ here, OutOfReach o t here →
        w.Leaves here (FileTree.lexical here t.release.sysConfig) w') ∨
    ∃ text s, Generated o t w text ∧ (Synthesis.ofDomain t.topology t.domain w).1 = .ok s ∧
      b'.switchIds = SwitchIds.ofText text ∧ b'.synthesis = some s ∧
      ∀ here, OutOfReach o t here → w.files.current = here →
        w'.files.current = here ∧
        w'.files.get? (FileTree.lexical here t.release.sysConfig) = some (.file text.toUTF8)

theorem aborted_of_synthesize (idle : b.phase = .idle)
    (failed : synthesize o t w = (.error e, w')) : Aborted o t b w b w' where
  phase := idle
  bindings := rfl
  halts := halts_of_early (synthesize_calls.of_eq failed)
  installed := .inl ⟨rfl, rfl, fun _ reach => reach.synthesize_error failed⟩

theorem aborted_of_launch (idle : b.phase = .idle) {s : Synthesis} {w₁ : World}
    (made : synthesize o t w = (.ok (sysConfig, s), w₁))
    (failed : launch o t sysConfig w₁ = (.error e, w')) :
    Aborted o t b w (b.synthesized sysConfig s) w' where
  phase := idle
  bindings := rfl
  halts := by
    have hearly := synthesize_calls.of_eq made
    rcases launch_error failed with hcalls | ⟨w₂, hcalls, started⟩
    · exact halts_of_early (IsTrans.trans _ _ _ hearly hcalls)
    · exact halts_of_emulatorStart (IsTrans.trans _ _ _ hearly hcalls) started
  installed := by
    obtain ⟨hs, hgenerated⟩ := synthesize_ok made
    refine .inr ⟨sysConfig, s, hgenerated, hs, rfl, rfl, fun here reach hw => ?_⟩
    obtain ⟨hcurrent, hget⟩ := reach.synthesize_ok made hw
    obtain ⟨hcurrent', hsame⟩ := (reach.launch sysConfig).of_eq failed hcurrent
    exact ⟨hcurrent', hsame.trans hget⟩

end BringUp

end OpticalTestbed
