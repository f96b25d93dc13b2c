import OpticalTestbed.Proofs.BringUp.Aborting
import OpticalTestbed.Proofs.BringUp.Run
/-!
The phases of a bring-up between operations, and how a start ends in each of them.
-/
namespace OpticalTestbed

/-- A phase in which a bring-up may be between operations. -/
def Phase.Settled (p : Phase) : Prop :=
  p = .idle ∨ p = .waitingForInterfaces ∨ p = .waitingForControllerSync ∨ p = .running

/-- A program that could not be run is reported as such. -/
def Outside.ReportsCommands (o : Outside) : Prop :=
  ∀ w i e, (o.run w i).answer = .error e → ∃ command cause, e = .commandFailed command cause

namespace BringUp

variable {o : Outside} {t : Testbed} {b : BringUp} {w : World} {s : BringUp × World}

theorem switchNumber_phase {name : String} {answer : Except Failure (Nat × Node)} {b' : BringUp}
    (h : switchNumber t name b w = (answer, b')) : b'.phase = b.phase := by
  rw [switchNumber_state h]

theorem stopSwitch_phase (name : String) : (stopSwitch o t name b w).2.1.phase = b.phase := by
  unfold stopSwitch
  split <;> rename_i found <;> have hp := switchNumber_phase found <;> exact hp

theorem startSwitch_phase (name : String) : (startSwitch o t name b w).2.1.phase = b.phase := by
  unfold startSwitch
  split <;> rename_i found <;> have hp := switchNumber_phase found
  · exact hp
  · dsimp only
    split
    · exact hp
    · split <;> exact hp

theorem setPortState_phase (name : String) (port : Nat) (up : Bool) :
    (setPortState t name port up b w).2.1.phase = b.phase := by
  unfold setPortState
  split <;> rename_i found <;> have hp := switchNumber_phase found <;> exact hp

theorem rediscover_phase : (rediscover t b w).2.1.phase = b.phase := by
  unfold rediscover
  split <;> rfl

theorem start_settled (h : b.phase.Settled) : (start o t b w).2.1.phase.Settled := by
  have path := start_path o t b w
  generalize start o t b w = outcome at path
  cases path with
  | notIdle => exact h
  | notSynthesized => exact h
  | notLaunched => exact h
  | cancelledBeforeBinding => exact .inr (.inl rfl)
  | cancelledAfterBinding => exact .inr (.inr (.inl rfl))
  | finished => exact .inr (.inr (.inr rfl))

theorem Step.take_settled (step : Step) (s : BringUp × World) (h : s.1.phase.Settled) :
    (step.take t s).1.phase.Settled := by
  obtain ⟨b, w⟩ := s
  cases step with
  | operation o op =>
    cases op <;> simp only [Step.take, Operation.perform]
    case start => exact start_settled h
    case stop => exact .inl rfl
    case rediscover => rwa [rediscover_phase]
    case stopSwitch name => rwa [stopSwitch_phase]
    case startSwitch name => rwa [startSwitch_phase]
    case setPortState name port up => rwa [setPortState_phase]
  | pass o p => exact h
  | elsewhere files cancelled => exact h

theorem run_settled (steps : List Step) (w : World) :
    (run t steps (fresh t.topology, w)).1.phase.Settled :=
  run_induction (I := fun s => s.1.phase.Settled) Step.take_settled steps (.inl rfl)

section Uncancelled

theorem call_uncancelled (h : o.ReportsCommands) (i : Invocation) : (o.call i).Uncancelled := by
  intro w what he
  obtain ⟨command, cause, hf⟩ := h w i _ he
  cases hf

theorem writeText_uncancelled (path text : String) : (Op.writeText path text).Uncancelled := by
  intro w what he
  unfold Op.writeText Op.writeAtomic at he
  split at he <;> cases he

theorem synthesize_uncancelled (h : o.ReportsCommands) : (synthesize o t).Uncancelled :=
  synthesize_of_calls Op.composes_uncancelled (fun _ => call_uncancelled h _)
    (fun _ _ => writeText_uncancelled _) (writeText_uncancelled _)

theorem launch_uncancelled (h : o.ReportsCommands) (sysConfig : String) :
    (launch o t sysConfig).Uncancelled :=
  launch_of_calls Op.composes_uncancelled (fun _ _ => call_uncancelled h _)
    (fun _ _ he => by cases he) (fun _ => call_uncancelled h _) sysConfig

end Uncancelled

/-- How a start from nothing may end: it finishes, it is cancelled in one of its waits, or it is
broken off. -/
def Ends (o : Outside) (t : Testbed) (b : BringUp) (w : World) : Outcome BringUpReport → Prop
  | (.ok _, b', _) => b'.phase = .running
  | (.error (.cancelled _), b', _) =>
    b'.phase = .waitingForInterfaces ∨ b'.phase = .waitingForControllerSync
  | (.error _, b', w') => Aborted o t b w b' w'

theorem ends_of_aborted {e : Failure} {b' : BringUp} {w' : World}
    (he : ∀ what, e ≠ .cancelled what) (h : Aborted o t b w b' w') :
    Ends o t b w (.error e, b', w') := by
  cases e
  case cancelled what => exact absurd rfl (he what)
  all_goals exact h

theorem start_ends (h : o.ReportsCommands) (idle : b.phase = .idle) :
    Ends o t b w (start o t b w) := by
  have path := start_path o t b w
  generalize start o t b w = outcome at path
  cases path with
  | notIdle hphase => exact absurd idle hphase
  | notSynthesized _ failed =>
    refine ends_of_aborted (fun what he => ?_) (aborted_of_synthesize idle failed)
    exact (synthesize_uncancelled h).of_eq (he ▸ failed)
  | notLaunched _ made failed =>
    refine ends_of_aborted (fun what he => ?_) (aborted_of_launch idle made failed)
    exact (launch_uncancelled h _).of_eq (he ▸ failed)
  | cancelledBeforeBinding => exact .inl rfl
  | cancelledAfterBinding => exact .inr rfl
  | finished => exact (rfl : Phase.running = .running)

theorem start_not_idle (h : b.phase ≠ .idle) :
    start o t b w = (.error (.notIdle b.phase.text), b, w) := by
  rw [start, if_pos h]

/-- Wherever a run from nothing has led: a start does nothing unless the bring-up is idle, and from
there it finishes, is cancelled in a wait or is broken off without a trace of half its work. -/
theorem run_start (steps : List Step) (w : World) (h : o.ReportsCommands) :
    (run t steps (fresh t.topology, w)).1.phase.Settled ∧
      ∀ b v, run t steps (fresh t.topology, w) = (b, v) →
        (b.phase ≠ .idle → start o t b v = (.error (.notIdle b.phase.text), b, v)) ∧
        (b.phase = .idle → Ends o t b v (start o t b v)) :=
  ⟨run_settled steps w, fun _ _ _ => ⟨start_not_idle, start_ends h⟩⟩

theorem Sample.outOfReach : OutOfReach outside testbed world.files.current where
  work := by
    unfold Place.Apart
    decide
  pipes := by
    unfold Place.Apart
    decide
  programs := fun _ _ _ hw => ⟨hw, rfl⟩

/-- A first start, with programs that print nothing and change no file. -/
theorem run_start_sample : Sample.outside.ReportsCommands ∧
    OutOfReach Sample.outside Sample.testbed Sample.world.files.current ∧
    Ends Sample.outside Sample.testbed (fresh Sample.testbed.topology) Sample.world
      (start Sample.outside Sample.testbed (fresh Sample.testbed.topology) Sample.world) := by
  have h : Sample.outside.ReportsCommands := fun w i e he => by cases he
  obtain ⟨-, hstart⟩ := run_start (t := Sample.testbed) [] Sample.world h
  exact ⟨h, Sample.outOfReach, (hstart _ _ rfl).2 rfl⟩

end BringUp

end OpticalTestbed
