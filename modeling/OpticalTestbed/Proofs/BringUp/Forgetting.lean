import OpticalTestbed.Proofs.BringUp.Run
import OpticalTestbed.Proofs.Held
import Mathlib.Data.List.Induction
/-!
When a bring-up forgets a tap that the switch host holds. Bindings are kept step by step, but a
start and a rediscovery put new ones in their place, and what these do not record is forgotten.
-/
namespace OpticalTestbed.BringUp

variable {t : Testbed} {s : BringUp × World} {o : Outside}

/-- Everything that the switch host holds is recorded in the bindings. -/
def Covers (t : Testbed) (s : BringUp × World) : Prop := s.1.bindings.Covers t.topology s.2

/-- A step does not lose a tap: when a start comes to bind links, the host takes all that it held
already once more, and a rediscovery finds all of it named in the installed `sys.config`. -/
def Step.Keeps (t : Testbed) : Step → BringUp × World → Prop
  | .operation o .start, (b, w) => ∀ sysConfig s late w', AtBinding o t b w sysConfig s late w' →
    ∀ node tap, w'.Holds node tap → w'.TookSince (bound o t sysConfig w').2.2 node tap
  | .operation _ .rediscover, (_, w) => ∀ sysConfig,
    w.files.readText t.release.sysConfig = .ok sysConfig →
    ∀ node tap, w.Holds node tap → Bindings.Names t.topology sysConfig node tap
  | _, _ => True

theorem covers_start_iff (hc : Covers t s) :
    Covers t ((Step.operation o .start).take t s) ↔ (Step.operation o .start).Keeps t s := by
  obtain ⟨b, w⟩ := s
  -- what comes after the binding leaves bindings and host alone
  have hbound : ∀ {sysConfig syn late w'}, AtBinding o t b w sysConfig syn late w' →
      ((start o t b w).2.1.bindings.Covers t.topology (start o t b w).2.2 ↔
        (bound o t sysConfig w').2.1.Covers t.topology (bound o t sysConfig w').2.2) := by
    intro sysConfig syn late w' reached
    rw [reached.start_eq]
    obtain ⟨hbind, hquiet⟩ := sync_bindings (o := o) (t := t)
      (b := { b.synthesized sysConfig syn with
        phase := .binding, bindings := (bound o t sysConfig w').2.1 })
      (w := (bound o t sysConfig w').2.2) (bound o t sysConfig w').1.bound.length
      (late ++ (bound o t sysConfig w').1.warnings)
    rw [hbind]
    unfold Bindings.Covers
    simp only [World.holds_of_quiet hquiet]
  constructor
  · intro hafter sysConfig syn late w' reached
    exact (Bindings.covers_bindAll_iff o t.topology sysConfig w').1 ((hbound reached).1 hafter)
  · intro hkeeps
    by_cases hreach : ∃ sysConfig syn late w', AtBinding o t b w sysConfig syn late w'
    · obtain ⟨sysConfig, syn, late, w', reached⟩ := hreach
      exact (hbound reached).2 ((Bindings.covers_bindAll_iff o t.topology sysConfig w').2
        (hkeeps sysConfig syn late w' reached))
    · obtain ⟨hbind, hquiet⟩ := start_unbound (o := o) (t := t) (b := b) (w := w)
        fun sysConfig syn late w' reached => hreach ⟨sysConfig, syn, late, w', reached⟩
      simp only [Covers, Step.take, Operation.perform, hbind]
      exact hc.of_quiet hquiet

theorem covers_rediscover_iff (built : t.topology.Built) (hc : Covers t s) :
    Covers t ((Step.operation o .rediscover).take t s) ↔
      (Step.operation o .rediscover).Keeps t s := by
  obtain ⟨b, w⟩ := s
  have htake : (Step.operation o .rediscover).take t (b, w) = (rediscover t b w).2 := rfl
  rw [Covers, htake]
  unfold rediscover
  split
  · rename_i w' failed
    obtain ⟨fault, hr, -, rfl⟩ := Op.readText_error failed
    refine iff_of_true hc fun sysConfig hr' => ?_
    rw [hr] at hr'
    cases hr'
  · rename_i sysConfig w' readBack
    obtain ⟨hr, rfl⟩ := Op.readText_ok readBack
    have hrec : ∀ node tap,
        ((Bindings.ofTopology t.topology).recover t.topology sysConfig).2.Records t.topology
          node tap ↔ Bindings.Names t.topology sysConfig node tap :=
      fun node tap => Bindings.records_recover built sysConfig
    unfold Bindings.Covers
    simp only [hrec]
    constructor
    · intro h sysConfig' hr' node tap hh
      obtain rfl := Except.ok.inj (hr.symm.trans hr')
      exact h node tap hh
    · intro h node tap hh
      exact h sysConfig hr node tap hh

/-- A stop has the host give up everything exactly if everything was recorded. -/
theorem holds_stop_iff (hacc : s.1.bindings.Accounts t.topology) :
    (∀ node tap, ¬((Step.operation o .stop).take t s).2.Holds node tap) ↔ Covers t s := by
  obtain ⟨b, w⟩ := s
  have hstop : (b.bindings.unbindAll o t.topology w).2.2.Quiet (stop o t b w).2.2 :=
    Emulator.stop_of_calls Op.composes_along (o.call_quiet _) _
  have htake : (Step.operation o .stop).take t (b, w) = (stop o t b w).2 := rfl
  simp only [htake, World.holds_of_quiet hstop]
  exact Bindings.not_holds_unbindAll_iff hacc

/-- A step from where nothing is forgotten forgets nothing exactly if it does not lose a tap. -/
theorem Step.covers_take_iff (built : t.topology.Built) (step : Step)
    (hacc : s.1.bindings.Accounts t.topology) (hc : Covers t s) :
    Covers t (step.take t s) ↔ step.Keeps t s := by
  have hp := fun o => Bindings.passInvariant_covers o t.topology
  cases step with
  | operation o op =>
    cases op with
    | start => exact covers_start_iff hc
    | rediscover => exact covers_rediscover_iff built hc
    | stop =>
      exact iff_of_true (stop_invariant (hp o).toBindInvariant (hp o).toUnbindInvariant
        ⟨hacc, hc⟩).2 trivial
    | stopSwitch name =>
      exact iff_of_true (stopSwitch_invariant (hp o).toBindInvariant (hp o).toUnbindInvariant
        ⟨hacc, hc⟩).2 trivial
    | startSwitch name =>
      exact iff_of_true (startSwitch_invariant (hp o).toBindInvariant ⟨hacc, hc⟩).2 trivial
    | setPortState name port up =>
      exact iff_of_true (setPortState_invariant (hp o).toBindInvariant ⟨hacc, hc⟩ port up).2 trivial
  | pass o p => exact iff_of_true ((hp o).run p ⟨hacc, hc⟩).2 trivial
  | elsewhere files cancelled => exact iff_of_true hc trivial

/-- All along a run from where the switch host holds nothing, all that it holds is recorded exactly
if no step loses a tap; and a stop has the host give up everything exactly if nothing was forgotten
before it. -/
theorem run_covers_iff (built : t.topology.Built) {w : World}
    (hw : ∀ node tap, ¬w.Holds node tap) (steps : List Step) :
    ((∀ done, done <+: steps → Covers t (run t done (fresh t.topology, w))) ↔
      ∀ done step, done ++ [step] <+: steps →
        step.Keeps t (run t done (fresh t.topology, w))) ∧
    ∀ done o, done ++ [.operation o .stop] <+: steps →
      ((∀ node tap, ¬(run t (done ++ [.operation o .stop]) (fresh t.topology, w)).2.Holds node tap) ↔
        Covers t (run t done (fresh t.topology, w))) := by
  refine ⟨⟨fun hc done step hd => ?_, fun hk done hd => ?_⟩, fun done o _ => ?_⟩
  · have hbefore := hc done ((List.prefix_append done [step]).trans hd)
    have hafter := hc (done ++ [step]) hd
    rw [run_append] at hafter
    exact (step.covers_take_iff built (run_accounts done w) hbefore).1 hafter
  · induction done using List.reverseRecOn with
    | nil => exact fun node tap hh => absurd hh (hw node tap)
    | append_singleton done step ih =>
      have hbefore := ih ((List.prefix_append done [step]).trans hd)
      rw [run_append]
      exact (step.covers_take_iff built (run_accounts done w) hbefore).2 (hk done step hd)
  · rw [run_append]
    exact holds_stop_iff (run_accounts done w)

/-- A ROADM is started and the bring-up stopped: neither loses a tap, so that nothing is held. -/
theorem run_covers_iff_sample : Sample.topology.Built ∧
    (∀ node tap, ¬Sample.world.Holds node tap) ∧
    ∀ node tap, ¬(run Sample.testbed [.operation Sample.outside (.startSwitch "r1"),
      .operation Sample.outside .stop] (fresh Sample.topology, Sample.world)).2.Holds node tap := by
  have hw : ∀ node tap, ¬Sample.world.Holds node tap := fun _ _ => Event.not_holds_nil
  obtain ⟨hiff, hstop⟩ := run_covers_iff (t := Sample.testbed) Sample.built hw
    [.operation Sample.outside (.startSwitch "r1"), .operation Sample.outside .stop]
  refine ⟨Sample.built, hw, (hstop [.operation Sample.outside (.startSwitch "r1")] Sample.outside
    List.prefix_rfl).2 (hiff.2 (fun done step hd => ?_) _ (List.prefix_append _ _))⟩
  have hmem := hd.subset (List.mem_append_right done List.mem_cons_self)
  rcases List.mem_pair.1 hmem with rfl | rfl <;> trivial

end OpticalTestbed.BringUp
