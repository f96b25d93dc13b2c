import OpticalTestbed.Proofs.BringUp.Consistency
import OpticalTestbed.Proofs.Unbinding
/-!
Stopping a bring-up detaches every attached link once and then stops the emulator, whatever becomes
of the calls. To stop it again stops the emulator once more and changes nothing.
-/
namespace OpticalTestbed

namespace Bindings

/-- No link is attached twice. -/
theorem Accounts.attached_nodup {b : Bindings} {t : Topology} (h : b.Accounts t)
    (built : t.Built) : (b.attached.map (·.1)).Nodup := by
  rw [attached_eq, List.map_flatMap, List.nodup_flatMap]
  have hlink : ∀ {name link}, link ∈ (b.attachedOn name).map (·.1) →
      link ∈ t.crossConnectsOf name := by
    intro name link hmem
    obtain ⟨e, he, rfl⟩ := List.mem_map.1 hmem
    exact h.of_tap? (mem_attachedOn.1 he)
  refine ⟨fun name hname => ?_, ?_⟩
  · obtain ⟨r, hr⟩ := Option.isSome_iff_exists.1 (mem_roadmNames.1 hname)
    rw [attachedOn_eq hr]
    exact Dict.nodup_keys r.attached
  · refine (Dict.nodup_keys b.roadms).imp_of_mem fun hname hname' hne => ?_
    refine List.disjoint_left.2 fun link hl hl' => hne ?_
    exact h.roadm_unique built hname hname' (hlink hl) (hlink hl')

end Bindings

namespace BringUp

/-- What a stop comes to: the host is asked to give up the tap of each attached link in turn, then
the emulator is told to stop, and that is all; its answer is that of the stop. Everything is
detached afterwards, whatever the answers were. -/
structure Stopped (t : Testbed) (b : BringUp) (w : World) (outcome : Outcome Unit) : Prop where
  calls : ∃ released last answer, w.Traces outcome.2.2 (released ++ [last]) ∧
    List.Forall₂ (fun e c => c.event.Releases t.topology e) b.bindings.attached released ∧
    last.event = .ran (Emulator.scriptCall t.release "stop") answer ∧
    outcome.1 = answer.map fun _ => ()
  state : outcome.2.1 = { b with phase := .idle, bindings := .ofTopology t.topology }

variable {t : Testbed} {b : BringUp}

theorem stopped_stop (ha : b.bindings.Accounts t.topology) (o : Outside) (w : World) :
    Stopped t b w (stop o t b w) := by
  obtain ⟨released, hreleased, hall⟩ := Bindings.unbindAll_traces ha o w
  have hlast := o.traces_call (b.bindings.unbindAll o t.topology w).2.2
    (Emulator.scriptCall t.release "stop")
  have hdetached := Bindings.unbindAll_eq ha o w
  simp only [stop, Emulator.stop_apply, hdetached]
  exact ⟨⟨released, _, _, hreleased.append hlast, hall, rfl, rfl⟩, rfl⟩

/-- Whatever was asked of a bring-up before, a stop detaches each attached link once and stops the
emulator; another stop, at any time after it, only stops the emulator and changes nothing else. -/
theorem run_stopped (built : t.topology.Built) (steps : List Step) (w : World) (o : Outside) :
    ∃ b v, run t steps (fresh t.topology, w) = (b, v) ∧
      (b.bindings.attached.map (·.1)).Nodup ∧ Stopped t b v (stop o t b v) ∧
      ∀ o' v', ∃ last answer, v'.Traces (stop o' t (stop o t b v).2.1 v').2.2 [last] ∧
        last.event = .ran (Emulator.scriptCall t.release "stop") answer ∧
        (stop o' t (stop o t b v).2.1 v').1 = answer.map (fun _ => ()) ∧
        (stop o' t (stop o t b v).2.1 v').2.1 = (stop o t b v).2.1 := by
  have ha := run_accounts (t := t) steps w
  generalize run t steps (fresh t.topology, w) = s at ha
  obtain ⟨b, v⟩ := s
  have hstopped := stopped_stop ha o v
  refine ⟨b, v, rfl, ha.attached_nodup built, hstopped, fun o' v' => ?_⟩
  rw [hstopped.state]
  obtain ⟨⟨released, last, answer, htrace, hall, hlast, hanswer⟩, hstate⟩ := stopped_stop
    (b := { b with phase := .idle, bindings := .ofTopology t.topology })
    (Bindings.accounts_ofTopology t.topology) o' v'
  -- nothing is left to be detached
  rw [Bindings.attached_ofTopology, List.forall₂_nil_left_iff] at hall
  subst hall
  exact ⟨last, answer, htrace, hlast, hanswer, hstate⟩

/-- A start attaches one tap; it is released by the stop after it. -/
theorem run_stopped_sample : Sample.testbed.topology.Built ∧
    ∃ b v, run Sample.testbed [.operation Sample.outside .start]
        (fresh Sample.testbed.topology, Sample.terseWorld) = (b, v) ∧
      b.bindings.attached = [(0, "tap7")] ∧
      Stopped Sample.testbed b v (stop Sample.outside Sample.testbed b v) := by
  have built : Sample.testbed.topology.Built := Sample.built
  have hattached : (run Sample.testbed [.operation Sample.outside .start]
      (fresh Sample.testbed.topology, Sample.terseWorld)).1.bindings.attached = [(0, "tap7")] := by
    decide +kernel
  obtain ⟨b, v, hrun, -, hstopped, -⟩ := run_stopped built [.operation Sample.outside .start]
    Sample.terseWorld Sample.outside
  rw [hrun] at hattached
  exact ⟨built, b, v, hrun, hattached, hstopped⟩

end BringUp

end OpticalTestbed
