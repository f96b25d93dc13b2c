import OpticalTestbed.Proofs.BringUp.Preparing
import OpticalTestbed.Proofs.BringUp.Stopping
import OpticalTestbed.Proofs.Recovery
/-!
Taking down what another bring-up has attached. What is recovered from the `sys.config` that a start
has installed contains every tap that the start had attached, so that a stop releases all of them.
-/
namespace OpticalTestbed

/-- Whether the switch host took the tap in this call. -/
def Event.takes (node tap : String) : Event → Bool
  | .attached node' tap' (.ok _) => node' == node && tap' == tap
  | _ => false

theorem Event.takes_iff {e : Event} {node tap : String} :
    e.takes node tap = true ↔ e = .attached node tap (.ok ()) := by
  constructor
  · intro h
    unfold takes at h
    split at h
    · obtain ⟨rfl, rfl⟩ : _ ∧ _ := by simpa using h
      rfl
    · cases h
  · rintro rfl
    simp [takes]

namespace World

theorem tookSince_of_takes {w w' : World} {node tap : String} {made : List Event}
    (h : w'.events = made ++ w.events) (htakes : made.any (Event.takes node tap) = true) :
    w.TookSince w' node tap := by
  obtain ⟨e, hmem, he⟩ := List.any_eq_true.1 htakes
  exact ⟨made, h, Event.takes_iff.1 he ▸ hmem⟩

/-- Nothing was taken where the switch host was left alone. -/
theorem TookSince.not_quiet {w w' : World} {node tap : String} (h : w.TookSince w' node tap) :
    ¬w.Quiet w' := by
  obtain ⟨made, hmade, hmem⟩ := h
  rintro ⟨calls, hcalls, hquiet⟩
  have hevents : w'.events = calls.map (·.event) ++ w.events := by simp [events, hcalls]
  rw [List.append_cancel_right (hmade.symm.trans hevents)] at hmem
  obtain ⟨c, hc, he⟩ := List.mem_map.1 hmem
  exact hquiet c hc (he ▸ trivial)

end World

namespace BringUp

variable {o : Outside} {t : Testbed} {b : BringUp} {w w' : World} {node tap : String}

/-- What a start has bound is what the switch host has taken since the start began. -/
theorem AtBinding.recordsSince {sysConfig : String} {s : Synthesis} {late : List Failure}
    (h : AtBinding o t b w sysConfig s late w') :
    (bound o t sysConfig w').2.1.RecordsSince t.topology w (start o t b w).2.2 := by
  have hinvariant := Bindings.bindInvariant_recordsSince o t.topology w
  have hbefore := hinvariant.quiet h.quiet (Bindings.recordsSince_ofTopology t.topology w)
  have hquiet := (sync_bindings (o := o) (t := t)
    (b := { b.synthesized sysConfig s with
      phase := .binding, bindings := (bound o t sysConfig w').2.1 })
    (w := (bound o t sysConfig w').2.2) (bound o t sysConfig w').1.bound.length
    (late ++ (bound o t sysConfig w').1.warnings)).2
  rw [h.start_eq]
  exact hinvariant.quiet hquiet (hinvariant.bindAll sysConfig hbefore)

/-- What is taken in a start is taken while it binds links. -/
theorem start_took (h : w.TookSince (start o t b w).2.2 node tap) :
    ∃ sysConfig s late w', AtBinding o t b w sysConfig s late w' ∧
      (bound o t sysConfig w').2.1.Records t.topology node tap := by
  by_contra hnone
  refine h.not_quiet (start_unbound fun sysConfig s late w' reached => ?_).2
  exact hnone ⟨sysConfig, s, late, w', reached, reached.recordsSince.took_iff.1 h⟩

/-- A stop asks the host to give up whatever is recorded. -/
theorem Stopped.releases {outcome : Outcome Unit} (h : Stopped t b w outcome)
    (hrec : b.bindings.Records t.topology node tap) :
    ∃ trace, w.Traces outcome.2.2 trace ∧ ∃ c ∈ trace, ∃ answer, c.event = .detached node tap answer := by
  obtain ⟨released, last, -, htrace, hall, -⟩ := h.calls
  obtain ⟨link, ends, hmem, he, rfl⟩ := hrec
  obtain ⟨i, hi, hget⟩ := List.getElem_of_mem hmem
  have hi' : i < released.length := hall.length_eq ▸ hi
  have hreleases := hall.get hi hi'
  rw [List.get_eq_getElem, hget] at hreleases
  obtain ⟨ends', answer, he', hevent⟩ := hreleases
  obtain rfl := Option.some.inj (he.symm.trans he')
  exact ⟨_, htrace, released[i], List.mem_append_left _ (List.getElem_mem hi'), answer, hevent⟩

/-- A fresh bring-up takes its bindings from the installed `sys.config` and asks nobody. -/
theorem rediscover_fresh {sysConfig : String}
    (h : w.files.readText t.release.sysConfig = .ok sysConfig) :
    (rediscover t (fresh t.topology) w).2.1.bindings =
        ((Bindings.ofTopology t.topology).recover t.topology sysConfig).2 ∧
      (rediscover t (fresh t.topology) w).2.2 = w := by
  have hread : Op.readText t.release.sysConfig w = (.ok sysConfig, w) := by rw [Op.readText, h]
  unfold rediscover
  rw [hread]
  dsimp only
  generalize (Bindings.ofTopology t.topology).recover t.topology sysConfig = recovered
  exact ⟨rfl, rfl⟩

/-- A recovery moves what a binding pass attaches if no call fails, and whatever fails it moves no
less. Hence, of whatever a start has attached from the `sys.config` that it installed, a fresh
bring-up that rediscovers the same `sys.config` releases all when it is stopped. -/
theorem teardown_covers (t : Testbed) :
    (∀ (b : Bindings) (sysConfig : String), b.isConsistent t.topology = true →
      ∃ moved, ∀ o w, b.Recovers o t.topology sysConfig w moved) ∧
    ∀ o b w node tap, w.TookSince (start o t b w).2.2 node tap →
      ∃ sysConfig s installed, synthesize o t w = (.ok (sysConfig, s), installed) ∧
        installed.files.readText t.release.sysConfig = .ok sysConfig ∧
        ∀ (t' : Testbed) (w' : World), t'.topology = t.topology →
          w'.files.readText t'.release.sysConfig = .ok sysConfig →
          (rediscover t' (fresh t'.topology) w').2.2 = w' ∧
          ∀ o' (v : World), ∃ trace,
            v.Traces (stop o' t' (rediscover t' (fresh t'.topology) w').2.1 v).2.2 trace ∧
            ∃ c ∈ trace, ∃ answer, c.event = .detached node tap answer := by
  refine ⟨fun b sysConfig hb => ?_, fun o b w node tap htook => ?_⟩
  · exact ⟨_, fun o w => (Bindings.isConsistent_iff.1 hb).recovers o sysConfig w⟩
  · obtain ⟨sysConfig, s, late, w₂, reached, hrec⟩ := start_took htook
    obtain ⟨w₁, answer, ⟨-, installed, made, -⟩, -⟩ := reached
    obtain ⟨-, -, -, -, hinstalled⟩ := synthesize_produces made
    refine ⟨sysConfig, s, installed, made, hinstalled, fun t' w' htopology hread => ?_⟩
    obtain ⟨hbindings, hworld⟩ := rediscover_fresh hread
    refine ⟨hworld, fun o' v => ?_⟩
    have hacc : (rediscover t' (fresh t'.topology) w').2.1.bindings.Accounts t'.topology := by
      rw [hbindings]
      exact (Bindings.accounts_ofTopology t'.topology).recover o' v sysConfig
    refine (stopped_stop hacc o' v).releases ?_
    rw [hbindings, htopology]
    exact hrec.recover

/-- A start attaches one tap. A fresh bring-up recovers it from what was installed, and a stop
releases it. -/
theorem teardown_covers_sample :
    (Bindings.ofTopology Sample.topology).isConsistent Sample.topology = true ∧
    (∃ moved, ∀ o w,
      (Bindings.ofTopology Sample.topology).Recovers o Sample.topology Sample.terseConfig w moved) ∧
    Sample.terseWorld.TookSince (start Sample.outside Sample.testbed (fresh Sample.topology)
      Sample.terseWorld).2.2 "s1" "tap7" ∧
    ∃ (sysConfig : String) (installed : World),
      installed.files.readText Sample.testbed.release.sysConfig = .ok sysConfig ∧
      ∃ trace, installed.Traces (stop Sample.outside Sample.testbed
          (rediscover Sample.testbed (fresh Sample.topology) installed).2.1 installed).2.2 trace ∧
        ∃ c ∈ trace, ∃ answer, c.event = .detached "s1" "tap7" answer := by
  have hb := (Bindings.accounts_ofTopology Sample.topology).isConsistent
  have htook : Sample.terseWorld.TookSince (start Sample.outside Sample.testbed
      (fresh Sample.topology) Sample.terseWorld).2.2 "s1" "tap7" :=
    World.tookSince_of_takes (List.append_nil _).symm (by decide +kernel)
  obtain ⟨hrecovers, hcovers⟩ := teardown_covers Sample.testbed
  obtain ⟨sysConfig, s, installed, -, hread, hteardown⟩ :=
    hcovers Sample.outside (fresh Sample.topology) Sample.terseWorld "s1" "tap7" htook
  exact ⟨hb, hrecovers _ Sample.terseConfig hb, htook, sysConfig, installed, hread,
    (hteardown Sample.testbed installed rfl hread).2 Sample.outside installed⟩

end BringUp

end OpticalTestbed
