import OpticalTestbed.Proofs.BindReport
import OpticalTestbed.Proofs.BringUp.Pushing
import OpticalTestbed.Proofs.NetworkConfig
import OpticalTestbed.Proofs.Waiting
/-!
What a start with a running emulator calls: probes for taps, the binding of links, requests for
devices and pushes, and what each of these parts has to report.
-/
namespace OpticalTestbed

/-- The devices in scope, as the controller calls them. -/
def Testbed.deviceUris (t : Testbed) : List String :=
  match t.topology.scope t.domain with
  | .ok scope => (t.topology.nodesIn scope).map (·.dpid.uri)
  | .error _ => []

namespace Waiting

/-- A wait that was not cancelled is over: something good was found, or all attempts were made. The
one failure that it may leave is that it took too long. -/
structure Over (Good : Event → Prop) (policy : PollPolicy) (trace : List Occurrence)
    (late : List Failure) : Prop where
  within : trace.length ≤ policy.maxAttempts
  used : (∃ c ∈ trace, Good c.event) ∨ trace.length = policy.maxAttempts
  clean : late = [] ↔ ∃ c ∈ trace, Good c.event
  mild : ∀ e ∈ late, e.isFatal = false

theorem Ends.over {α : Type} {Good : Event → Prop} {what : String} {policy : PollPolicy}
    {trace : List Occurrence} {answer : Except Failure α} {late : List Failure}
    (h : Ends Good what policy trace answer) (hlate : BringUp.waitWarning answer = .ok late) :
    Over Good policy trace late := by
  cases h with
  | ready hwithin hgood =>
    cases hlate
    exact ⟨hwithin, .inl hgood, iff_of_true rfl hgood, by simp⟩
  | timedOut hlength hnone =>
    cases hlate
    exact ⟨Nat.le_of_eq hlength, .inr hlength, by simpa using hnone, by simp [Failure.isFatal]⟩
  | cancelled => cases hlate

end Waiting

namespace BringUp

variable {o : Outside} {t : Testbed} {b : BringUp} {w w' : World} {sysConfig : String}
  {s : Synthesis} {late : List Failure}

theorem deviceUris_of_ofDomain (h : (Synthesis.ofDomain t.topology t.domain w).1 = .ok s) :
    s.inventory.deviceUris = t.deviceUris := by
  simp only [Synthesis.ofDomain] at h
  split at h
  · cases h
  · rename_i scope hscope
    split at h
    · cases h
    · rename_i made hmade
      obtain rfl := Except.ok.inj h
      unfold Synthesis.ofTopology? at hmade
      dsimp only at hmade
      split at hmade
      · cases hmade
      · cases hmade
        rw [Inventory.deviceUris_ofTopology, Testbed.deviceUris, hscope]

theorem Launched.expectedDevices (h : Launched o t b w sysConfig s w') :
    (b.synthesized sysConfig s).expectedDevices = KeySet.ofList t.deviceUris := by
  obtain ⟨-, w₁, made, -⟩ := h
  rw [← deviceUris_of_ofDomain (synthesize_ok made).1]
  rfl

theorem AtBinding.expectedDevices (h : AtBinding o t b w sysConfig s late w') :
    (b.synthesized sysConfig s).expectedDevices = KeySet.ofList t.deviceUris := by
  obtain ⟨w₁, answer, launched, -, -⟩ := h
  exact launched.expectedDevices

/-- Before links are bound there are probes for taps alone. -/
theorem AtBinding.probes (h : AtBinding o t b w sysConfig s late w') :
    ∃ w₁ trace, Launched o t b w sysConfig s w₁ ∧ w₁.Traces w' trace ∧
      (Waiting.forTaps o t.configuration.interfaceWait t.topology.crossConnects.length w₁).2 = w' ∧
      (∀ c ∈ trace, c.event.Runs (· = Interfaces.showCall)) ∧
      Waiting.Over (Event.ShowsTaps t.topology.crossConnects.length) t.configuration.interfaceWait
        trace late := by
  obtain ⟨w₁, answer, launched, waited, hlate⟩ := h
  obtain ⟨trace, htrace, hkind, hends⟩ := Waiting.forTaps_ends o t.configuration.interfaceWait
    t.topology.crossConnects.length w₁
  rw [waited] at htrace hends
  exact ⟨w₁, trace, launched, htrace, by rw [waited], hkind, hends.over hlate⟩

theorem devices_over {answer : Except Failure Unit}
    (waited : Waiting.forDevices o t.configuration.deviceWait (KeySet.ofList t.deviceUris) w =
      (answer, w')) (hlate : waitWarning answer = .ok late) :
    ∃ trace, w.Traces w' trace ∧ (∀ c ∈ trace, c.event.isFetch = true) ∧
      Waiting.Over (Event.ReportsDevices t.deviceUris) t.configuration.deviceWait trace late := by
  obtain ⟨trace, htrace, hkind, hends⟩ :=
    Waiting.forDevices_ends o t.configuration.deviceWait t.deviceUris w
  rw [waited] at htrace hends
  exact ⟨trace, htrace, hkind, hends.over hlate⟩

section Along

variable {R : World → World → Prop} [Std.Refl R] [IsTrans World R]

theorem bound_along (hi : ∀ i, Interfaces.IsCall i → (o.call i).Along R)
    (ha : ∀ node tap, (o.attachTap node tap).Along R) (sysConfig : String) (w : World) :
    R w (bound o t sysConfig w).2.2 :=
  (Bindings.passRelation_along hi ha).bindAll sysConfig (Bindings.accounts_ofTopology t.topology)

theorem sync_along (hc : ∀ i, (o.call i).Along R) (hf : o.fetchDevices.Along R) (n : Nat)
    (warnings : List Failure) : R w (sync o t n warnings b w).2.2 := by
  have hd := Waiting.forDevices_along hf t.configuration.deviceWait b.expectedDevices w
  unfold sync
  dsimp only
  split
  · exact hd
  · exact IsTrans.trans _ _ _ hd (pushAll_along hc _ _)

/-- From its coming to bind links on, a start goes where its calls go. -/
theorem AtBinding.along (h : AtBinding o t b w sysConfig s late w')
    (hc : ∀ i, (o.call i).Along R) (ha : ∀ node tap, (o.attachTap node tap).Along R)
    (hf : o.fetchDevices.Along R) : R w' (start o t b w).2.2 := by
  rw [h.start_eq]
  exact IsTrans.trans _ _ _ (bound_along (fun i _ => hc i) ha sysConfig w') (sync_along hc hf _ _)

end Along

/-- The calls of a start that finishes, once the emulator runs: its probes for taps, its binding of
links, its requests for devices and its pushes. -/
def Parts (o : Outside) (t : Testbed) (b : BringUp) (w w' : World)
    (probes binding fetches pushes : List Occurrence) : Prop :=
  ∃ sysConfig s launched waited bound synced, Launched o t b w sysConfig s launched ∧
    (Waiting.forTaps o t.configuration.interfaceWait t.topology.crossConnects.length
      launched).2 = waited ∧
    (BringUp.bound o t sysConfig waited).2.2 = bound ∧
    (Waiting.forDevices o t.configuration.deviceWait (KeySet.ofList t.deviceUris) bound).2 =
      synced ∧
    launched.Traces waited probes ∧ waited.Traces bound binding ∧ bound.Traces synced fetches ∧
    synced.Traces w' pushes

end BringUp

end OpticalTestbed
