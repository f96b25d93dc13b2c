import OpticalTestbed.Proofs.BringUp.Run
/-!
Bindings are consistent all along a run: the cross-connects of each ROADM are split between those
that are attached and those that are not, and no link belongs to two ROADMs.
-/
namespace OpticalTestbed

namespace Bindings

/-- The cross-connects of a topology are split by its ROADMs, and by each of them between those
that are attached and those that are not. -/
structure Splits (b : Bindings) (t : Topology) : Prop where
  consistent : b.isConsistent t = true
  names : ∀ name, name ∈ b.roadmNames ↔ ∃ n ∈ t.nodes, n.isRoadm = true ∧ n.name = name
  apart : ∀ name r, b.roadm? name = some r → ∀ link ∈ r.attached.keys, link ∉ r.detached.toList
  all : ∀ name r, b.roadm? name = some r →
    ∀ link, link ∈ r.attached.keys ∨ link ∈ r.detached.toList ↔ link ∈ t.crossConnectsOf name
  unique : ∀ name name' r r' link, b.roadm? name = some r → b.roadm? name' = some r' →
    link ∈ r.attached.keys ∨ link ∈ r.detached.toList →
    link ∈ r'.attached.keys ∨ link ∈ r'.detached.toList → name = name'

variable {b : Bindings} {t : Topology}

/-- Where bindings account for a topology, no link is under two ROADMs. -/
theorem Accounts.roadm_unique (h : b.Accounts t) (built : t.Built) {name name' : String}
    {link : LinkId} (hn : name ∈ b.roadmNames) (hn' : name' ∈ b.roadmNames)
    (hl : link ∈ t.crossConnectsOf name) (hl' : link ∈ t.crossConnectsOf name') :
    name = name' := by
  obtain ⟨n, hmem, hroadm, rfl⟩ := (h.names name).1 hn
  obtain ⟨n', hmem', hroadm', rfl⟩ := (h.names name').1 hn'
  have he := Topology.crossConnect_roadm_unique hl hl' (built.node?_eq hmem) (built.node?_eq hmem')
    hroadm hroadm'
  rw [he]

theorem Accounts.splits (h : b.Accounts t) (built : t.Built) : b.Splits t where
  consistent := h.isConsistent
  names := h.names
  apart name r hr := (h.links name r hr).apart
  all name r hr := (h.links name r hr).all
  unique := by
    intro name name' r r' link hr hr' hl hl'
    have hn : name ∈ b.roadmNames := mem_roadmNames.2 (by rw [hr]; rfl)
    have hn' : name' ∈ b.roadmNames := mem_roadmNames.2 (by rw [hr']; rfl)
    exact h.roadm_unique built hn hn' (((h.links name r hr).all link).1 hl)
      (((h.links name' r' hr').all link).1 hl')

end Bindings

namespace BringUp

/-- All along a run from nothing, whatever is asked of the bring-up in whichever order and whatever
the outside parties answer, the bindings split the cross-connects of the topology. -/
theorem run_splits {t : Testbed} (built : t.topology.Built) (steps : List Step) (w : World) :
    (run t steps (fresh t.topology, w)).1.bindings.Splits t.topology :=
  (run_accounts steps w).splits built

/-- A ROADM is started, and its cross-connect attached; then it is stopped again. -/
theorem run_splits_sample : Sample.testbed.topology.Built ∧
    (run Sample.testbed [.operation Sample.outside (.startSwitch "r1"),
      .pass Sample.outside (.unbind "r1"), .operation Sample.outside (.stopSwitch "r1")]
      (fresh Sample.testbed.topology, Sample.world)).1.bindings.Splits Sample.testbed.topology := by
  have built : Sample.testbed.topology.Built := Sample.built
  exact ⟨built, run_splits built _ Sample.world⟩

end BringUp

end OpticalTestbed
