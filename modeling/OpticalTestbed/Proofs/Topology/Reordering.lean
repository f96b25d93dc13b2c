import OpticalTestbed.Proofs.Inventory
import OpticalTestbed.Proofs.Topology.Acceptance
import OpticalTestbed.Proofs.Topology.Ports
/-!
Descriptions that differ in the order of what they list alone. They are accepted or refused alike,
and the topologies that they build give the same answers to whatever is asked by name.
-/
namespace OpticalTestbed

namespace TopologyDescription

variable {d d' : TopologyDescription}

/-- Descriptions that list the same switches, the same links and, for each domain, the same members,
in whichever order. -/
structure Reordered (d d' : TopologyDescription) : Prop where
  switches : d.switches.Perm d'.switches
  links : d.links.Perm d'.links
  domains : List.Forall₂ (fun e e' => e.1 = e'.1 ∧ e.2.Perm e'.2) d.domains.entries
    d'.domains.entries

namespace Reordered

theorem symm (h : d.Reordered d') : d'.Reordered d where
  switches := h.switches.symm
  links := h.links.symm
  domains := (h.domains.imp fun _ _ he => ⟨he.1.symm, he.2.symm⟩).flip

theorem nodesOf (h : d.Reordered d') :
    (SwitchDescription.nodesOf d.switches).Perm (SwitchDescription.nodesOf d'.switches) :=
  h.switches.filterMap _

theorem endpoints (h : d.Reordered d') : (endpoints d.links).Perm (endpoints d'.links) :=
  (h.links.map _).flatMap_right _

/-- The order of its members does not matter to a domain. -/
theorem memberSets (h : d.Reordered d') :
    memberSets d.domains.entries = memberSets d'.domains.entries := by
  refine map_eq_map_of_forall₂ (h.domains.imp fun e e' ⟨hname, hmembers⟩ => ?_)
  have hset : KeySet.ofList e.2 = KeySet.ofList e'.2 := by
    refine KeySet.ext_of_mem_iff fun m => ?_
    rw [KeySet.mem_toList_ofList, KeySet.mem_toList_ofList, hmembers.mem_iff]
  rw [hname, hset]

theorem acceptable (h : d.Reordered d') (ha : d.Acceptable) : d'.Acceptable := by
  have hnode : ∀ {P : Node → Prop}, (∃ n ∈ SwitchDescription.nodesOf d.switches, P n) →
      ∃ n ∈ SwitchDescription.nodesOf d'.switches, P n := by
    rintro P ⟨n, hn, hp⟩
    exact ⟨n, h.nodesOf.mem_iff.1 hn, hp⟩
  constructor
  case switches => exact fun s hs => ha.switches s (h.switches.mem_iff.2 hs)
  case names => exact (h.nodesOf.map _).nodup_iff.1 ha.names
  case dpids => exact (h.nodesOf.map _).nodup_iff.1 ha.dpids
  case known => exact fun e he => hnode (ha.known e (h.endpoints.mem_iff.2 he))
  case distinct => exact fun l hl => ha.distinct l (h.links.mem_iff.2 hl)
  case ports => exact (h.endpoints.map _).nodup_iff.1 ha.ports
  case optical => exact fun l hl ho => hnode (ha.optical l (h.links.mem_iff.2 hl) ho)
  case members =>
    intro e' he' m hm
    have hset : (e'.1, KeySet.ofList e'.2) ∈ TopologyDescription.memberSets d.domains.entries :=
      h.memberSets ▸ List.mem_map_of_mem he'
    obtain ⟨e, he, hsame⟩ := List.mem_map.1 hset
    rw [← KeySet.mem_toList_ofList, ← (Prod.mk.inj hsame).2, KeySet.mem_toList_ofList] at hm
    exact hnode (ha.members e he m hm)

end Reordered

end TopologyDescription

namespace Topology

variable {t t' : Topology}

/-- Well-formed topologies of the same nodes, links and domains, in whichever order these came. -/
structure Reordered (t t' : Topology) : Prop where
  left : t.WellFormed
  right : t'.WellFormed
  nodes : t.nodes.Perm t'.nodes
  links : t.links.Perm t'.links
  domains : t.domains = t'.domains

theorem reordered_of_build {d d' : TopologyDescription} (h : d.Reordered d')
    (ok : d.build = .ok t) (ok' : d'.build = .ok t') : t.Reordered t' := by
  obtain ⟨built, -, -, hnodes, hlinks, hdomains⟩ := TopologyDescription.build_eq ok
  obtain ⟨built', -, -, hnodes', hlinks', hdomains'⟩ := TopologyDescription.build_eq ok'
  constructor
  case left => exact built.wellFormed
  case right => exact built'.wellFormed
  case nodes => rw [hnodes, hnodes']; exact h.nodesOf
  case links => rw [hlinks, hlinks']; exact h.links.map _
  case domains => rw [hdomains, hdomains', h.memberSets]

theorem WellFormed.node?_eq_some_iff (h : t.WellFormed) {name : String} {n : Node} :
    t.node? name = some n ↔ n ∈ t.nodes ∧ n.name = name := by
  refine ⟨node?_mem, ?_⟩
  rintro ⟨hn, rfl⟩
  exact h.node?_eq hn

namespace Reordered

theorem node? (h : t.Reordered t') : t.node? = t'.node? := by
  funext name
  refine Option.ext fun n => ?_
  rw [h.left.node?_eq_some_iff, h.right.node?_eq_some_iff, h.nodes.mem_iff]

theorem portOn? (h : t.Reordered t') : t.portOn? = t'.portOn? := by
  have hkind : t.opticalKind? = t'.opticalKind? := by
    funext l
    rw [opticalKind?, classify?, h.node?, ← classify?, ← opticalKind?]
  funext n l
  unfold Topology.portOn? portOf
  rw [hkind]

/-- A port number stands for one link on a node, so its ports do not depend on the order of links. -/
theorem ports (h : t.Reordered t') (name : String) : t.ports name = t'.ports name := by
  unfold Topology.ports
  rw [h.node?]
  cases t'.node? name with
  | none => rfl
  | some n =>
    have hdict := Dict.ofList_eq_of_perm (h.left.portKeys_nodup n) ((h.links.filterMap _).map _)
    rw [h.portOn?] at hdict ⊢
    exact congrArg Dict.values hdict

theorem scope (h : t.Reordered t') (domain : Option String) : t.scope domain = t'.scope domain := by
  unfold Topology.scope
  rw [h.domains]

end Reordered

end Topology

end OpticalTestbed
