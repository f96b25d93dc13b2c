import OpticalTestbed.Proofs.Pointwise
import OpticalTestbed.Proofs.Topology.Ports
import OpticalTestbed.Proofs.Topology.Requests
import OpticalTestbed.Proofs.Topology.Sides
/-!
What the ports of a node tell of its links: for each link on the node there is one port, under the
number of its end, and no others. Its speed is the one at the ROADM, on a trunk the one at this end.
-/
namespace OpticalTestbed

namespace Topology

/-- The links on a node. -/
def linksOn (t : Topology) (name : String) : List Link :=
  t.links.filter fun l => l.a.node = name ∨ l.b.node = name

/-- The port that a link makes of one of its ends. -/
inductive Shows (t : Topology) (l : Link) (own far : Endpoint) : Port → Prop
  | copper : l.kind = .packet → Shows t l own far ⟨own.port, 0, .copper⟩
  | oms : t.IsTrunk l → Shows t l own far ⟨own.port, own.speed, .oms⟩
  | ochRoadm : t.Bridges l own far → Shows t l own far ⟨own.port, own.speed, .och⟩
  | ochPacket : t.Bridges l far own → Shows t l own far ⟨own.port, far.speed, .och⟩

/-- The port that a link makes on a node. -/
def ShowsOn (t : Topology) (name : String) (l : Link) (p : Port) : Prop :=
  ∃ own far, l.Joins own far ∧ own.node = name ∧ t.Shows l own far p

variable {t : Topology} {n : Node} {l : Link} {own far : Endpoint} {p : Port} {name : String}

theorem ports_of_node? (hn : t.node? name = some n) : t.ports name =
    (Dict.ofList ((t.links.filterMap (t.portOn? n)).map fun p => (p.port, p))).values := by
  simp only [ports, hn]

theorem ports_of_unknown (hn : t.node? name = none) : t.ports name = [] := by
  simp only [ports, hn]

theorem ports_ascend (t : Topology) (name : String) :
    ((t.ports name).map (·.port)).Pairwise (· < ·) := by
  cases hn : t.node? name with
  | none =>
    rw [ports_of_unknown hn]
    exact .nil
  | some n =>
    rw [ports_of_node? hn, Dict.values, List.map_map]
    generalize hd : Dict.ofList ((t.links.filterMap (t.portOn? n)).map fun p => (p.port, p)) = d
    -- every port is listed under its own number
    have hkeys : d.entries.map ((·.port) ∘ (·.2)) = d.keys := by
      refine List.map_congr_left fun e he => ?_
      obtain ⟨p, -, rfl⟩ := List.mem_map.1 (Dict.mem_of_mem_ofList (hd ▸ he))
      rfl
    rw [hkeys]
    exact List.pairwise_map.2 d.sorted

namespace WellFormed

theorem portOf_roadm (h : t.WellFormed) (bridges : t.Bridges l own far)
    (hn : t.node? own.node = some n) : t.portOf n own far l = ⟨own.port, own.speed, .och⟩ := by
  have hcross := h.isCrossConnect_iff.2 ⟨own, far, bridges⟩
  have hroadm := h.kind_unique (isOn_of_node? hn) bridges.roadm
  simp only [portOf, hcross, Node.isRoadm, hroadm, decide_true, if_true]

theorem portOf_packet (h : t.WellFormed) (bridges : t.Bridges l far own)
    (hn : t.node? own.node = some n) : t.portOf n own far l = ⟨own.port, far.speed, .och⟩ := by
  have hcross := h.isCrossConnect_iff.2 ⟨far, own, bridges⟩
  have hpacket := h.kind_unique (isOn_of_node? hn) bridges.packet
  simp [portOf, hcross, Node.isRoadm, hpacket]

theorem shows_portOf (h : t.WellFormed) (hl : l ∈ t.links) (joins : l.Joins own far)
    (hn : t.node? own.node = some n) : t.Shows l own far (t.portOf n own far l) := by
  cases hkind : l.kind with
  | packet =>
    have hnone : t.opticalKind? l = none := by simp [opticalKind?, Link.isOptical, hkind]
    simp only [portOf, hnone]
    exact .copper hkind
  | optical =>
    rcases h.trunk_or_bridges hl hkind with trunk | ⟨roadm, packet, bridges⟩
    · have hroadm : n.kind = .roadm := by
        obtain ⟨-, ha, hb⟩ := trunk
        rcases joins with ⟨rfl, -⟩ | ⟨rfl, -⟩
        · exact h.kind_unique (isOn_of_node? hn) ha
        · exact h.kind_unique (isOn_of_node? hn) hb
      simp only [portOf, h.isTrunk_iff.2 trunk, Node.isRoadm, hroadm, decide_true, if_true]
      exact .oms trunk
    · rcases joins.eq_or_swap bridges.joins with ⟨rfl, rfl⟩ | ⟨rfl, rfl⟩
      · rw [h.portOf_roadm bridges hn]
        exact .ochRoadm bridges
      · rw [h.portOf_packet bridges hn]
        exact .ochPacket bridges

theorem portOn?_of_joins (h : t.WellFormed) (hl : l ∈ t.links) (joins : l.Joins own far)
    (hname : own.node = n.name) : t.portOn? n l = some (t.portOf n own far l) := by
  obtain ⟨hown, hfar⟩ := joins.endpointOn? (h.distinct l hl)
  rw [hname] at hown hfar
  simp only [portOn?, hown, hfar]

/-- Each link on a node makes a port, and the others make none. -/
theorem forall₂_portOn? (h : t.WellFormed) (hn : n ∈ t.nodes) :
    List.Forall₂ (t.ShowsOn n.name) (t.linksOn n.name) (t.links.filterMap (t.portOn? n)) := by
  refine forall₂_filter_filterMap fun l hl => ?_
  by_cases hon : l.a.node = n.name ∨ l.b.node = n.name
  · obtain ⟨own, far, joins, hname⟩ := Link.exists_joins hon
    rw [h.portOn?_of_joins hl joins hname]
    exact ⟨decide_eq_true hon, own, far, joins, hname,
      h.shows_portOf hl joins (hname ▸ h.node?_eq hn)⟩
  · rw [not_or] at hon
    have hnone : t.portOn? n l = none := by
      simp [portOn?, Link.endpointOn?, hon.1, hon.2]
    rw [hnone]
    simpa using hon

/-- No link is on a node that there is not. -/
theorem linksOn_eq_nil (h : t.WellFormed) (hn : t.node? name = none) : t.linksOn name = [] := by
  refine List.filter_eq_nil_iff.2 fun l hl hon => ?_
  obtain ⟨own, far, joins, rfl⟩ := Link.exists_joins (of_decide_eq_true hon)
  obtain ⟨kind, hown⟩ := h.exists_isOn hl joins
  obtain ⟨n, hsome, -⟩ := h.isOn_iff.1 hown
  cases hn.symm.trans hsome

/-- The ports of a node are those of the links on it. -/
theorem ports_linksOn (h : t.WellFormed) (name : String) :
    ∃ shown, (t.ports name).Perm shown ∧ List.Forall₂ (t.ShowsOn name) (t.linksOn name) shown := by
  cases hn : t.node? name with
  | none =>
    rw [ports_of_unknown hn, h.linksOn_eq_nil hn]
    exact ⟨[], .nil, .nil⟩
  | some n =>
    obtain ⟨hmem, rfl⟩ := node?_mem hn
    exact ⟨_, h.ports_perm hmem, h.forall₂_portOn? hmem⟩

theorem portOf_mem_ports (h : t.WellFormed) (hl : l ∈ t.links) (joins : l.Joins own far)
    (hn : t.node? own.node = some n) : t.portOf n own far l ∈ t.ports own.node := by
  obtain ⟨hmem, hname⟩ := node?_mem hn
  rw [← hname, (h.ports_perm hmem).mem_iff, List.mem_filterMap]
  exact ⟨l, hl, h.portOn?_of_joins hl joins hname.symm⟩

/-- Both ends of a cross-connect report the speed of the ROADM's end. -/
theorem ports_of_bridges (h : t.WellFormed) {roadm packet : Endpoint} (hl : l ∈ t.links)
    (bridges : t.Bridges l roadm packet) :
    ⟨roadm.port, roadm.speed, .och⟩ ∈ t.ports roadm.node ∧
      ⟨packet.port, roadm.speed, .och⟩ ∈ t.ports packet.node := by
  obtain ⟨r, hr, -⟩ := h.isOn_iff.1 bridges.roadm
  obtain ⟨s, hs, -⟩ := h.isOn_iff.1 bridges.packet
  rw [← h.portOf_roadm bridges hr, ← h.portOf_packet bridges hs]
  exact ⟨h.portOf_mem_ports hl bridges.joins hr, h.portOf_mem_ports hl bridges.joins.symm hs⟩

end WellFormed

/-- After any requests, the ports of a name ascend by number, and they are the ports that the links
on it make, one for each link: copper without speed for a packet link, whatever it joins, an optical
multiplex section with the speed of this end for a trunk, an optical channel for a cross-connect.
Both ends of a cross-connect report the speed that its ROADM's end is given. -/
theorem ports_describe (requests : List Request) :
    let t := (run requests empty).2
    (∀ name, ((t.ports name).map (·.port)).Pairwise (· < ·) ∧
      ∃ shown, (t.ports name).Perm shown ∧
        List.Forall₂ (t.ShowsOn name) (t.linksOn name) shown) ∧
    ∀ l ∈ t.links, ∀ roadm packet, t.Bridges l roadm packet →
      ⟨roadm.port, roadm.speed, .och⟩ ∈ t.ports roadm.node ∧
        ⟨packet.port, roadm.speed, .och⟩ ∈ t.ports packet.node := by
  intro t
  have h : t.WellFormed := (run_built requests .empty).wellFormed
  exact ⟨fun name => ⟨t.ports_ascend name, h.ports_linksOn name⟩,
    fun l hl roadm packet => h.ports_of_bridges hl⟩

end Topology

end OpticalTestbed
