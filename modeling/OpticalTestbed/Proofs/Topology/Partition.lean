import OpticalTestbed.Proofs.Bindings
import OpticalTestbed.Proofs.Topology.Requests
import OpticalTestbed.Proofs.Topology.Sides
/-!
Every cross-connect belongs to one ROADM. The views of a topology that tell of cross-connects, and
the bindings that they are made into, agree on which these are and on the ROADM of each.
-/
namespace OpticalTestbed

namespace Topology

variable {t : Topology} {l : Link} {id : LinkId} {roadm packet : Endpoint} {n : Node}

/-- Cross-connects are listed by ascending id. -/
theorem crossConnects_sublist (t : Topology) :
    t.crossConnects.Sublist (List.range t.links.length) := by
  have hids : t.numberedLinks.map (·.1) = List.range t.links.length := by
    rw [numberedLinks, List.map_map, List.range_eq_range', ← List.zipIdx_map_snd]
    rfl
  rw [← hids]
  exact List.filter_sublist.map _

theorem crossConnects_ascend (t : Topology) : t.crossConnects.Pairwise (· < ·) :=
  List.pairwise_lt_range.sublist t.crossConnects_sublist

theorem mem_crossConnects_of_ends {ends : Endpoint × Endpoint}
    (h : t.crossConnectEnds? id = some ends) : id ∈ t.crossConnects := by
  simp only [crossConnectEnds?] at h
  split at h
  · cases h
  · rename_i l hl
    split at h
    · rename_i hcross
      exact mem_crossConnects.2 ⟨l, hl, hcross⟩
    · cases h

/-- It is the cross-connects that have such ends. -/
theorem isSome_crossConnectEnds?_iff :
    (t.crossConnectEnds? id).isSome = true ↔ id ∈ t.crossConnects := by
  rw [Option.isSome_iff_exists]
  exact ⟨fun ⟨_, hends⟩ => mem_crossConnects_of_ends hends, exists_crossConnectEnds⟩

namespace WellFormed

theorem mem_crossConnects_iff (h : t.WellFormed) : id ∈ t.crossConnects ↔
    ∃ l, t.link? id = some l ∧ ∃ roadm packet, t.Bridges l roadm packet := by
  simp only [mem_crossConnects, h.isCrossConnect_iff]

theorem crossConnectEnds?_of_bridges (h : t.WellFormed) (hl : t.link? id = some l)
    (bridges : t.Bridges l roadm packet) : t.crossConnectEnds? id = some (roadm, packet) := by
  have hcross := h.isCrossConnect_iff.2 ⟨roadm, packet, bridges⟩
  obtain ⟨r, hr, hroadm⟩ := h.isOn_iff.1 bridges.roadm
  obtain ⟨p, hp, hpacket⟩ := h.isOn_iff.1 bridges.packet
  rcases bridges.joins with ⟨rfl, rfl⟩ | ⟨rfl, rfl⟩
  · simp [crossConnectEnds?, hl, hcross, hr, Node.isRoadm, hroadm]
  · simp [crossConnectEnds?, hl, hcross, hp, Node.isRoadm, hpacket]

/-- The ends of a cross-connect, the ROADM's first. -/
theorem crossConnectEnds?_eq_some_iff (h : t.WellFormed) :
    t.crossConnectEnds? id = some (roadm, packet) ↔
      ∃ l, t.link? id = some l ∧ t.Bridges l roadm packet := by
  constructor
  · intro hsome
    obtain ⟨l, hl, r, p, bridges⟩ := h.mem_crossConnects_iff.1 (mem_crossConnects_of_ends hsome)
    cases hsome.symm.trans (h.crossConnectEnds?_of_bridges hl bridges)
    exact ⟨l, hl, bridges⟩
  · rintro ⟨l, hl, bridges⟩
    exact h.crossConnectEnds?_of_bridges hl bridges

/-- Of all ROADMs a cross-connect is listed for the one at its end. -/
theorem mem_crossConnectsOf_iff (h : t.WellFormed) (hl : t.link? id = some l)
    (bridges : t.Bridges l roadm packet) (hn : n ∈ t.nodes) (hroadm : n.isRoadm = true) :
    id ∈ t.crossConnectsOf n.name ↔ n.name = roadm.node := by
  rw [mem_crossConnectsOf]
  constructor
  · rintro ⟨l', hl', -, hon⟩
    obtain rfl := Option.some.inj (hl.symm.trans hl')
    obtain ⟨own, far, joins, hname⟩ := Link.exists_joins hon
    rcases joins.eq_or_swap bridges.joins with ⟨rfl, rfl⟩ | ⟨rfl, rfl⟩
    · exact hname.symm
    · have hkind := h.kind_unique ⟨n, hn, hname.symm, Node.isRoadm_iff.1 hroadm⟩ bridges.packet
      cases hkind
  · intro hname
    exact ⟨l, hl, h.isCrossConnect_iff.2 ⟨roadm, packet, bridges⟩, hname ▸ bridges.joins.node⟩

end WellFormed

end Topology

namespace Bindings

variable {t : Topology} {id : LinkId} {name : String}

/-- What is detached at first are the cross-connects of each ROADM. -/
theorem detached_ofTopology : (∃ r, (ofTopology t).roadm? name = some r ∧ id ∈ r.detached.toList) ↔
    (∃ n ∈ t.nodes, n.isRoadm = true ∧ n.name = name) ∧ id ∈ t.crossConnectsOf name := by
  have hdetached : ∀ links : List LinkId, id ∈ (RoadmBindings.allDetached links).detached.toList ↔
      id ∈ links := by simp [RoadmBindings.allDetached]
  rw [← (accounts_ofTopology t).names, mem_roadmNames, Option.isSome_iff_exists]
  constructor
  · rintro ⟨r, hr, hid⟩
    rw [roadm?_ofTopology hr, hdetached] at hid
    exact ⟨⟨r, hr⟩, hid⟩
  · rintro ⟨⟨r, hr⟩, hid⟩
    refine ⟨r, hr, ?_⟩
    rwa [roadm?_ofTopology hr, hdetached]

end Bindings

namespace Topology

variable {t : Topology} {name : String}

/-- What is said of the cross-connects of a topology by the kinds of its links, by the lists of all
of them and of those on a ROADM, by their ends, and by the bindings at first. -/
structure Partitioned (t : Topology) : Prop where
  /-- An optical link is of one kind, and the kind tells what it joins. -/
  kinds : ∀ l ∈ t.links, l.kind = .optical →
    (t.opticalKind? l = some .trunk ∧ t.IsTrunk l ∧ ¬∃ roadm packet, t.Bridges l roadm packet) ∨
      t.opticalKind? l = some .crossConnect ∧ ¬t.IsTrunk l ∧
        ∃ roadm packet, t.Bridges l roadm packet
  ascending : t.crossConnects.Pairwise (· < ·) ∧ ∀ name, (t.crossConnectsOf name).Pairwise (· < ·)
  listed : ∀ id, (t.crossConnectEnds? id).isSome = true ↔ id ∈ t.crossConnects
  ends : ∀ id roadm packet, t.crossConnectEnds? id = some (roadm, packet) →
    ∃ l, t.link? id = some l ∧ t.Bridges l roadm packet
  /-- The ROADM at the first end is the only one for which a cross-connect is listed. -/
  owner : ∀ id roadm packet, t.crossConnectEnds? id = some (roadm, packet) →
    ∃ n ∈ t.nodes, n.name = roadm.node ∧
      ∀ m ∈ t.nodes, m.isRoadm = true ∧ id ∈ t.crossConnectsOf m.name ↔ m = n
  apart : ∀ name name' r r', (Bindings.ofTopology t).roadm? name = some r →
    (Bindings.ofTopology t).roadm? name' = some r' → name ≠ name' →
    r.detached.toList.Disjoint r'.detached.toList
  covered : ∀ id, id ∈ t.crossConnects ↔
    ∃ name r, (Bindings.ofTopology t).roadm? name = some r ∧ id ∈ r.detached.toList

/-- The bindings of two ROADMs have no link in common at first. -/
theorem WellFormed.detached_apart (h : t.WellFormed) {name' : String} {r r' : RoadmBindings}
    (hr : (Bindings.ofTopology t).roadm? name = some r)
    (hr' : (Bindings.ofTopology t).roadm? name' = some r') (hne : name ≠ name') :
    r.detached.toList.Disjoint r'.detached.toList := by
  intro id hid hid'
  obtain ⟨⟨n, hn, hroadm, rfl⟩, hid⟩ := Bindings.detached_ofTopology.1 ⟨r, hr, hid⟩
  obtain ⟨⟨n', hn', hroadm', rfl⟩, hid'⟩ := Bindings.detached_ofTopology.1 ⟨r', hr', hid'⟩
  have hsame := crossConnect_roadm_unique hid hid' (h.node?_eq hn) (h.node?_eq hn') hroadm hroadm'
  exact hne (congrArg Node.name hsame)

theorem WellFormed.partitioned (h : t.WellFormed) : t.Partitioned where
  kinds := by
    intro l hl ho
    have hapart : t.IsTrunk l → ¬∃ roadm packet, t.Bridges l roadm packet := by
      intro trunk bridges
      cases (h.isTrunk_iff.2 trunk).symm.trans (h.isCrossConnect_iff.2 bridges)
    rcases h.trunk_or_bridges hl ho with trunk | bridges
    · exact .inl ⟨h.isTrunk_iff.2 trunk, trunk, hapart trunk⟩
    · exact .inr ⟨h.isCrossConnect_iff.2 bridges, fun trunk => hapart trunk bridges, bridges⟩
  ascending := ⟨t.crossConnects_ascend, fun _ => t.crossConnects_ascend.filter _⟩
  listed _ := isSome_crossConnectEnds?_iff
  ends _ _ _ := h.crossConnectEnds?_eq_some_iff.1
  owner := by
    intro id roadm packet hends
    obtain ⟨l, hl, bridges⟩ := h.crossConnectEnds?_eq_some_iff.1 hends
    obtain ⟨n, hn, hname, hkind⟩ := bridges.roadm
    refine ⟨n, hn, hname, fun m hm => ⟨?_, ?_⟩⟩
    · rintro ⟨hroadm, hid⟩
      have hnode := (h.mem_crossConnectsOf_iff hl bridges hm hroadm).1 hid
      exact List.inj_on_of_nodup_map h.names hm hn (hnode.trans hname.symm)
    · rintro rfl
      have hroadm := Node.isRoadm_iff.2 hkind
      exact ⟨hroadm, (h.mem_crossConnectsOf_iff hl bridges hn hroadm).2 hname⟩
  apart _ _ _ _ := h.detached_apart
  covered := by
    intro id
    constructor
    · intro hid
      obtain ⟨n, hn, hroadm, hlisted⟩ := exists_roadm hid
      exact ⟨n.name, Bindings.detached_ofTopology.2 ⟨⟨n, hn, hroadm, rfl⟩, hlisted⟩⟩
    · rintro ⟨name, hdetached⟩
      exact crossConnects_of_mem (Bindings.detached_ofTopology.1 hdetached).2

/-- After any requests the cross-connects are the optical links that are no trunks, each with the
end on its ROADM first, and they are parted among these ROADMs: in the lists of those on a node as
in the bindings at first. -/
theorem run_partitions (requests : List Request) : (run requests empty).2.Partitioned :=
  (run_built requests .empty).wellFormed.partitioned

end Topology

end OpticalTestbed
