import OpticalTestbed.Proofs.Topology.WellFormed
/-!
The two sides of a link. The devices that stand there decide what an optical link is: a trunk joins
two ROADMs, a cross-connect a ROADM and a packet switch.
-/
namespace OpticalTestbed

/-- The ends of a link, taken in either order. -/
def Link.Joins (l : Link) (own far : Endpoint) : Prop :=
  own = l.a ∧ far = l.b ∨ own = l.b ∧ far = l.a

section Joins

variable {l : Link} {own far own' far' : Endpoint} {name : String}

theorem Link.Joins.symm (h : l.Joins own far) : l.Joins far own := by
  rcases h with ⟨rfl, rfl⟩ | ⟨rfl, rfl⟩
  · exact .inr ⟨rfl, rfl⟩
  · exact .inl ⟨rfl, rfl⟩

/-- There are two ways to take the ends of a link. -/
theorem Link.Joins.eq_or_swap (h : l.Joins own far) (h' : l.Joins own' far') :
    own = own' ∧ far = far' ∨ own = far' ∧ far = own' := by
  rcases h with ⟨rfl, rfl⟩ | ⟨rfl, rfl⟩
  · rcases h' with ⟨rfl, rfl⟩ | ⟨rfl, rfl⟩
    · exact .inl ⟨rfl, rfl⟩
    · exact .inr ⟨rfl, rfl⟩
  · rcases h' with ⟨rfl, rfl⟩ | ⟨rfl, rfl⟩
    · exact .inr ⟨rfl, rfl⟩
    · exact .inl ⟨rfl, rfl⟩

/-- A link that is on a node has an end there. -/
theorem Link.exists_joins (h : l.a.node = name ∨ l.b.node = name) :
    ∃ own far, l.Joins own far ∧ own.node = name := by
  rcases h with h | h
  · exact ⟨l.a, l.b, .inl ⟨rfl, rfl⟩, h⟩
  · exact ⟨l.b, l.a, .inr ⟨rfl, rfl⟩, h⟩

theorem Link.Joins.node (h : l.Joins own far) : l.a.node = own.node ∨ l.b.node = own.node := by
  rcases h with ⟨rfl, -⟩ | ⟨rfl, -⟩
  · exact .inl rfl
  · exact .inr rfl

theorem Link.Joins.endpointOn? (h : l.Joins own far) (hne : l.a.node ≠ l.b.node) :
    l.endpointOn? own.node = some own ∧ l.farEnd? own.node = some far := by
  rcases h with ⟨rfl, rfl⟩ | ⟨rfl, rfl⟩
  · simp [Link.endpointOn?, Link.farEnd?]
  · simp [Link.endpointOn?, Link.farEnd?, hne]

end Joins

/-- What an optical link is, by the devices at its ends. -/
def OpticalKind.between : NodeKind → NodeKind → Option OpticalKind
  | .roadm, .roadm => some .trunk
  | .roadm, .switch | .switch, .roadm => some .crossConnect
  | .switch, .switch => none

theorem Node.isRoadm_iff {n : Node} : n.isRoadm = true ↔ n.kind = .roadm := by simp [Node.isRoadm]

namespace Topology

/-- An endpoint is on a device of a certain kind. -/
def IsOn (t : Topology) (kind : NodeKind) (e : Endpoint) : Prop :=
  ∃ n ∈ t.nodes, n.name = e.node ∧ n.kind = kind

/-- An optical link between ROADMs. -/
def IsTrunk (t : Topology) (l : Link) : Prop :=
  l.kind = .optical ∧ t.IsOn .roadm l.a ∧ t.IsOn .roadm l.b

/-- A cross-connect: an optical link between a ROADM and a packet switch, whichever of them is named
first. -/
structure Bridges (t : Topology) (l : Link) (roadm packet : Endpoint) : Prop where
  optical : l.kind = .optical
  joins : l.Joins roadm packet
  roadm : t.IsOn .roadm roadm
  packet : t.IsOn .switch packet

variable {t : Topology} {n : Node} {l : Link} {e own far : Endpoint} {kind kind' : NodeKind}

theorem isOn_of_node? (h : t.node? e.node = some n) : t.IsOn n.kind e := by
  obtain ⟨hn, hname⟩ := node?_mem h
  exact ⟨n, hn, hname, rfl⟩

namespace WellFormed

theorem isOn_iff (h : t.WellFormed) :
    t.IsOn kind e ↔ ∃ n, t.node? e.node = some n ∧ n.kind = kind := by
  constructor
  · rintro ⟨n, hn, hname, hkind⟩
    exact ⟨n, hname ▸ h.node?_eq hn, hkind⟩
  · rintro ⟨n, hn, rfl⟩
    exact isOn_of_node? hn

/-- A device is of one kind. -/
theorem kind_unique (h : t.WellFormed) (hon : t.IsOn kind e) (hon' : t.IsOn kind' e) :
    kind = kind' := by
  obtain ⟨n, hn, rfl⟩ := h.isOn_iff.1 hon
  obtain ⟨n', hn', rfl⟩ := h.isOn_iff.1 hon'
  obtain rfl := Option.some.inj (hn.symm.trans hn')
  rfl

/-- The ends of a link are on devices. -/
theorem exists_isOn (h : t.WellFormed) (hl : l ∈ t.links) (joins : l.Joins own far) :
    ∃ kind, t.IsOn kind own := by
  have hown : own ∈ t.endpoints := by
    refine List.mem_flatMap.2 ⟨l, hl, ?_⟩
    rcases joins with ⟨rfl, -⟩ | ⟨rfl, -⟩ <;> simp [Link.ends]
  obtain ⟨n, hn, hname⟩ := h.known own hown
  exact ⟨n.kind, n, hn, hname, rfl⟩

/-- What is classified are the devices at both ends. -/
theorem classify?_eq (h : t.WellFormed) (ha : t.IsOn kind l.a) (hb : t.IsOn kind' l.b) :
    t.classify? l = OpticalKind.between kind kind' := by
  obtain ⟨a, hna, rfl⟩ := h.isOn_iff.1 ha
  obtain ⟨b, hnb, rfl⟩ := h.isOn_iff.1 hb
  simp only [classify?, hna, hnb, Node.isRoadm]
  cases a.kind <;> cases b.kind <;> rfl

theorem exists_isOn_of_classify? {optical : OpticalKind} (h : t.classify? l = some optical) :
    (∃ kind, t.IsOn kind l.a) ∧ ∃ kind, t.IsOn kind l.b := by
  simp only [classify?] at h
  split at h
  · rename_i a b ha hb
    exact ⟨⟨a.kind, isOn_of_node? ha⟩, b.kind, isOn_of_node? hb⟩
  · cases h

theorem opticalKind?_eq_some {optical : OpticalKind} :
    t.opticalKind? l = some optical ↔ l.kind = .optical ∧ t.classify? l = some optical := by
  simp [opticalKind?, Link.isOptical]

theorem isTrunk_iff (h : t.WellFormed) : t.opticalKind? l = some .trunk ↔ t.IsTrunk l := by
  rw [opticalKind?_eq_some, IsTrunk]
  refine and_congr_right fun _ => ⟨fun hc => ?_, fun ⟨ha, hb⟩ => h.classify?_eq ha hb⟩
  obtain ⟨⟨kind, ha⟩, kind', hb⟩ := exists_isOn_of_classify? hc
  rw [h.classify?_eq ha hb] at hc
  cases kind <;> cases kind' <;> first | exact ⟨ha, hb⟩ | cases hc

theorem isCrossConnect_iff (h : t.WellFormed) :
    t.opticalKind? l = some .crossConnect ↔ ∃ roadm packet, t.Bridges l roadm packet := by
  rw [opticalKind?_eq_some]
  constructor
  · rintro ⟨ho, hc⟩
    obtain ⟨⟨kind, ha⟩, kind', hb⟩ := exists_isOn_of_classify? hc
    rw [h.classify?_eq ha hb] at hc
    cases kind with
    | roadm =>
      cases kind' with
      | roadm => cases hc
      | switch => exact ⟨l.a, l.b, ho, .inl ⟨rfl, rfl⟩, ha, hb⟩
    | switch =>
      cases kind' with
      | roadm => exact ⟨l.b, l.a, ho, .inr ⟨rfl, rfl⟩, hb, ha⟩
      | switch => cases hc
  · rintro ⟨roadm, packet, ho, ⟨rfl, rfl⟩ | ⟨rfl, rfl⟩, hr, hp⟩
    · exact ⟨ho, h.classify?_eq hr hp⟩
    · exact ⟨ho, h.classify?_eq hp hr⟩

/-- An optical link is a trunk or a cross-connect. -/
theorem trunk_or_bridges (h : t.WellFormed) (hl : l ∈ t.links) (ho : l.kind = .optical) :
    t.IsTrunk l ∨ ∃ roadm packet, t.Bridges l roadm packet := by
  obtain ⟨n, hn, hroadm, hends⟩ := h.optical l hl (by simp [Link.isOptical, ho])
  obtain ⟨roadm, other, joins, hnode⟩ := Link.exists_joins hends
  have hon : t.IsOn .roadm roadm := ⟨n, hn, hnode.symm, Node.isRoadm_iff.1 hroadm⟩
  obtain ⟨kind, hother⟩ := h.exists_isOn hl joins.symm
  cases kind with
  | switch => exact .inr ⟨roadm, other, ho, joins, hon, hother⟩
  | roadm =>
    refine .inl ⟨ho, ?_⟩
    rcases joins with ⟨rfl, rfl⟩ | ⟨rfl, rfl⟩
    · exact ⟨hon, hother⟩
    · exact ⟨hother, hon⟩

end WellFormed

end Topology

end OpticalTestbed
