import OpticalTestbed.Proofs.Topology.WellFormed
/-!
Topologies as successful additions make them: names are unique, and every cross-connect belongs to
exactly one ROADM.
-/
namespace OpticalTestbed

/-- The topologies that successful additions lead to. -/
inductive Topology.Built : Topology → Prop
  | empty : Built .empty
  | addNode {t t' : Topology} {n : Node} : Built t → t.addNode n = .ok t' → Built t'
  | addLink {t t' : Topology} {l : Link} {id : LinkId} :
    Built t → t.addLink l = .ok (id, t') → Built t'
  | addDomain {t t' : Topology} {name : String} {members : List String} :
    Built t → t.addDomain name members = .ok t' → Built t'

namespace Topology

variable {t : Topology}

theorem Built.wellFormed (h : Built t) : t.WellFormed := by
  induction h with
  | empty => exact .empty
  | addNode _ ok ih => exact ih.addNode ok
  | addLink _ ok ih => exact ih.addLink ok
  | addDomain _ ok ih => exact ih.addDomain ok

/-- Names are unique. -/
theorem Built.names_nodup (h : Built t) : (t.nodes.map (·.name)).Nodup := h.wellFormed.names

/-- A node is found under its name. -/
theorem Built.node?_eq (h : Built t) {n : Node} (hn : n ∈ t.nodes) : t.node? n.name = some n :=
  h.wellFormed.node?_eq hn

theorem mem_numberedLinks {id : LinkId} {l : Link} :
    (id, l) ∈ t.numberedLinks ↔ t.link? id = some l := by
  simp only [numberedLinks, link?, List.mem_map, Prod.mk.injEq]
  constructor
  · rintro ⟨e, he, rfl, rfl⟩
    simpa using List.mem_zipIdx_iff_getElem?.1 he
  · intro h
    exact ⟨(l, id), List.mem_zipIdx_iff_getElem?.2 (by simpa using h), rfl, rfl⟩

theorem mem_crossConnects {id : LinkId} :
    id ∈ t.crossConnects ↔
      ∃ l, t.link? id = some l ∧ t.opticalKind? l = some .crossConnect := by
  simp only [crossConnects, List.mem_map, List.mem_filter, decide_eq_true_eq]
  constructor
  · rintro ⟨⟨i, l⟩, ⟨hm, hk⟩, rfl⟩
    exact ⟨l, mem_numberedLinks.1 hm, hk⟩
  · rintro ⟨l, hl, hk⟩
    exact ⟨(id, l), ⟨mem_numberedLinks.2 hl, hk⟩, rfl⟩

theorem Link.isSome_endpointOn? {l : Link} {name : String} :
    (l.endpointOn? name).isSome = true ↔ l.a.node = name ∨ l.b.node = name := by
  simp only [Link.endpointOn?]
  split
  · rename_i ha; simp [ha]
  · rename_i ha
    split <;> simp_all

theorem mem_crossConnectsOf {id : LinkId} {name : String} :
    id ∈ t.crossConnectsOf name ↔ ∃ l, t.link? id = some l ∧
      t.opticalKind? l = some .crossConnect ∧ (l.a.node = name ∨ l.b.node = name) := by
  simp only [crossConnectsOf, List.mem_filter, mem_crossConnects]
  constructor
  · rintro ⟨⟨l, hl, hk⟩, hon⟩
    exact ⟨l, hl, hk, Link.isSome_endpointOn?.1 (by simpa [hl] using hon)⟩
  · rintro ⟨l, hl, hk, hon⟩
    exact ⟨⟨l, hl, hk⟩, by simpa [hl] using Link.isSome_endpointOn?.2 hon⟩

theorem crossConnects_of_mem {id : LinkId} {name : String} (h : id ∈ t.crossConnectsOf name) :
    id ∈ t.crossConnects := (List.mem_filter.1 h).1

/-- One end of a cross-connect is on a ROADM and the other one is not. -/
theorem crossConnect_ends {l : Link} (h : t.opticalKind? l = some .crossConnect) :
    ∃ a b, t.node? l.a.node = some a ∧ t.node? l.b.node = some b ∧ a.isRoadm = !b.isRoadm := by
  simp only [opticalKind?] at h
  split at h
  · simp only [classify?] at h
    split at h
    · rename_i a b ha hb
      refine ⟨a, b, ha, hb, ?_⟩
      cases hra : a.isRoadm <;> cases hrb : b.isRoadm <;> simp_all
    · cases h
  · cases h

/-- Every cross-connect is on some ROADM. -/
theorem exists_roadm {id : LinkId} (h : id ∈ t.crossConnects) :
    ∃ roadm ∈ t.nodes, roadm.isRoadm = true ∧ id ∈ t.crossConnectsOf roadm.name := by
  obtain ⟨l, hl, hk⟩ := mem_crossConnects.1 h
  obtain ⟨a, b, ha, hb, hab⟩ := crossConnect_ends hk
  obtain ⟨hamem, haname⟩ := node?_mem ha
  obtain ⟨hbmem, hbname⟩ := node?_mem hb
  cases hroadm : a.isRoadm with
  | true => exact ⟨a, hamem, hroadm, mem_crossConnectsOf.2 ⟨l, hl, hk, .inl haname.symm⟩⟩
  | false =>
    have hb : b.isRoadm = true := by simpa [hroadm] using hab.symm
    exact ⟨b, hbmem, hb, mem_crossConnectsOf.2 ⟨l, hl, hk, .inr hbname.symm⟩⟩

/-- The ends of a cross-connect are known. -/
theorem exists_crossConnectEnds {id : LinkId} (h : id ∈ t.crossConnects) :
    ∃ ends, t.crossConnectEnds? id = some ends := by
  obtain ⟨l, hl, hk⟩ := mem_crossConnects.1 h
  obtain ⟨a, b, ha, -, -⟩ := crossConnect_ends hk
  simp only [crossConnectEnds?, hl, hk, if_true, ha]
  split <;> exact ⟨_, rfl⟩

/-- The ends of a link as a node on it sees them: its own one, and the other one on a packet
switch. -/
structure EndsOn (t : Topology) (name : String) (id : LinkId) (own far : Endpoint) : Prop where
  link : ∃ l, t.link? id = some l ∧ l.endpointOn? name = some own ∧ l.farEnd? name = some far
  packet : ∃ n, t.node? far.node = some n ∧ n.isRoadm = false

/-- The ends of a cross-connect are its ends as the ROADM sees them. -/
theorem exists_endsOn {id : LinkId} {name : String} {n : Node} (h : id ∈ t.crossConnectsOf name)
    (hn : t.node? name = some n) (hroadm : n.isRoadm = true) : ∃ own far,
      t.crossConnectEnds? id = some (own, far) ∧ t.EndsOn name id own far := by
  obtain ⟨l, hl, hk, hon⟩ := mem_crossConnectsOf.1 h
  obtain ⟨a, b, ha, hb, hab⟩ := crossConnect_ends hk
  rcases hon with rfl | rfl
  · obtain rfl : n = a := Option.some.inj (hn.symm.trans ha)
    refine ⟨l.a, l.b, ?_, ⟨l, hl, ?_, ?_⟩, b, hb, ?_⟩
    · simp [crossConnectEnds?, hl, hk, ha, hroadm]
    · simp [Link.endpointOn?]
    · simp [Link.farEnd?]
    · simpa [hroadm] using hab
  · obtain rfl : n = b := Option.some.inj (hn.symm.trans hb)
    have harm : a.isRoadm = false := by simpa [hroadm] using hab
    have hne : l.a.node ≠ l.b.node := by
      intro he
      obtain rfl : a = n := Option.some.inj (ha.symm.trans (he ▸ hb))
      rw [hroadm] at harm
      cases harm
    refine ⟨l.b, l.a, ?_, ⟨l, hl, ?_, ?_⟩, a, ha, harm⟩
    · simp [crossConnectEnds?, hl, hk, ha, harm]
    · simp [Link.endpointOn?, hne]
    · simp [Link.farEnd?, hne]

/-- A cross-connect touches one ROADM only. -/
theorem crossConnect_roadm_unique {id : LinkId} {r s : Node}
    (hr : id ∈ t.crossConnectsOf r.name) (hs : id ∈ t.crossConnectsOf s.name)
    (fr : t.node? r.name = some r) (fs : t.node? s.name = some s)
    (kr : r.isRoadm = true) (ks : s.isRoadm = true) : r = s := by
  obtain ⟨l, hl, hk, hr⟩ := mem_crossConnectsOf.1 hr
  obtain ⟨l', hl', -, hs⟩ := mem_crossConnectsOf.1 hs
  obtain rfl : l = l' := Option.some.inj (hl.symm.trans hl')
  obtain ⟨a, b, ha, hb, hab⟩ := crossConnect_ends hk
  rcases hr with hr | hr <;> rcases hs with hs | hs <;> simp_all

end Topology

end OpticalTestbed
