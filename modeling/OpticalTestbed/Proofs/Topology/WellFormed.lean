import OpticalTestbed.Proofs.Dict
import OpticalTestbed.Topology.Graph
import Mathlib.Data.List.Nodup
/-!
What holds of a topology whatever is added to it: names, datapath ids and ports are unique, nodes
stand where their names say, and links and domains refer to nodes that there are.
-/
namespace OpticalTestbed

/-- Both sides of a link. -/
def Link.ends (l : Link) : List Endpoint := [l.a, l.b]

/-- The port of a node on which a link ends. -/
def Endpoint.place (e : Endpoint) : String × Nat := (e.node, e.port)

namespace Topology

/-- The endpoints of all links. -/
def endpoints (t : Topology) : List Endpoint := t.links.flatMap Link.ends

structure WellFormed (t : Topology) : Prop where
  names : (t.nodes.map (·.name)).Nodup
  dpids : (t.nodes.map (·.dpid)).Nodup
  positions : ∀ name i, t.index? name = some i ↔ ∃ n, t.nodes[i]? = some n ∧ n.name = name
  known : ∀ e ∈ t.endpoints, ∃ n ∈ t.nodes, n.name = e.node
  distinct : ∀ l ∈ t.links, l.a.node ≠ l.b.node
  ports : (t.endpoints.map Endpoint.place).Nodup
  optical : ∀ l ∈ t.links, l.isOptical = true →
    ∃ n ∈ t.nodes, n.isRoadm = true ∧ (l.a.node = n.name ∨ l.b.node = n.name)
  members : ∀ name members, t.domains.get? name = some members →
    ∀ m ∈ members.toList, ∃ n ∈ t.nodes, n.name = m

variable {t t' : Topology} {n : Node} {l : Link}

section Additions

theorem addNode_ok (h : t.addNode n = .ok t') :
    t.hasNode n.name = false ∧ (∀ m ∈ t.nodes, m.dpid ≠ n.dpid) ∧
      t' = { t with
        nodes := t.nodes ++ [n]
        positions := t.positions.insert n.name t.nodes.length } := by
  simp only [addNode] at h
  split at h
  · cases h
  · rename_i hname
    split at h
    · cases h
    · rename_i hdpid
      refine ⟨by simpa using hname, by simpa using hdpid, (Except.ok.inj h).symm⟩

theorem addLink_ok {id : LinkId} (h : t.addLink l = .ok (id, t')) :
    t.linkFault? l = none ∧ id = t.links.length ∧ t' = { t with links := t.links ++ [l] } := by
  simp only [addLink] at h
  split at h
  · cases h
  · rename_i hf
    cases h
    exact ⟨hf, rfl, rfl⟩

theorem addDomain_ok {name : String} {members : List String}
    (h : t.addDomain name members = .ok t') :
    (∀ m ∈ members, t.hasNode m = true) ∧
      t' = { t with domains := t.domains.insert name (KeySet.ofList members) } := by
  simp only [addDomain] at h
  split at h
  · cases h
  · rename_i hm
    refine ⟨?_, (Except.ok.inj h).symm⟩
    simpa using hm

theorem endpointFault?_eq_none {e : Endpoint} (h : t.endpointFault? e = none) :
    t.hasNode e.node = true ∧ t.portTaken e = false := by
  simp only [endpointFault?] at h
  split at h
  · cases h
  · split at h
    · cases h
    · simp_all

theorem linkFault?_eq_none (h : t.linkFault? l = none) :
    (∀ e ∈ l.ends, t.hasNode e.node = true ∧ t.portTaken e = false) ∧ l.a.node ≠ l.b.node ∧
      (l.isOptical = true → ∃ kind, t.classify? l = some kind) := by
  simp only [linkFault?] at h
  split at h
  · cases h
  · rename_i ha
    split at h
    · cases h
    · rename_i hb
      split at h
      · cases h
      · rename_i hself
        split at h
        · cases h
        · rename_i hoptical
          refine ⟨?_, hself, fun ho => ?_⟩
          · simp only [Link.ends, List.forall_mem_cons]
            exact ⟨endpointFault?_eq_none ha, endpointFault?_eq_none hb, by simp⟩
          · rw [ho, Bool.true_and, Option.isNone_iff_eq_none] at hoptical
            exact Option.ne_none_iff_exists'.1 hoptical

end Additions

theorem node?_mem {name : String} (h : t.node? name = some n) : n ∈ t.nodes ∧ n.name = name := by
  have hn : n.name = name := by simpa using List.find?_some h
  exact ⟨List.mem_of_find?_eq_some h, hn⟩

/-- A link that can be classified ends on a ROADM. -/
theorem classify?_roadm {kind : OpticalKind} (h : t.classify? l = some kind) :
    ∃ n ∈ t.nodes, n.isRoadm = true ∧ (l.a.node = n.name ∨ l.b.node = n.name) := by
  simp only [classify?] at h
  split at h
  · rename_i a b ha hb
    obtain ⟨ha, hna⟩ := node?_mem ha
    obtain ⟨hb, hnb⟩ := node?_mem hb
    cases hra : a.isRoadm
    · cases hrb : b.isRoadm
      · simp [hra, hrb] at h
      · exact ⟨b, hb, hrb, .inr hnb.symm⟩
    · exact ⟨a, ha, hra, .inl hna.symm⟩
  · cases h

/-- Only one side of a link is looked at for a port that is taken. That is enough as long as no
link joins a node with itself. -/
theorem portTaken_iff (h : ∀ l ∈ t.links, l.a.node ≠ l.b.node) {e : Endpoint} :
    t.portTaken e = true ↔ e.place ∈ t.endpoints.map Endpoint.place := by
  simp only [portTaken, List.any_eq_true, decide_eq_true_eq, endpoints, List.map_flatMap,
    List.mem_flatMap]
  refine exists_congr fun l => and_congr_right fun hl => ?_
  have hne := h l hl
  simp only [Link.endpointOn?, Link.ends, Endpoint.place, List.map_cons, List.map_nil,
    List.mem_cons, Prod.mk.injEq, List.not_mem_nil, or_false]
  split
  · rename_i ha
    have hb : e.node ≠ l.b.node := ha ▸ hne
    simp [ha, hb, @eq_comm Nat]
  · split
    · rename_i ha hb
      simp [Ne.symm ha, hb, @eq_comm Nat]
    · rename_i ha hb
      simp [Ne.symm ha, Ne.symm hb]

namespace WellFormed

theorem hasNode_iff (h : t.WellFormed) {name : String} :
    t.hasNode name = true ↔ ∃ n ∈ t.nodes, n.name = name := by
  rw [hasNode, Dict.contains, Option.isSome_iff_exists]
  constructor
  · rintro ⟨i, hi⟩
    obtain ⟨n, hn, hname⟩ := (h.positions name i).1 hi
    exact ⟨n, List.mem_of_getElem? hn, hname⟩
  · rintro ⟨n, hn, hname⟩
    obtain ⟨i, hi⟩ := List.mem_iff_getElem?.1 hn
    exact ⟨i, (h.positions name i).2 ⟨n, hi, hname⟩⟩

theorem empty : (Topology.empty).WellFormed where
  names := List.nodup_nil
  dpids := List.nodup_nil
  positions := by simp [Topology.empty, index?]
  known := by simp [Topology.empty, endpoints]
  distinct := by simp [Topology.empty]
  ports := List.nodup_nil
  optical := by simp [Topology.empty]
  members := by simp [Topology.empty]

theorem addNode (h : t.WellFormed) (ok : t.addNode n = .ok t') : t'.WellFormed := by
  obtain ⟨hname, hdpid, rfl⟩ := addNode_ok ok
  have fresh : ∀ m ∈ t.nodes, m.name ≠ n.name := by
    intro m hm he
    rw [h.hasNode_iff.2 ⟨m, hm, he⟩] at hname
    cases hname
  have kept : ∀ {P : Node → Prop}, (∃ m ∈ t.nodes, P m) → ∃ m ∈ t.nodes ++ [n], P m := by
    rintro P ⟨m, hm, hp⟩
    exact ⟨m, List.mem_append_left _ hm, hp⟩
  constructor
  case names =>
    rw [List.map_append, List.nodup_append']
    refine ⟨h.names, List.nodup_singleton _, ?_⟩
    simpa [List.Disjoint] using fresh
  case dpids =>
    rw [List.map_append, List.nodup_append']
    refine ⟨h.dpids, List.nodup_singleton _, ?_⟩
    simpa [List.Disjoint] using hdpid
  case positions =>
    intro name i
    simp only [index?, Dict.get?_insert]
    -- the new node stands behind all others, and no other has its name
    have hat : ∀ m, (t.nodes ++ [n])[i]? = some m ↔
        t.nodes[i]? = some m ∨ i = t.nodes.length ∧ n = m := by
      intro m
      rcases Nat.lt_trichotomy i t.nodes.length with hi | rfl | hi
      · rw [List.getElem?_append_left hi]
        simp [Nat.ne_of_lt hi]
      · simp
      · have hbehind : (t.nodes ++ [n]).length ≤ i := by
          rw [List.length_append]
          exact hi
        rw [List.getElem?_eq_none hbehind, List.getElem?_eq_none (Nat.le_of_lt hi)]
        simp [Nat.ne_of_gt hi]
    simp only [hat]
    split
    · rename_i he
      subst he
      constructor
      · intro hi
        exact ⟨n, .inr ⟨(Option.some.inj hi).symm, rfl⟩, rfl⟩
      · rintro ⟨m, hm | ⟨rfl, -⟩, he⟩
        · exact absurd he (fresh m (List.mem_of_getElem? hm))
        · rfl
    · rename_i hne
      rw [← index?, h.positions]
      constructor
      · rintro ⟨m, hm, he⟩
        exact ⟨m, .inl hm, he⟩
      · rintro ⟨m, hm | ⟨-, rfl⟩, he⟩
        · exact ⟨m, hm, he⟩
        · exact absurd he.symm hne
  case known => exact fun e he => kept (h.known e he)
  case distinct => exact h.distinct
  case ports => exact h.ports
  case optical => exact fun l hl ho => kept (h.optical l hl ho)
  case members => exact fun name members hd m hm => kept (h.members name members hd m hm)

theorem addLink {id : LinkId} (h : t.WellFormed) (ok : t.addLink l = .ok (id, t')) :
    t'.WellFormed := by
  obtain ⟨hf, -, rfl⟩ := addLink_ok ok
  obtain ⟨hends, hself, hoptical⟩ := linkFault?_eq_none hf
  have hall : endpoints { t with links := t.links ++ [l] } = t.endpoints ++ l.ends := by
    simp [endpoints]
  constructor
  case names => exact h.names
  case dpids => exact h.dpids
  case positions => exact h.positions
  case known =>
    rw [hall, List.forall_mem_append]
    exact ⟨h.known, fun e he => h.hasNode_iff.1 (hends e he).1⟩
  case distinct =>
    rw [List.forall_mem_append, List.forall_mem_singleton]
    exact ⟨h.distinct, hself⟩
  case ports =>
    rw [hall, List.map_append, List.nodup_append']
    refine ⟨h.ports, ?_, ?_⟩
    · simp [Link.ends, Endpoint.place, hself]
    · intro place hold hnew
      obtain ⟨e, he, rfl⟩ := List.mem_map.1 hnew
      have htaken := (portTaken_iff h.distinct).2 hold
      rw [(hends e he).2] at htaken
      cases htaken
  case optical =>
    rw [List.forall_mem_append, List.forall_mem_singleton]
    refine ⟨h.optical, fun ho => ?_⟩
    obtain ⟨kind, hkind⟩ := hoptical ho
    exact classify?_roadm hkind
  case members => exact h.members

theorem addDomain {name : String} {members : List String} (h : t.WellFormed)
    (ok : t.addDomain name members = .ok t') : t'.WellFormed := by
  obtain ⟨hm, rfl⟩ := addDomain_ok ok
  refine { h with members := ?_ }
  intro name' members' hd m hmem
  rw [Dict.get?_insert] at hd
  split at hd
  · cases hd
    exact h.hasNode_iff.1 (hm m ((KeySet.mem_toList_ofList members m).1 hmem))
  · exact h.members name' members' hd m hmem

/-- A node is found under its name. -/
theorem node?_eq (h : t.WellFormed) (hn : n ∈ t.nodes) : t.node? n.name = some n := by
  cases hf : t.node? n.name with
  | none => simpa using List.find?_eq_none.1 hf n hn
  | some m =>
    obtain ⟨hm, hname⟩ := node?_mem hf
    rw [List.inj_on_of_nodup_map h.names hm hn hname]

/-- The node with a name is the one at the position of the name. -/
theorem node?_eq_index (h : t.WellFormed) (name : String) :
    t.node? name = (t.index? name).bind (t.nodes[·]?) := by
  cases hi : t.index? name with
  | none =>
    rw [Option.bind_none, node?, List.find?_eq_none]
    intro m hm he
    obtain ⟨i, hat⟩ := List.mem_iff_getElem?.1 hm
    have hsome := (h.positions name i).2 ⟨m, hat, of_decide_eq_true he⟩
    rw [hi] at hsome
    cases hsome
  | some i =>
    obtain ⟨m, hat, rfl⟩ := (h.positions name i).1 hi
    rw [Option.bind_some, hat]
    exact h.node?_eq (List.mem_of_getElem? hat)

end WellFormed

end Topology

end OpticalTestbed
