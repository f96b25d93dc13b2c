import OpticalTestbed.Proofs.Topology.WellFormed
/-!
The endpoints on a node, and its ports: one port for each endpoint, under the endpoint's number.
-/
namespace OpticalTestbed

theorem Link.endpointOn?_toList {l : Link} (h : l.a.node ≠ l.b.node) (name : String) :
    (l.endpointOn? name).toList = l.ends.filter (·.node = name) := by
  by_cases ha : l.a.node = name
  · have hb : l.b.node ≠ name := fun hb => h (ha.trans hb.symm)
    simp [endpointOn?, ends, ha, hb]
  · by_cases hb : l.b.node = name
    · simp [endpointOn?, ends, ha, hb]
    · simp [endpointOn?, ends, ha, hb]

theorem Link.endpointOn?_mem {l : Link} {name : String} {e : Endpoint} (h : l.endpointOn? name = some e) :
    e ∈ l.ends := by
  simp only [endpointOn?] at h
  split at h
  · cases h
    exact List.mem_cons_self
  · split at h
    · cases h
      exact List.mem_cons_of_mem _ List.mem_cons_self
    · cases h

theorem Link.farEnd?_mem {l : Link} {name : String} {e : Endpoint} (h : l.farEnd? name = some e) :
    e ∈ l.ends := by
  simp only [farEnd?] at h
  split at h
  · cases h
    exact List.mem_cons_of_mem _ List.mem_cons_self
  · split at h
    · cases h
      exact List.mem_cons_self
    · cases h

namespace Topology

/-- The endpoints of links on a node. -/
def endpointsOn (t : Topology) (name : String) : List Endpoint :=
  t.endpoints.filter (·.node = name)

variable {t : Topology} {n : Node} {l : Link}

theorem portOn?_port (t : Topology) (n : Node) (l : Link) :
    (t.portOn? n l).map (·.port) = (l.endpointOn? n.name).map (·.port) := by
  have hport : ∀ own far, (t.portOf n own far l).port = own.port := by
    intro own far
    simp only [portOf]
    split <;> rfl
  simp only [portOn?, Link.endpointOn?, Link.farEnd?]
  split_ifs <;> simp [hport]

/-- A port has the number of an end of its link, and the speed of one, if any. -/
theorem portOn?_ends {p : Port} (h : t.portOn? n l = some p) :
    (∃ e ∈ l.ends, p.port = e.port) ∧ ((∃ e ∈ l.ends, p.speed = e.speed) ∨ p.speed = 0) := by
  simp only [portOn?] at h
  split at h
  · rename_i own far hown hfar
    cases h
    have hown := Link.endpointOn?_mem hown
    have hfar := Link.farEnd?_mem hfar
    simp only [portOf]
    split
    · refine ⟨⟨own, hown, rfl⟩, .inl ?_⟩
      dsimp only
      split
      · exact ⟨own, hown, rfl⟩
      · exact ⟨far, hfar, rfl⟩
    · exact ⟨⟨own, hown, rfl⟩, .inr rfl⟩
  · cases h

namespace WellFormed

/-- A link has at most one endpoint on a node, since its ends are on different ones. -/
theorem endpointsOn_eq (h : t.WellFormed) (name : String) :
    t.endpointsOn name = t.links.filterMap (·.endpointOn? name) := by
  rw [endpointsOn, endpoints, List.filter_flatMap, List.filterMap_eq_flatMap_toList]
  exact List.flatMap_congr fun l hl => (Link.endpointOn?_toList (h.distinct l hl) name).symm

theorem portNumbers_nodup (h : t.WellFormed) (name : String) :
    ((t.endpointsOn name).map (·.port)).Nodup := by
  have hplaces : ((t.endpointsOn name).map Endpoint.place).Nodup :=
    h.ports.sublist (List.filter_sublist.map _)
  have hname : (t.endpointsOn name).map Endpoint.place =
      ((t.endpointsOn name).map (·.port)).map (name, ·) := by
    rw [List.map_map]
    refine List.map_congr_left fun e he => ?_
    have hnode : e.node = name := of_decide_eq_true (List.mem_filter.1 he).2
    exact Prod.ext hnode rfl
  rw [hname] at hplaces
  exact hplaces.of_map

/-- The ports that the links make carry the numbers of the endpoints. -/
theorem map_portOn? (h : t.WellFormed) (n : Node) :
    (t.links.filterMap (t.portOn? n)).map (·.port) = (t.endpointsOn n.name).map (·.port) := by
  rw [h.endpointsOn_eq, List.map_filterMap, List.map_filterMap]
  simp only [portOn?_port]

theorem portKeys_nodup (h : t.WellFormed) (n : Node) :
    (((t.links.filterMap (t.portOn? n)).map fun p => (p.port, p)).map (·.1)).Nodup := by
  rw [List.map_map]
  exact (h.map_portOn? n).symm ▸ h.portNumbers_nodup n.name

/-- No port takes the place of another one. -/
theorem ports_perm (h : t.WellFormed) (hn : n ∈ t.nodes) :
    (t.ports n.name).Perm (t.links.filterMap (t.portOn? n)) := by
  simp only [Topology.ports, h.node?_eq hn, Dict.values]
  have hentries := (Dict.entries_ofList_perm (h.portKeys_nodup n)).map (·.2)
  rwa [List.map_map, show (·.2) ∘ (fun p : Port => (p.port, p)) = id from rfl, List.map_id]
    at hentries

theorem ports_numbers (h : t.WellFormed) (hn : n ∈ t.nodes) :
    ((t.ports n.name).map (·.port)).Perm ((t.endpointsOn n.name).map (·.port)) :=
  h.map_portOn? n ▸ (h.ports_perm hn).map (·.port)

end WellFormed

end Topology

end OpticalTestbed
