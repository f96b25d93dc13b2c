import OpticalTestbed.Proofs.Topology.Description
/-!
Which descriptions a topology is built from, said without an order. Additions are refused one by one
against what was added before, but what decides in the end is whether names, datapath ids and ports
are unique and whether links and domains refer to nodes that there are.
-/
namespace OpticalTestbed

namespace Topology

variable {t : Topology} {n : Node} {l : Link}

theorem exists_addNode (h : t.WellFormed) (hname : ∀ m ∈ t.nodes, m.name ≠ n.name)
    (hdpid : ∀ m ∈ t.nodes, m.dpid ≠ n.dpid) : ∃ t', t.addNode n = .ok t' := by
  have hnode : t.hasNode n.name = false := by
    refine Bool.eq_false_iff.2 fun hnode => ?_
    obtain ⟨m, hm, he⟩ := h.hasNode_iff.1 hnode
    exact hname m hm he
  have hfind : t.nodes.find? (·.dpid = n.dpid) = none := by simpa using hdpid
  rw [addNode, hnode, hfind]
  exact ⟨_, rfl⟩

/-- A link that ends on a ROADM can be classified, if both its ends are known. -/
theorem WellFormed.exists_classify (h : t.WellFormed)
    (known : ∀ e ∈ l.ends, ∃ n ∈ t.nodes, n.name = e.node)
    (hroadm : ∃ n ∈ t.nodes, n.isRoadm = true ∧ (l.a.node = n.name ∨ l.b.node = n.name)) :
    ∃ kind, t.classify? l = some kind := by
  obtain ⟨a, ha, hna⟩ := known l.a (by simp [Link.ends])
  obtain ⟨b, hb, hnb⟩ := known l.b (by simp [Link.ends])
  have hfa : t.node? l.a.node = some a := hna ▸ h.node?_eq ha
  have hfb : t.node? l.b.node = some b := hnb ▸ h.node?_eq hb
  obtain ⟨n, hn, hr, hon⟩ := hroadm
  have hends : a.isRoadm = true ∨ b.isRoadm = true := by
    rcases hon with he | he
    · rw [he, h.node?_eq hn] at hfa
      exact .inl (Option.some.inj hfa ▸ hr)
    · rw [he, h.node?_eq hn] at hfb
      exact .inr (Option.some.inj hfb ▸ hr)
  simp only [classify?, hfa, hfb]
  rcases hends with hra | hrb
  · rw [hra]
    cases b.isRoadm <;> exact ⟨_, rfl⟩
  · rw [hrb]
    cases a.isRoadm <;> exact ⟨_, rfl⟩

theorem exists_addLink (h : t.WellFormed)
    (known : ∀ e ∈ l.ends, ∃ n ∈ t.nodes, n.name = e.node) (distinct : l.a.node ≠ l.b.node)
    (free : ∀ e ∈ l.ends, e.place ∉ t.endpoints.map Endpoint.place)
    (optical : l.isOptical = true →
      ∃ n ∈ t.nodes, n.isRoadm = true ∧ (l.a.node = n.name ∨ l.b.node = n.name)) :
    ∃ id t', t.addLink l = .ok (id, t') := by
  have hend : ∀ e ∈ l.ends, t.endpointFault? e = none := by
    intro e he
    have htaken : t.portTaken e = false :=
      Bool.eq_false_iff.2 fun ht => free e he ((portTaken_iff h.distinct).1 ht)
    rw [endpointFault?, h.hasNode_iff.2 (known e he), htaken]
    rfl
  have hkind : (l.isOptical && (t.classify? l).isNone) = false := by
    cases ho : l.isOptical with
    | false => rfl
    | true =>
      obtain ⟨kind, hkind⟩ := h.exists_classify known (optical ho)
      rw [hkind]
      rfl
  have hfault : t.linkFault? l = none := by
    rw [linkFault?, hend l.a (by simp [Link.ends]), hend l.b (by simp [Link.ends])]
    simp [distinct, hkind]
  rw [addLink, hfault]
  exact ⟨_, _, rfl⟩

theorem exists_addDomain (h : t.WellFormed) (name : String) {members : List String}
    (known : ∀ m ∈ members, ∃ n ∈ t.nodes, n.name = m) : ∃ t', t.addDomain name members = .ok t' := by
  have hfind : (KeySet.ofList members).toList.find? (fun m => !t.hasNode m) = none := by
    simpa using fun m hm => h.hasNode_iff.2 (known m hm)
  rw [addDomain, hfind]
  exact ⟨_, rfl⟩

theorem WellFormed.exists_addNode_iff (h : t.WellFormed) : (∃ s, t.addNode n = .ok s) ↔
    (∀ m ∈ t.nodes, m.name ≠ n.name) ∧ ∀ m ∈ t.nodes, m.dpid ≠ n.dpid := by
  constructor
  · rintro ⟨s, ok⟩
    obtain ⟨hname, hdpid, -⟩ := addNode_ok ok
    refine ⟨fun m hm he => ?_, hdpid⟩
    rw [h.hasNode_iff.2 ⟨m, hm, he⟩] at hname
    cases hname
  · rintro ⟨hname, hdpid⟩
    exact exists_addNode h hname hdpid

theorem WellFormed.exists_addLink_iff (h : t.WellFormed) : (∃ r, t.addLink l = .ok r) ↔
    (∀ e ∈ l.ends, ∃ n ∈ t.nodes, n.name = e.node) ∧ l.a.node ≠ l.b.node ∧
      (∀ e ∈ l.ends, e.place ∉ t.endpoints.map Endpoint.place) ∧
      (l.isOptical = true →
        ∃ n ∈ t.nodes, n.isRoadm = true ∧ (l.a.node = n.name ∨ l.b.node = n.name)) := by
  constructor
  · rintro ⟨⟨id, s⟩, ok⟩
    obtain ⟨hf, -, -⟩ := addLink_ok ok
    obtain ⟨hends, hself, hoptical⟩ := linkFault?_eq_none hf
    refine ⟨fun e he => h.hasNode_iff.1 (hends e he).1, hself, fun e he htaken => ?_, fun ho => ?_⟩
    · rw [← portTaken_iff h.distinct, (hends e he).2] at htaken
      cases htaken
    · obtain ⟨kind, hkind⟩ := hoptical ho
      exact classify?_roadm hkind
  · rintro ⟨known, distinct, free, optical⟩
    obtain ⟨id, s, ok⟩ := exists_addLink h known distinct free optical
    exact ⟨_, ok⟩

theorem WellFormed.exists_addDomain_iff (h : t.WellFormed) {name : String}
    {members : List String} : (∃ s, t.addDomain name members = .ok s) ↔
      ∀ m ∈ members, ∃ n ∈ t.nodes, n.name = m := by
  constructor
  · rintro ⟨s, ok⟩ m hm
    exact h.hasNode_iff.1 ((addDomain_ok ok).1 m hm)
  · exact exists_addDomain h name

end Topology

namespace TopologyDescription

open SwitchDescription (nodesOf)

variable {d : TopologyDescription} {t : Topology}

/-- The endpoints of all described links. -/
def endpoints (links : List LinkDescription) : List Endpoint :=
  (links.map (·.link)).flatMap Link.ends

/-- What a description has to satisfy for a topology to be built from it. -/
structure Acceptable (d : TopologyDescription) : Prop where
  switches : ∀ s ∈ d.switches, ∃ n, s.node? = .ok n
  names : ((nodesOf d.switches).map (·.name)).Nodup
  dpids : ((nodesOf d.switches).map (·.dpid)).Nodup
  known : ∀ e ∈ endpoints d.links, ∃ n ∈ nodesOf d.switches, n.name = e.node
  distinct : ∀ l ∈ d.links, l.link.a.node ≠ l.link.b.node
  ports : ((endpoints d.links).map Endpoint.place).Nodup
  optical : ∀ l ∈ d.links, l.link.isOptical = true → ∃ n ∈ nodesOf d.switches,
    n.isRoadm = true ∧ (l.link.a.node = n.name ∨ l.link.b.node = n.name)
  members : ∀ e ∈ d.domains.entries, ∀ m ∈ e.2, ∃ n ∈ nodesOf d.switches, n.name = m

/-- In a list without repetition of a value, what comes later has another value. -/
theorem ne_of_nodup_map {α β : Type} {f : α → β} {as more : List α} {a : α}
    (h : ((as ++ a :: more).map f).Nodup) : ∀ b ∈ as, f b ≠ f a := by
  rw [List.map_append, List.nodup_append'] at h
  intro b hb he
  exact List.disjoint_left.1 h.2.2 (List.mem_map_of_mem hb) (he ▸ List.mem_cons_self)

theorem exists_addSwitches {switches : List SwitchDescription} (built : t.Built)
    (hnodes : ∀ s ∈ switches, ∃ n, s.node? = .ok n)
    (names : ((t.nodes ++ nodesOf switches).map (·.name)).Nodup)
    (dpids : ((t.nodes ++ nodesOf switches).map (·.dpid)).Nodup) :
    ∃ t', addSwitches t switches = .ok t' := by
  induction switches generalizing t with
  | nil => exact ⟨t, rfl⟩
  | cons s more ih =>
    obtain ⟨⟨n, hn⟩, hmore⟩ := List.forall_mem_cons.1 hnodes
    rw [SwitchDescription.nodesOf_cons hn] at names dpids
    obtain ⟨t', ok⟩ := Topology.exists_addNode built.wellFormed (ne_of_nodup_map names)
      (ne_of_nodup_map dpids)
    obtain ⟨-, -, ht⟩ := Topology.addNode_ok ok
    rw [List.append_cons] at names dpids
    obtain ⟨t'', hrest⟩ := ih (built.addNode ok) hmore (by rwa [ht]) (by rwa [ht])
    refine ⟨t'', ?_⟩
    simp only [addSwitches, hn, ok]
    exact hrest

theorem exists_addLinks {links : List LinkDescription} (built : t.Built)
    (known : ∀ e ∈ endpoints links, ∃ n ∈ t.nodes, n.name = e.node)
    (distinct : ∀ l ∈ links, l.link.a.node ≠ l.link.b.node)
    (ports : ((t.endpoints ++ endpoints links).map Endpoint.place).Nodup)
    (optical : ∀ l ∈ links, l.link.isOptical = true → ∃ n ∈ t.nodes,
      n.isRoadm = true ∧ (l.link.a.node = n.name ∨ l.link.b.node = n.name)) :
    ∃ t', addLinks t links = .ok t' := by
  induction links generalizing t with
  | nil => exact ⟨t, rfl⟩
  | cons l more ih =>
    have hsplit : endpoints (l :: more) = l.link.ends ++ endpoints more := rfl
    rw [hsplit] at known ports
    obtain ⟨hknown, hknown'⟩ := List.forall_mem_append.1 known
    obtain ⟨hdistinct, hdistinct'⟩ := List.forall_mem_cons.1 distinct
    obtain ⟨hoptical, hoptical'⟩ := List.forall_mem_cons.1 optical
    have hfree : ∀ e ∈ l.link.ends, e.place ∉ t.endpoints.map Endpoint.place := by
      intro e he hmem
      rw [List.map_append, List.nodup_append'] at ports
      refine List.disjoint_left.1 ports.2.2 hmem (List.mem_map_of_mem ?_)
      exact List.mem_append_left _ he
    obtain ⟨id, t', ok⟩ :=
      Topology.exists_addLink built.wellFormed hknown hdistinct hfree hoptical
    obtain ⟨-, -, ht⟩ := Topology.addLink_ok ok
    have hendpoints : t'.endpoints = t.endpoints ++ l.link.ends := by
      simp [ht, Topology.endpoints]
    obtain ⟨t'', hrest⟩ := ih (built.addLink ok) (by rwa [ht]) hdistinct'
      (by rwa [hendpoints, List.append_assoc]) (by rwa [ht])
    refine ⟨t'', ?_⟩
    simp only [addLinks, ok]
    exact hrest

theorem exists_addDomains {domains : List (String × List String)} (built : t.Built)
    (members : ∀ e ∈ domains, ∀ m ∈ e.2, ∃ n ∈ t.nodes, n.name = m) :
    ∃ t', addDomains t domains = .ok t' := by
  induction domains generalizing t with
  | nil => exact ⟨t, rfl⟩
  | cons domain more ih =>
    obtain ⟨hfirst, hmore⟩ := List.forall_mem_cons.1 members
    obtain ⟨t', ok⟩ := Topology.exists_addDomain built.wellFormed domain.1 hfirst
    obtain ⟨-, ht⟩ := Topology.addDomain_ok ok
    obtain ⟨t'', hrest⟩ := ih (built.addDomain ok) (by rwa [ht])
    refine ⟨t'', ?_⟩
    simp only [addDomains, ok]
    exact hrest

/-- What a topology is built from is acceptable, since the topology is well formed. -/
theorem acceptable_of_build (h : d.build = .ok t) : d.Acceptable := by
  obtain ⟨built, hswitches, hmembers, hnodes, hlinks, -⟩ := build_eq h
  have hwell := built.wellFormed
  have hends : t.endpoints = endpoints d.links := by rw [Topology.endpoints, hlinks, endpoints]
  have hlink : ∀ l ∈ d.links, l.link ∈ t.links := fun l hl => hlinks ▸ List.mem_map_of_mem hl
  constructor
  case switches => exact hswitches
  case names => exact hnodes ▸ hwell.names
  case dpids => exact hnodes ▸ hwell.dpids
  case known => exact hends ▸ hnodes ▸ hwell.known
  case distinct => exact fun l hl => hwell.distinct _ (hlink l hl)
  case ports => exact hends ▸ hwell.ports
  case optical => exact fun l hl => hnodes ▸ hwell.optical _ (hlink l hl)
  case members => exact fun e he m hm => hnodes ▸ hwell.hasNode_iff.1 (hmembers e he m hm)

/-- A topology is built exactly from what is acceptable. -/
theorem build_iff : (∃ t, d.build = .ok t) ↔ d.Acceptable := by
  refine ⟨fun ⟨t, h⟩ => acceptable_of_build h, fun h => ?_⟩
  obtain ⟨withNodes, hnodes⟩ := exists_addSwitches .empty h.switches h.names h.dpids
  obtain ⟨built, -, hsame⟩ := addSwitches_ok hnodes .empty
  have hn : withNodes.nodes = nodesOf d.switches := by rw [hsame]; rfl
  have hl : withNodes.endpoints = [] := by rw [hsame]; rfl
  obtain ⟨withLinks, hlinks⟩ := exists_addLinks built (hn ▸ h.known) h.distinct
    (by rw [hl]; exact h.ports) (hn ▸ h.optical)
  obtain ⟨built', hsame'⟩ := addLinks_ok hlinks built
  have hn' : withLinks.nodes = nodesOf d.switches := by rw [hsame']; exact hn
  obtain ⟨t, hdomains⟩ := exists_addDomains built' (hn' ▸ h.members)
  refine ⟨t, ?_⟩
  simp only [build, hnodes, hlinks]
  exact hdomains

end TopologyDescription

end OpticalTestbed
