import OpticalTestbed.Proofs.Topology.Acceptance
/-!
Descriptions on their own terms: which ones are valid, what a fault says about the others, and that a
topology holds what was described.
-/
namespace OpticalTestbed

namespace SwitchDescription

variable {s : SwitchDescription} {n : Node} {switches : List SwitchDescription}

/-- A node has the content of a description. There is at most one that has it. -/
structure Yields (s : SwitchDescription) (n : Node) : Prop where
  name : n.name = s.name
  dpid : Dpid.ofText? s.dpid = .ok n.dpid
  kind : n.kind = s.kind
  manufacturer : n.manufacturer = s.manufacturer.getD "Linc"
  mac : n.mac = s.mac.map fun mac =>
    String.ofList ((mac.toList.filter (· ≠ ':')).map Text.lowerAscii)
  named : n.annotations.get? "name" = some ((s.annotations.get? "name").getD (.str s.name))
  annotations : ∀ key ≠ "name", n.annotations.get? key = s.annotations.get? key

/-- A description stands for the node with its content, provided that its datapath id is one. -/
theorem node?_eq_ok_iff : s.node? = .ok n ↔ s.Yields n := by
  constructor
  · intro h
    simp only [node?] at h
    split at h
    · cases h
    · rename_i dpid hdpid
      cases h
      exact ⟨rfl, hdpid, rfl, rfl, rfl, Node.get?_new_name s.name dpid s.kind s.annotations,
        fun key hkey => Node.get?_new_other s.name dpid s.kind s.annotations hkey⟩
  · intro h
    have hannotations : (Node.new s.name n.dpid s.kind s.annotations).annotations =
        n.annotations := by
      refine Dict.ext_get? fun key => ?_
      by_cases hkey : key = "name"
      · rw [hkey, Node.get?_new_name, h.named]
      · rw [Node.get?_new_other _ _ _ _ hkey, h.annotations key hkey]
    obtain ⟨name, dpid, kind, manufacturer, mac, annotations⟩ := n
    obtain ⟨rfl, hdpid, rfl, rfl, rfl, -, -⟩ := h
    simp only [node?, hdpid, hannotations]
    rfl

theorem exists_node?_iff : (∃ n, s.node? = .ok n) ↔ ∃ id, Dpid.ofText? s.dpid = .ok id := by
  constructor
  · rintro ⟨n, hn⟩
    exact ⟨n.dpid, (node?_eq_ok_iff.1 hn).dpid⟩
  · rintro ⟨id, hid⟩
    simp only [node?, hid]
    exact ⟨_, rfl⟩

theorem node?_error {fault : TopologyFault} (h : s.node? = .error fault) :
    (∀ id, Dpid.ofText? s.dpid ≠ .ok id) ∧ fault = .badDpid s.dpid := by
  simp only [node?] at h
  split at h
  · rename_i fault' hdpid
    cases h
    refine ⟨fun id hid => by simp [hid] at hdpid, ?_⟩
    simp only [Dpid.ofText?] at hdpid
    split at hdpid
    · cases hdpid
    · exact (Except.error.inj hdpid).symm
  · cases h

/-- The nodes of descriptions are the described ones, in their order. -/
theorem yields_nodesOf (h : ∀ s ∈ switches, ∃ n, s.node? = .ok n) :
    List.Forall₂ Yields switches (nodesOf switches) := by
  induction switches with
  | nil => exact .nil
  | cons s more ih =>
    obtain ⟨⟨n, hn⟩, hmore⟩ := List.forall_mem_cons.1 h
    rw [nodesOf_cons hn]
    exact .cons (node?_eq_ok_iff.1 hn) (ih hmore)

theorem map_name_nodesOf (h : ∀ s ∈ switches, ∃ n, s.node? = .ok n) :
    (nodesOf switches).map (·.name) = switches.map (·.name) := by
  rw [← List.forall₂_eq_eq_eq, List.forall₂_map_left_iff, List.forall₂_map_right_iff]
  exact (yields_nodesOf h).flip.imp fun n s yields => yields.name

/-- Whether a text is the name of a described switch. -/
def Declares (switches : List SwitchDescription) (name : String) : Prop :=
  ∃ s ∈ switches, s.name = name

theorem declares_iff (h : ∀ s ∈ switches, ∃ n, s.node? = .ok n) (name : String) :
    (∃ n ∈ nodesOf switches, n.name = name) ↔ Declares switches name := by
  have hmem : name ∈ (nodesOf switches).map (·.name) ↔ name ∈ switches.map (·.name) := by
    rw [map_name_nodesOf h]
  simpa only [Declares, List.mem_map] using hmem

theorem nodup_dpid_iff : ((nodesOf switches).map (·.dpid)).Nodup ↔
    switches.Pairwise fun s s' => ∀ id, Dpid.ofText? s.dpid = .ok id →
      Dpid.ofText? s'.dpid ≠ .ok id := by
  rw [List.Nodup, List.pairwise_map, nodesOf, List.pairwise_filterMap]
  refine List.Pairwise.iff fun s s' => ?_
  simp only [toOption_eq_some_iff]
  constructor
  · intro h id hs hs'
    obtain ⟨n, hn⟩ := exists_node?_iff.2 ⟨id, hs⟩
    obtain ⟨n', hn'⟩ := exists_node?_iff.2 ⟨id, hs'⟩
    have hid := Except.ok.inj ((node?_eq_ok_iff.1 hn).dpid.symm.trans hs)
    have hid' := Except.ok.inj ((node?_eq_ok_iff.1 hn').dpid.symm.trans hs')
    exact h n hn n' hn' (hid.trans hid'.symm)
  · intro h n hn n' hn' he
    refine h n.dpid (node?_eq_ok_iff.1 hn).dpid ?_
    rw [he]
    exact (node?_eq_ok_iff.1 hn').dpid

theorem exists_roadm_iff (h : ∀ s ∈ switches, ∃ n, s.node? = .ok n) (l : Link) :
    (∃ n ∈ nodesOf switches, n.isRoadm = true ∧ (l.a.node = n.name ∨ l.b.node = n.name)) ↔
      ∃ s ∈ switches, s.kind = .roadm ∧ (l.a.node = s.name ∨ l.b.node = s.name) := by
  constructor
  · rintro ⟨n, hn, hr, hon⟩
    obtain ⟨s, hs, hnode⟩ := mem_nodesOf.1 hn
    have yields := node?_eq_ok_iff.1 hnode
    rw [Node.isRoadm, yields.kind, decide_eq_true_eq] at hr
    exact ⟨s, hs, hr, yields.name ▸ hon⟩
  · rintro ⟨s, hs, hr, hon⟩
    obtain ⟨n, hn⟩ := h s hs
    have yields := node?_eq_ok_iff.1 hn
    refine ⟨n, mem_nodesOf.2 ⟨s, hs, hn⟩, ?_, yields.name.symm ▸ hon⟩
    rw [Node.isRoadm, yields.kind, decide_eq_true_eq]
    exact hr

end SwitchDescription

namespace TopologyDescription

open SwitchDescription (nodesOf Declares Yields)

variable {d : TopologyDescription} {t : Topology} {fault : TopologyFault}

/-- The ports on which described links end. -/
def places (links : List LinkDescription) : List (String × Nat) :=
  links.flatMap fun l => [(l.node1, l.port1), (l.node2, l.port2)]

/-- What is asked of a description, in its own words. -/
structure Valid (d : TopologyDescription) : Prop where
  parsed : ∀ s ∈ d.switches, ∃ id, Dpid.ofText? s.dpid = .ok id
  names : (d.switches.map (·.name)).Nodup
  dpids : d.switches.Pairwise fun s s' => ∀ id, Dpid.ofText? s.dpid = .ok id →
    Dpid.ofText? s'.dpid ≠ .ok id
  joined : ∀ l ∈ d.links, l.node1 ≠ l.node2 ∧ Declares d.switches l.node1 ∧
    Declares d.switches l.node2
  ports : (places d.links).Nodup
  optical : ∀ l ∈ d.links, l.kind = .optical →
    ∃ s ∈ d.switches, s.kind = .roadm ∧ (l.node1 = s.name ∨ l.node2 = s.name)
  members : ∀ domain members, d.domains.get? domain = some members →
    ∀ m ∈ members, Declares d.switches m

theorem map_place_endpoints (links : List LinkDescription) :
    (endpoints links).map Endpoint.place = places links := by
  rw [endpoints, List.flatMap_map, List.map_flatMap]
  rfl

theorem acceptable_iff : d.Acceptable ↔ d.Valid := by
  have hparsed : (∀ s ∈ d.switches, ∃ n, s.node? = .ok n) ↔
      ∀ s ∈ d.switches, ∃ id, Dpid.ofText? s.dpid = .ok id :=
    forall₂_congr fun s _ => SwitchDescription.exists_node?_iff
  constructor
  · intro h
    have hdeclares := SwitchDescription.declares_iff h.switches
    have hknown : ∀ l ∈ d.links, ∀ e ∈ l.link.ends, Declares d.switches e.node := by
      intro l hl e he
      refine (hdeclares _).1 (h.known e (List.mem_flatMap.2 ⟨l.link, ?_, he⟩))
      exact List.mem_map_of_mem hl
    constructor
    case parsed => exact hparsed.1 h.switches
    case names => exact SwitchDescription.map_name_nodesOf h.switches ▸ h.names
    case dpids => exact SwitchDescription.nodup_dpid_iff.1 h.dpids
    case joined =>
      exact fun l hl => ⟨h.distinct l hl, hknown l hl _ (.head _), hknown l hl _ (.tail _ (.head _))⟩
    case ports => exact map_place_endpoints d.links ▸ h.ports
    case optical =>
      intro l hl ho
      have hoptical : l.link.isOptical = true := decide_eq_true ho
      exact (SwitchDescription.exists_roadm_iff h.switches _).1 (h.optical l hl hoptical)
    case members =>
      intro domain members hd m hm
      exact (hdeclares _).1 (h.members _ (Dict.get?_eq_some_iff.1 hd) m hm)
  · intro h
    have hswitches := hparsed.2 h.parsed
    have hdeclares := SwitchDescription.declares_iff hswitches
    constructor
    case switches => exact hswitches
    case names => exact (SwitchDescription.map_name_nodesOf hswitches).symm ▸ h.names
    case dpids => exact SwitchDescription.nodup_dpid_iff.2 h.dpids
    case known =>
      simp only [endpoints, List.mem_flatMap, List.mem_map]
      rintro e ⟨-, ⟨l, hl, rfl⟩, he⟩
      obtain ⟨-, h1, h2⟩ := h.joined l hl
      refine (hdeclares _).2 ?_
      simp only [Link.ends, List.mem_cons, List.not_mem_nil, or_false] at he
      rcases he with rfl | rfl
      · exact h1
      · exact h2
    case distinct => exact fun l hl => (h.joined l hl).1
    case ports => exact (map_place_endpoints d.links).symm ▸ h.ports
    case optical =>
      intro l hl ho
      exact (SwitchDescription.exists_roadm_iff hswitches _).2 (h.optical l hl (of_decide_eq_true ho))
    case members =>
      intro e he m hm
      exact (hdeclares _).2 (h.members e.1 e.2 (Dict.get?_eq_some_iff.2 he) m hm)

end TopologyDescription

namespace Topology

variable {t : Topology} {n : Node} {l : Link} {fault : TopologyFault}

theorem addNode_error (h : t.addNode n = .error fault) :
    (t.hasNode n.name = true ∧ fault = .duplicateNode n.name) ∨
      ∃ m ∈ t.nodes, m.dpid = n.dpid ∧ fault = .sharedDpid m.name n.name n.dpid.text := by
  simp only [addNode] at h
  split at h
  · rename_i hname
    exact .inl ⟨hname, (Except.error.inj h).symm⟩
  · split at h
    · rename_i m hm
      refine .inr ⟨m, List.mem_of_find?_eq_some hm, ?_, (Except.error.inj h).symm⟩
      simpa using List.find?_some hm
    · cases h

theorem endpointFault?_eq_some {e : Endpoint} (h : t.endpointFault? e = some fault) :
    (t.hasNode e.node = false ∧ fault = .unknownEndpoint e.node) ∨
      (t.portTaken e = true ∧ fault = .portTaken e.port e.node) := by
  simp only [endpointFault?] at h
  split at h
  · rename_i hunknown
    exact .inl ⟨by simpa using hunknown, (Option.some.inj h).symm⟩
  · split at h
    · rename_i htaken
      exact .inr ⟨htaken, (Option.some.inj h).symm⟩
    · cases h

theorem addLink_error (h : t.addLink l = .error fault) :
    (∃ e ∈ l.ends, t.endpointFault? e = some fault) ∨
      (l.a.node = l.b.node ∧ fault = .selfLink l.a.node) ∨
      (l.isOptical = true ∧ t.classify? l = none ∧ (∀ e ∈ l.ends, t.hasNode e.node = true) ∧
        fault = .noRoadm l.a.node l.a.port l.b.node l.b.port) := by
  simp only [addLink] at h
  split at h
  · rename_i fault' hfault
    cases h
    simp only [linkFault?] at hfault
    split at hfault
    · rename_i ha
      exact .inl ⟨l.a, .head _, by rw [ha, hfault]⟩
    · rename_i ha
      split at hfault
      · rename_i hb
        exact .inl ⟨l.b, .tail _ (.head _), by rw [hb, hfault]⟩
      · rename_i hb
        split at hfault
        · rename_i hself
          exact .inr (.inl ⟨hself, (Option.some.inj hfault).symm⟩)
        · split at hfault
          · rename_i hoptical
            rw [Bool.and_eq_true, Option.isNone_iff_eq_none] at hoptical
            refine .inr (.inr ⟨hoptical.1, hoptical.2, ?_, (Option.some.inj hfault).symm⟩)
            simp only [Link.ends, List.forall_mem_cons]
            exact ⟨(endpointFault?_eq_none ha).1, (endpointFault?_eq_none hb).1, by simp⟩
          · cases hfault
  · cases h

theorem addDomain_error {name : String} {members : List String}
    (h : t.addDomain name members = .error fault) :
    ∃ m ∈ members, t.hasNode m = false ∧ fault = .unknownMember name m := by
  simp only [addDomain] at h
  split at h
  · rename_i m hm
    have hmem := (KeySet.mem_toList_ofList members m).1 (List.mem_of_find?_eq_some hm)
    exact ⟨m, hmem, by simpa using List.find?_some hm, (Except.error.inj h).symm⟩
  · cases h

end Topology

namespace TopologyDescription

open SwitchDescription (nodesOf Declares Yields)

variable {d : TopologyDescription} {t : Topology} {fault : TopologyFault}

/-- What a fault says is so in the description. -/
inductive Faulty (d : TopologyDescription) : TopologyFault → Prop
  | dpid {s} : s ∈ d.switches → (∀ id, Dpid.ofText? s.dpid ≠ .ok id) → Faulty d (.badDpid s.dpid)
  | name {s s'} : [s, s'].Sublist d.switches → s.name = s'.name → Faulty d (.duplicateNode s'.name)
  | shared {s s' id} : [s, s'].Sublist d.switches → Dpid.ofText? s.dpid = .ok id →
    Dpid.ofText? s'.dpid = .ok id → Faulty d (.sharedDpid s.name s'.name id.text)
  | endpoint {place} : place ∈ places d.links → ¬ Declares d.switches place.1 →
    Faulty d (.unknownEndpoint place.1)
  | port {place} : [place, place].Sublist (places d.links) → Faulty d (.portTaken place.2 place.1)
  | self {l} : l ∈ d.links → l.node1 = l.node2 → Faulty d (.selfLink l.node1)
  | packet {l} : l ∈ d.links → l.kind = .optical →
    (∀ s ∈ d.switches, s.kind = .roadm → l.node1 ≠ s.name ∧ l.node2 ≠ s.name) →
    Faulty d (.noRoadm l.node1 l.port1 l.node2 l.port2)
  | member {domain members m} : d.domains.get? domain = some members → m ∈ members →
    ¬ Declares d.switches m → Faulty d (.unknownMember domain m)

/-- What is faulty is not valid. -/
theorem Faulty.not_valid (h : d.Faulty fault) : ¬ d.Valid := by
  intro valid
  cases h with
  | dpid hs hid =>
    obtain ⟨id, hok⟩ := valid.parsed _ hs
    exact hid id hok
  | name hs he =>
    have hnames : [_, _].Nodup := (hs.map (·.name)).nodup valid.names
    simp [he] at hnames
  | shared hs h1 h2 =>
    have hpair := List.Pairwise.sublist hs valid.dpids
    exact List.rel_of_pairwise_cons hpair (.head _) _ h1 h2
  | endpoint hplace hnode =>
    obtain ⟨l, hl, hend⟩ := List.mem_flatMap.1 hplace
    obtain ⟨-, h1, h2⟩ := valid.joined l hl
    simp only [List.mem_cons, List.not_mem_nil, or_false] at hend
    rcases hend with rfl | rfl
    · exact hnode h1
    · exact hnode h2
  | port hplaces =>
    have htwice := hplaces.nodup valid.ports
    simp at htwice
  | self hl he => exact (valid.joined _ hl).1 he
  | packet hl ho hnone =>
    obtain ⟨s, hs, hr, hon⟩ := valid.optical _ hl ho
    obtain ⟨h1, h2⟩ := hnone s hs hr
    exact hon.elim h1 h2
  | member hd hm hnone => exact hnone (valid.members _ _ hd _ hm)

section Refusals

theorem addSwitches_error {switches : List SwitchDescription}
    (h : addSwitches t switches = .error fault) :
    ∃ before s after t', switches = before ++ s :: after ∧ addSwitches t before = .ok t' ∧
      (s.node? = .error fault ∨ ∃ n, s.node? = .ok n ∧ t'.addNode n = .error fault) := by
  induction switches generalizing t with
  | nil => cases h
  | cons s more ih =>
    simp only [addSwitches] at h
    split at h
    · rename_i hnode
      cases h
      exact ⟨[], s, more, t, rfl, rfl, .inl hnode⟩
    · rename_i n hnode
      split at h
      · rename_i hadd
        cases h
        exact ⟨[], s, more, t, rfl, rfl, .inr ⟨n, hnode, hadd⟩⟩
      · rename_i t'' hadd
        obtain ⟨before, s', after, t', rfl, hbefore, hfails⟩ := ih h
        refine ⟨s :: before, s', after, t', rfl, ?_, hfails⟩
        simp only [addSwitches, hnode, hadd]
        exact hbefore

theorem addLinks_error {links : List LinkDescription} (h : addLinks t links = .error fault) :
    ∃ before l after t', links = before ++ l :: after ∧ addLinks t before = .ok t' ∧
      t'.addLink l.link = .error fault := by
  induction links generalizing t with
  | nil => cases h
  | cons l more ih =>
    simp only [addLinks] at h
    split at h
    · rename_i hadd
      cases h
      exact ⟨[], l, more, t, rfl, rfl, hadd⟩
    · rename_i id t'' hadd
      obtain ⟨before, l', after, t', rfl, hbefore, hfails⟩ := ih h
      refine ⟨l :: before, l', after, t', rfl, ?_, hfails⟩
      simp only [addLinks, hadd]
      exact hbefore

theorem addDomains_error {domains : List (String × List String)} (built : t.Built)
    (h : addDomains t domains = .error fault) :
    ∃ e ∈ domains, ∃ m ∈ e.2, (¬ ∃ n ∈ t.nodes, n.name = m) ∧ fault = .unknownMember e.1 m := by
  induction domains generalizing t with
  | nil => cases h
  | cons domain more ih =>
    simp only [addDomains] at h
    split at h
    · rename_i hadd
      cases h
      obtain ⟨m, hm, hnode, rfl⟩ := Topology.addDomain_error hadd
      refine ⟨domain, .head _, m, hm, fun hknown => ?_, rfl⟩
      rw [built.wellFormed.hasNode_iff.2 hknown] at hnode
      cases hnode
    · rename_i t' hadd
      obtain ⟨e, he, m, hm, hnode, rfl⟩ := ih (built.addDomain hadd) h
      obtain ⟨-, rfl⟩ := Topology.addDomain_ok hadd
      exact ⟨e, .tail _ he, m, hm, hnode, rfl⟩

end Refusals

theorem sublist_pair {α : Type} {a b : α} {before after : List α} (ha : a ∈ before)
    (hb : b ∈ after) : [a, b].Sublist (before ++ after) :=
  (List.singleton_sublist.2 ha).append (List.singleton_sublist.2 hb)

theorem addSwitches_faulty (h : addSwitches .empty d.switches = .error fault) : d.Faulty fault := by
  -- the switch is refused by the topology of those that were described before it
  obtain ⟨before, s, after, t, hsplit, hbefore, hfails⟩ := addSwitches_error h
  obtain ⟨built, hall, hsame⟩ := addSwitches_ok hbefore .empty
  have hnodes : t.nodes = nodesOf before := by rw [hsame]; rfl
  have hpair : ∀ s' ∈ before, [s', s].Sublist d.switches :=
    fun s' hs' => hsplit ▸ sublist_pair hs' (.head _)
  rcases hfails with hnode | ⟨n, hnode, hadd⟩
  · obtain ⟨hdpid, rfl⟩ := SwitchDescription.node?_error hnode
    exact .dpid (by simp [hsplit]) hdpid
  · have yields := SwitchDescription.node?_eq_ok_iff.1 hnode
    rcases Topology.addNode_error hadd with ⟨hname, rfl⟩ | ⟨m, hm, hdpid, rfl⟩
    · obtain ⟨s', hs', hname'⟩ := (SwitchDescription.declares_iff hall _).1
        (hnodes ▸ built.wellFormed.hasNode_iff.1 hname)
      rw [yields.name] at hname' ⊢
      exact .name (hpair s' hs') hname'
    · obtain ⟨s', hs', hnode'⟩ := SwitchDescription.mem_nodesOf.1 (hnodes ▸ hm)
      have yields' := SwitchDescription.node?_eq_ok_iff.1 hnode'
      rw [yields.name, yields'.name]
      exact .shared (hpair s' hs') (hdpid ▸ yields'.dpid) yields.dpid

theorem addLinks_faulty (built : t.Built) (hall : ∀ s ∈ d.switches, ∃ n, s.node? = .ok n)
    (hnodes : t.nodes = nodesOf d.switches) (hlinks : t.links = [])
    (h : addLinks t d.links = .error fault) : d.Faulty fault := by
  obtain ⟨before, l, after, t', hsplit, hbefore, hfails⟩ := addLinks_error h
  obtain ⟨built', hsame⟩ := addLinks_ok hbefore built
  have hnodes' : t'.nodes = nodesOf d.switches := by rw [hsame, ← hnodes]
  have hends : t'.endpoints.map Endpoint.place = places before := by
    rw [hsame, ← map_place_endpoints, endpoints, Topology.endpoints, hlinks, List.nil_append]
  have hdeclares : ∀ {name}, t'.hasNode name = true ↔ Declares d.switches name := by
    intro name
    rw [built'.wellFormed.hasNode_iff, hnodes', SwitchDescription.declares_iff hall]
  have hl : l ∈ d.links := by simp [hsplit]
  have hplaces : places d.links = places before ++ places (l :: after) := by
    rw [hsplit, places, List.flatMap_append, places, places]
  rcases Topology.addLink_error hfails with ⟨e, he, hend⟩ | ⟨hself, rfl⟩ | ⟨ho, hnone, hknown, rfl⟩
  · -- a port that is taken is one of a link that was described before
    have hplace : e.place ∈ places (l :: after) := by
      rw [← map_place_endpoints]
      exact List.mem_map_of_mem (List.mem_append_left _ he)
    rcases Topology.endpointFault?_eq_some hend with ⟨hunknown, rfl⟩ | ⟨htaken, rfl⟩
    · refine @Faulty.endpoint _ e.place (hplaces ▸ List.mem_append_right _ hplace) fun hd => ?_
      have hknown := hdeclares.2 hd
      rw [Endpoint.place, hunknown] at hknown
      cases hknown
    · have htaken' := (Topology.portTaken_iff built'.wellFormed.distinct).1 htaken
      rw [hends] at htaken'
      exact @Faulty.port _ e.place (hplaces ▸ sublist_pair htaken' hplace)
  · exact .self hl hself
  · refine .packet hl (of_decide_eq_true ho) fun s hs hr => ?_
    have hroadm : ¬ ∃ s ∈ d.switches, s.kind = .roadm ∧ (l.node1 = s.name ∨ l.node2 = s.name) := by
      intro hroadm
      have hnode := (SwitchDescription.exists_roadm_iff hall l.link).2 hroadm
      rw [← hnodes'] at hnode
      obtain ⟨kind, hkind⟩ := built'.wellFormed.exists_classify
        (fun e he => built'.wellFormed.hasNode_iff.1 (hknown e he)) hnode
      rw [hnone] at hkind
      cases hkind
    exact ⟨fun he => hroadm ⟨s, hs, hr, .inl he⟩, fun he => hroadm ⟨s, hs, hr, .inr he⟩⟩

/-- A fault is never made up. -/
theorem faulty_of_build (h : d.build = .error fault) : d.Faulty fault := by
  simp only [build] at h
  split at h
  · rename_i hswitches
    cases h
    exact addSwitches_faulty hswitches
  · rename_i withNodes hswitches
    obtain ⟨built, hall, hsame⟩ := addSwitches_ok hswitches .empty
    have hnodes : withNodes.nodes = nodesOf d.switches := by rw [hsame]; rfl
    have hlinks : withNodes.links = [] := by rw [hsame]; rfl
    split at h
    · rename_i hadd
      cases h
      exact addLinks_faulty built hall hnodes hlinks hadd
    · rename_i withLinks hadd
      obtain ⟨built', rfl⟩ := addLinks_ok hadd built
      obtain ⟨e, he, m, hm, hnode, rfl⟩ := addDomains_error built' h
      refine .member (Dict.get?_eq_some_iff.2 he) hm fun hd => hnode ?_
      rw [hnodes]
      exact (SwitchDescription.declares_iff hall _).2 hd

/-- A topology is built from what is valid and from nothing else; any other description is refused,
with a fault that it has. What is built holds the described switches and links, each in its place
and with its content, and the described domains. -/
theorem build_accepts (d : TopologyDescription) :
    ((∃ t, d.build = .ok t) ↔ d.Valid) ∧
      ((∃ fault, d.build = .error fault ∧ d.Faulty fault) ↔ ¬ d.Valid) ∧
      ∀ t, d.build = .ok t →
        List.Forall₂ Yields d.switches t.nodes ∧
        (∀ id, t.link? id = d.links[id]?.map fun l =>
          ⟨⟨l.node1, l.port1, l.speed1⟩, ⟨l.node2, l.port2, l.speed2⟩, l.kind, l.annotations⟩) ∧
        t.domains = d.domains.mapValues fun _ members => KeySet.ofList members := by
  have hiff : (∃ t, d.build = .ok t) ↔ d.Valid := build_iff.trans acceptable_iff
  refine ⟨hiff, ⟨fun ⟨_, _, hfaulty⟩ => hfaulty.not_valid, fun h => ?_⟩, fun t h => ?_⟩
  · cases hbuild : d.build with
    | ok t => exact absurd (hiff.1 ⟨t, hbuild⟩) h
    | error fault => exact ⟨fault, rfl, faulty_of_build hbuild⟩
  · obtain ⟨-, hall, -, hnodes, hlinks, hdomains⟩ := build_eq h
    refine ⟨hnodes ▸ SwitchDescription.yields_nodesOf hall, fun id => ?_, ?_⟩
    · rw [Topology.link?, hlinks, List.getElem?_map]
      rfl
    · rw [hdomains]
      exact Dict.ofList_entries (d.domains.mapValues fun _ members => KeySet.ofList members)

end TopologyDescription

end OpticalTestbed
