import OpticalTestbed.Proofs.Inventory
import OpticalTestbed.Proofs.Topology.Acceptance
import OpticalTestbed.Proofs.Topology.Requests
/-!
Links have no direction. Which end of a link is written first matters neither to whether it is
accepted nor to anything that a topology tells about nodes, ports and cross-connects.
-/
namespace OpticalTestbed

/-- The link with its ends written the other way round. -/
def Link.turn (l : Link) : Link := { l with a := l.b, b := l.a }

/-- The same link, its ends written in either order. -/
def Link.Turned (l l' : Link) : Prop := l' = l ∨ l' = l.turn

namespace Link.Turned

variable {l l' : Link} {name : String}

theorem ends (h : l.Turned l') : l.ends.Perm l'.ends := by
  rcases h with rfl | rfl
  · exact .refl _
  · exact .swap _ _ _

theorem isOptical (h : l.Turned l') : l.isOptical = l'.isOptical := by
  rcases h with rfl | rfl <;> rfl

theorem distinct_iff (h : l.Turned l') : l.a.node ≠ l.b.node ↔ l'.a.node ≠ l'.b.node := by
  rcases h with rfl | rfl
  · exact .rfl
  · exact ne_comm

theorem touches_iff (h : l.Turned l') :
    (l.a.node = name ∨ l.b.node = name) ↔ (l'.a.node = name ∨ l'.b.node = name) := by
  rcases h with rfl | rfl
  · exact .rfl
  · exact or_comm

/-- The end on a node is looked for on one side first. It is found on either side, unless the node
is on both. -/
theorem endpointOn? (h : l.Turned l') (hne : l.a.node ≠ l.b.node) (name : String) :
    l.endpointOn? name = l'.endpointOn? name ∧ l.farEnd? name = l'.farEnd? name := by
  rcases h with rfl | rfl
  · exact ⟨rfl, rfl⟩
  · simp only [Link.endpointOn?, Link.farEnd?, Link.turn]
    by_cases ha : l.a.node = name
    · have hb : l.b.node ≠ name := fun hb => hne (ha.trans hb.symm)
      simp [ha, hb]
    · simp [ha]

end Link.Turned

namespace Topology

variable {t t' : Topology} {l l' : Link} {name : String}

/-- Well-formed topologies of the same nodes, links and domains, whichever end of each link is
written first. -/
structure Turned (t t' : Topology) : Prop where
  left : t.WellFormed
  right : t'.WellFormed
  nodes : t.nodes = t'.nodes
  links : List.Forall₂ Link.Turned t.links t'.links
  domains : t.domains = t'.domains

namespace Turned

theorem refl (h : t.WellFormed) : t.Turned t where
  left := h
  right := h
  nodes := rfl
  links := List.forall₂_same.2 fun _ _ => .inl rfl
  domains := rfl

theorem node? (h : t.Turned t') : t.node? = t'.node? := by
  funext name
  rw [Topology.node?, h.nodes, ← Topology.node?]

theorem classify? (h : t.Turned t') (hl : l.Turned l') : t.classify? l = t'.classify? l' := by
  rw [Topology.classify?, h.node?]
  rcases hl with rfl | rfl
  · rfl
  · simp only [Topology.classify?, Link.turn]
    cases t'.node? l.a.node with
    | none => cases t'.node? l.b.node <;> rfl
    | some a =>
      cases t'.node? l.b.node with
      | none => rfl
      | some b => cases ha : a.isRoadm <;> cases hb : b.isRoadm <;> simp [ha, hb]

theorem opticalKind? (h : t.Turned t') (hl : l.Turned l') :
    t.opticalKind? l = t'.opticalKind? l' := by
  rw [Topology.opticalKind?, hl.isOptical, h.classify? hl, ← Topology.opticalKind?]

/-- What is read off a link and does not depend on its direction is the same along all links. -/
theorem map_links {β : Type} {f g : Link → β} (h : t.Turned t')
    (hfg : ∀ l l', l.Turned l' → l.a.node ≠ l.b.node → f l = g l') :
    t.links.map f = t'.links.map g :=
  map_eq_map_of_forall₂ (((List.forall₂_and_left _ _).2 ⟨h.left.distinct, h.links⟩).imp
    fun l l' ⟨hne, hl⟩ => hfg l l' hl hne)

/-- Under an id there is no link in either topology, or the same one in both. -/
theorem link? (h : t.Turned t') (id : LinkId) : t.link? id = none ∧ t'.link? id = none ∨
    ∃ l l', t.link? id = some l ∧ t'.link? id = some l' ∧ l.Turned l' ∧ l.a.node ≠ l.b.node := by
  obtain ⟨hlength, hall⟩ := List.forall₂_iff_get.1 h.links
  by_cases hid : id < t.links.length
  · have hid' : id < t'.links.length := hlength ▸ hid
    exact .inr ⟨t.links[id], t'.links[id], List.getElem?_eq_getElem hid,
      List.getElem?_eq_getElem hid', hall id hid hid', h.left.distinct _ (List.getElem_mem hid)⟩
  · have hid' : t'.links.length ≤ id := hlength ▸ Nat.le_of_not_lt hid
    exact .inl ⟨List.getElem?_eq_none (Nat.le_of_not_lt hid), List.getElem?_eq_none hid'⟩

theorem of_link? (h : t.Turned t') {id : LinkId} (hl : t.link? id = some l)
    (hl' : t'.link? id = some l') : l.Turned l' := by
  obtain ⟨hnone, -⟩ | ⟨m, m', hm, hm', hturned, -⟩ := h.link? id
  · cases hnone.symm.trans hl
  · obtain rfl := Option.some.inj (hl.symm.trans hm)
    obtain rfl := Option.some.inj (hl'.symm.trans hm')
    exact hturned

theorem portOn? (h : t.Turned t') (n : Node) (hl : l.Turned l') (hne : l.a.node ≠ l.b.node) :
    t.portOn? n l = t'.portOn? n l' := by
  obtain ⟨hown, hfar⟩ := hl.endpointOn? hne n.name
  simp only [Topology.portOn?, portOf, hown, hfar, h.opticalKind? hl]

theorem ports (h : t.Turned t') : t.ports = t'.ports := by
  funext name
  have hall : ∀ n, t.links.filterMap (t.portOn? n) = t'.links.filterMap (t'.portOn? n) := by
    intro n
    have hmap := congrArg (List.filterMap id) (h.map_links fun _ _ => h.portOn? n)
    simpa only [List.filterMap_map, Function.id_comp] using hmap
  simp only [Topology.ports, h.node?, hall]

theorem crossConnects_eq (t : Topology) : t.crossConnects =
    ((t.links.map t.opticalKind?).zipIdx.filter (·.1 = some .crossConnect)).map (·.2) := by
  simp [Topology.crossConnects, numberedLinks, List.zipIdx_map, List.filter_map, Function.comp_def]

theorem crossConnects (h : t.Turned t') : t.crossConnects = t'.crossConnects := by
  rw [crossConnects_eq, crossConnects_eq, h.map_links fun _ _ hl _ => h.opticalKind? hl]

theorem crossConnectsOf (h : t.Turned t') : t.crossConnectsOf = t'.crossConnectsOf := by
  funext name
  rw [Topology.crossConnectsOf, Topology.crossConnectsOf, h.crossConnects]
  refine List.filter_congr fun id _ => ?_
  obtain ⟨hnone, hnone'⟩ | ⟨l, l', hl, hl', hturned, hne⟩ := h.link? id
  · rw [hnone, hnone']
  · rw [hl, hl', Option.bind_some, Option.bind_some, (hturned.endpointOn? hne name).1]

/-- Of a cross-connect the ROADM's end comes first, wherever it is written. -/
theorem crossConnectEnds? (h : t.Turned t') : t.crossConnectEnds? = t'.crossConnectEnds? := by
  funext id
  obtain ⟨hnone, hnone'⟩ | ⟨l, l', hl, hl', hturned, -⟩ := h.link? id
  · simp only [Topology.crossConnectEnds?, hnone, hnone']
  · simp only [Topology.crossConnectEnds?, hl, hl', h.opticalKind? hturned]
    split
    · rename_i hcross
      obtain ⟨a, b, ha, hb, hab⟩ := crossConnect_ends ((h.opticalKind? hturned).trans hcross)
      rw [h.node?] at ha hb ⊢
      -- one end is on a ROADM and the other is not, so it does not matter which is asked first
      rcases hturned with rfl | rfl
      · rfl
      · cases hr : b.isRoadm <;> simp [ha, hb, hab, hr, Link.turn]
    · rfl

theorem scope (h : t.Turned t') : t.scope = t'.scope := by
  funext domain
  unfold Topology.scope
  rw [h.domains]

end Turned

end Topology

/-- Both succeed, with results that are related, or both fail. -/
inductive Alike {α β ε : Type} (R : α → β → Prop) : Except ε α → Except ε β → Prop
  | ok {a b} : R a b → Alike R (.ok a) (.ok b)
  | error {e e'} : Alike R (.error e) (.error e')

namespace Alike

variable {α β ε : Type} {R : α → β → Prop} {x : Except ε α} {y : Except ε β}

theorem of_iff (hiff : (∃ a, x = .ok a) ↔ ∃ b, y = .ok b)
    (h : ∀ a b, x = .ok a → y = .ok b → R a b) : Alike R x y := by
  cases x with
  | ok a =>
    obtain ⟨b, rfl⟩ := hiff.1 ⟨a, rfl⟩
    exact .ok (h a b rfl rfl)
  | error e =>
    cases y with
    | ok b =>
      obtain ⟨a, ha⟩ := hiff.2 ⟨b, rfl⟩
      cases ha
    | error e' => exact .error

theorem ok_or_error (h : Alike R x y) : (∃ a b, x = .ok a ∧ y = .ok b ∧ R a b) ∨
    ∃ e e', x = .error e ∧ y = .error e' := by
  cases h with
  | ok hab => exact .inl ⟨_, _, rfl, rfl, hab⟩
  | error => exact .inr ⟨_, _, rfl, rfl⟩

theorem iff (h : Alike R x y) : (∃ a, x = .ok a) ↔ ∃ b, y = .ok b := by
  cases h <;> simp

theorem rel {a : α} {b : β} (h : Alike R (.ok a : Except ε α) (.ok b)) : R a b := by
  cases h
  assumption

end Alike

namespace Topology

variable {t t' : Topology} {l l' : Link}

theorem ends_perm {links links' : List Link} (h : List.Forall₂ Link.Turned links links') :
    (links.flatMap Link.ends).Perm (links'.flatMap Link.ends) := by
  induction h with
  | nil => exact .refl _
  | cons hl _ ih => exact hl.ends.append ih

namespace Turned

theorem addNode (h : t.Turned t') (n : Node) : Alike Turned (t.addNode n) (t'.addNode n) := by
  refine .of_iff ?_ fun s s' ok ok' => ?_
  · rw [h.left.exists_addNode_iff, h.right.exists_addNode_iff, h.nodes]
  · have left := h.left.addNode ok
    have right := h.right.addNode ok'
    obtain ⟨-, -, rfl⟩ := addNode_ok ok
    obtain ⟨-, -, rfl⟩ := addNode_ok ok'
    exact ⟨left, right, congrArg (· ++ [n]) h.nodes, h.links, h.domains⟩

/-- A link is accepted whichever end is written first, and under the same id. -/
theorem addLink (h : t.Turned t') (hl : l.Turned l') :
    Alike (fun r r' => r.1 = r'.1 ∧ r.2.Turned r'.2) (t.addLink l) (t'.addLink l') := by
  have hends : ∀ {P : Endpoint → Prop}, (∀ e ∈ l.ends, P e) ↔ ∀ e ∈ l'.ends, P e := by
    intro P
    exact forall_congr' fun e => imp_congr_left hl.ends.mem_iff
  have hplaces : ∀ place, place ∈ t.endpoints.map Endpoint.place ↔
      place ∈ t'.endpoints.map Endpoint.place :=
    fun _ => ((ends_perm h.links).map _).mem_iff
  -- whether a link is accepted is told of the set of its ends, how it is refused is not
  refine .of_iff ?_ fun r r' ok ok' => ?_
  · simp only [h.left.exists_addLink_iff, h.right.exists_addLink_iff, hends, hplaces, h.nodes,
      hl.isOptical, hl.distinct_iff, hl.touches_iff]
  · obtain ⟨id, s⟩ := r
    obtain ⟨id', s'⟩ := r'
    have left := h.left.addLink ok
    have right := h.right.addLink ok'
    obtain ⟨-, rfl, rfl⟩ := addLink_ok ok
    obtain ⟨-, rfl, rfl⟩ := addLink_ok ok'
    exact ⟨h.links.length_eq, left, right, h.nodes,
      List.rel_append h.links (.cons hl .nil), h.domains⟩

theorem addDomain (h : t.Turned t') (name : String) (members : List String) :
    Alike Turned (t.addDomain name members) (t'.addDomain name members) := by
  refine .of_iff ?_ fun s s' ok ok' => ?_
  · rw [h.left.exists_addDomain_iff, h.right.exists_addDomain_iff, h.nodes]
  · have left := h.left.addDomain ok
    have right := h.right.addDomain ok'
    obtain ⟨-, rfl⟩ := addDomain_ok ok
    obtain ⟨-, rfl⟩ := addDomain_ok ok'
    exact ⟨left, right, h.nodes, h.links, by simp only [h.domains]⟩

end Turned

section Requests

/-- The request with the ends of a link written the other way round. -/
def Request.turn : Request → Request
  | addLink l => addLink l.turn
  | r => r

/-- The same answer, but for how a refusal is worded. -/
inductive Answer.Agrees : Answer → Answer → Prop
  | accepted : Agrees accepted accepted
  | linked (id : LinkId) : Agrees (linked id) (linked id)
  | refused (fault fault' : TopologyFault) : Agrees (refused fault) (refused fault')

variable {r r' : Request}

theorem Turned.perform (h : t.Turned t') (hr : r' = r ∨ r' = r.turn) :
    (r.perform t).1.Agrees (r'.perform t').1 ∧ (r.perform t).2.Turned (r'.perform t').2 := by
  cases r with
  | addNode n =>
    obtain rfl : r' = .addNode n := hr.elim id id
    obtain ⟨s, s', ok, ok', hs⟩ | ⟨_, _, refused, refused'⟩ := (h.addNode n).ok_or_error
    · simp only [Request.perform, ok, ok']
      exact ⟨.accepted, hs⟩
    · simp only [Request.perform, refused, refused']
      exact ⟨.refused _ _, h⟩
  | addLink l =>
    obtain ⟨l', hl, rfl⟩ : ∃ l' : Link, l.Turned l' ∧ r' = .addLink l' := by
      rcases hr with rfl | rfl
      · exact ⟨l, .inl rfl, rfl⟩
      · exact ⟨l.turn, .inr rfl, rfl⟩
    obtain ⟨⟨id, s⟩, ⟨id', s'⟩, ok, ok', hid, hs⟩ | ⟨_, _, refused, refused'⟩ :=
      (h.addLink hl).ok_or_error
    · obtain rfl : id = id' := hid
      simp only [Request.perform, ok, ok']
      exact ⟨.linked id, hs⟩
    · simp only [Request.perform, refused, refused']
      exact ⟨.refused _ _, h⟩
  | addDomain name members =>
    obtain rfl : r' = .addDomain name members := hr.elim id id
    obtain ⟨s, s', ok, ok', hs⟩ | ⟨_, _, refused, refused'⟩ :=
      (h.addDomain name members).ok_or_error
    · simp only [Request.perform, ok, ok']
      exact ⟨.accepted, hs⟩
    · simp only [Request.perform, refused, refused']
      exact ⟨.refused _ _, h⟩

/-- Whichever end of each link is written first, requests are accepted or refused alike. -/
theorem Turned.run {requests requests' : List Request} (h : t.Turned t')
    (hr : List.Forall₂ (fun r r' => r' = r ∨ r' = r.turn) requests requests') :
    List.Forall₂ Answer.Agrees (run requests t).1 (run requests' t').1 ∧
      (Topology.run requests t).2.Turned (Topology.run requests' t').2 := by
  induction hr generalizing t t' with
  | nil => exact ⟨.nil, h⟩
  | cons hfirst _ ih =>
    obtain ⟨hanswer, hs⟩ := h.perform hfirst
    obtain ⟨hanswers, hafter⟩ := ih hs
    exact ⟨.cons hanswer hanswers, hafter⟩

end Requests

end Topology

/-- The description of the same link from its other end. -/
def LinkDescription.turn (l : LinkDescription) : LinkDescription :=
  { l with
    node1 := l.node2, port1 := l.port2, speed1 := l.speed2
    node2 := l.node1, port2 := l.port1, speed2 := l.speed1 }

namespace TopologyDescription

variable {t t' : Topology}

theorem addLinks_turned {links links' : List LinkDescription} (h : t.Turned t')
    (hl : List.Forall₂ (fun l l' => l' = l ∨ l' = l.turn) links links') :
    Alike Topology.Turned (addLinks t links) (addLinks t' links') := by
  induction hl generalizing t t' with
  | nil => exact .ok h
  | @cons l l' _ _ hfirst _ ih =>
    have hlink : l.link.Turned l'.link := by
      rcases hfirst with rfl | rfl
      · exact .inl rfl
      · exact .inr rfl
    obtain ⟨r, r', ok, ok', -, hs⟩ | ⟨_, _, refused, refused'⟩ := (h.addLink hlink).ok_or_error
    · simp only [addLinks, ok, ok']
      exact ih hs
    · simp only [addLinks, refused, refused']
      exact .error

theorem addDomains_turned (domains : List (String × List String)) (h : t.Turned t') :
    Alike Topology.Turned (addDomains t domains) (addDomains t' domains) := by
  induction domains generalizing t t' with
  | nil => exact .ok h
  | cons domain more ih =>
    obtain ⟨s, s', ok, ok', hs⟩ | ⟨_, _, refused, refused'⟩ :=
      (h.addDomain domain.1 domain.2).ok_or_error
    · simp only [addDomains, ok, ok']
      exact ih hs
    · simp only [addDomains, refused, refused']
      exact .error

/-- Whichever end of each link is written first, a description is accepted or refused alike. -/
theorem build_alike {d d' : TopologyDescription} (hswitches : d.switches = d'.switches)
    (hlinks : List.Forall₂ (fun l l' => l' = l ∨ l' = l.turn) d.links d'.links)
    (hdomains : d.domains = d'.domains) : Alike Topology.Turned d.build d'.build := by
  simp only [build, ← hswitches, ← hdomains]
  split
  · exact .error
  · rename_i t hnodes
    have hwell := (addSwitches_ok hnodes .empty).1.wellFormed
    obtain ⟨s, s', ok, ok', hs⟩ | ⟨_, _, refused, refused'⟩ :=
      (addLinks_turned (.refl hwell) hlinks).ok_or_error
    · simp only [ok, ok']
      exact addDomains_turned _ hs
    · simp only [refused, refused']
      exact .error

end TopologyDescription

end OpticalTestbed
