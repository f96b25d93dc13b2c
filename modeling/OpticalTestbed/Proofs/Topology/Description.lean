import OpticalTestbed.Proofs.Topology.Built
import OpticalTestbed.Topology.Description
/-!
The topology that a description builds: its links are the described ones, and its nodes are made
from described switches, so each carries the name that the documents show.
-/
namespace OpticalTestbed

variable {d : TopologyDescription} {t t' : Topology} {n : Node}

/-- A node is described when a description of a switch stands for it. -/
def Node.Described (n : Node) : Prop := ∃ s : SwitchDescription, s.node? = .ok n

theorem Node.get?_new_name (name : String) (dpid : Dpid) (kind : NodeKind) (a : Annotations) :
    (new name dpid kind a).annotations.get? "name" =
      some ((a.get? "name").getD (.str name)) := by
  simp only [new]
  split
  · rename_i h
    obtain ⟨v, hv⟩ := Option.isSome_iff_exists.1 h
    rw [hv, Option.getD_some]
  · rename_i h
    have hnone : a.get? "name" = none := by simpa [Dict.contains] using h
    rw [Dict.get?_insert_same, hnone, Option.getD_none]

theorem Node.get?_new_other (name : String) (dpid : Dpid) (kind : NodeKind) (a : Annotations)
    {key : String} (h : key ≠ "name") :
    (new name dpid kind a).annotations.get? key = a.get? key := by
  simp only [new]
  split
  · rfl
  · exact Dict.get?_insert_other _ _ h

theorem Node.Described.named (h : n.Described) : ∃ v, n.annotations.get? "name" = some v := by
  obtain ⟨s, hs⟩ := h
  simp only [SwitchDescription.node?] at hs
  split at hs
  · cases hs
  · rename_i dpid _
    cases hs
    exact ⟨_, Node.get?_new_name s.name dpid s.kind s.annotations⟩

theorem toOption_eq_some_iff {ε α : Type} {x : Except ε α} {a : α} :
    x.toOption = some a ↔ x = .ok a := by
  cases x <;> simp [Except.toOption]

/-- The nodes that descriptions of switches stand for, where they stand for any. -/
def SwitchDescription.nodesOf (switches : List SwitchDescription) : List Node :=
  switches.filterMap (·.node?.toOption)

namespace SwitchDescription

theorem mem_nodesOf {switches : List SwitchDescription} :
    n ∈ nodesOf switches ↔ ∃ s ∈ switches, s.node? = .ok n := by
  simp only [nodesOf, List.mem_filterMap, toOption_eq_some_iff]

theorem nodesOf_cons {s : SwitchDescription} {more : List SwitchDescription} (h : s.node? = .ok n) :
    nodesOf (s :: more) = n :: nodesOf more := List.filterMap_cons_some (by rw [h]; rfl)

end SwitchDescription

namespace TopologyDescription

open SwitchDescription (nodesOf)

/-- The domains as a topology holds them. -/
def memberSets (domains : List (String × List String)) : List (String × KeySet String) :=
  domains.map fun e => (e.1, KeySet.ofList e.2)

theorem addSwitches_ok {switches : List SwitchDescription} (h : addSwitches t switches = .ok t')
    (built : t.Built) :
    t'.Built ∧ (∀ s ∈ switches, ∃ n, s.node? = .ok n) ∧
      t' = { t' with
        nodes := t.nodes ++ nodesOf switches, links := t.links, domains := t.domains } := by
  induction switches generalizing t with
  | nil =>
    cases h
    exact ⟨built, by simp, by simp [nodesOf]⟩
  | cons s more ih =>
    simp only [addSwitches] at h
    split at h
    · cases h
    · rename_i node hnode
      split at h
      · cases h
      · rename_i t'' ok
        obtain ⟨-, -, ht⟩ := Topology.addNode_ok ok
        obtain ⟨hbuilt, hall, hsame⟩ := ih h (built.addNode ok)
        refine ⟨hbuilt, List.forall_mem_cons.2 ⟨⟨node, hnode⟩, hall⟩, ?_⟩
        rw [hsame, ht, SwitchDescription.nodesOf_cons hnode]
        simp

theorem addLinks_ok {links : List LinkDescription} (h : addLinks t links = .ok t')
    (built : t.Built) :
    t'.Built ∧ t' = { t with links := t.links ++ links.map (·.link) } := by
  induction links generalizing t with
  | nil =>
    cases h
    exact ⟨built, by simp⟩
  | cons l more ih =>
    simp only [addLinks] at h
    split at h
    · cases h
    · rename_i id t'' ok
      obtain ⟨hbuilt, hsame⟩ := ih h (built.addLink ok)
      obtain ⟨-, -, rfl⟩ := Topology.addLink_ok ok
      refine ⟨hbuilt, ?_⟩
      rw [hsame, List.map_cons]
      simp

theorem addDomains_ok {domains : List (String × List String)} (h : addDomains t domains = .ok t')
    (built : t.Built) :
    t'.Built ∧ (∀ e ∈ domains, ∀ m ∈ e.2, t.hasNode m = true) ∧
      t' = { t with domains := t.domains.insertAll (memberSets domains) } := by
  induction domains generalizing t with
  | nil =>
    cases h
    exact ⟨built, by simp, rfl⟩
  | cons domain more ih =>
    simp only [addDomains] at h
    split at h
    · cases h
    · rename_i t'' ok
      obtain ⟨hbuilt, hall, hsame⟩ := ih h (built.addDomain ok)
      obtain ⟨hmembers, rfl⟩ := Topology.addDomain_ok ok
      exact ⟨hbuilt, List.forall_mem_cons.2 ⟨hmembers, hall⟩, hsame⟩

/-- What is built has the described nodes and links in their order, and the described domains. -/
theorem build_eq (h : d.build = .ok t) :
    t.Built ∧ (∀ s ∈ d.switches, ∃ n, s.node? = .ok n) ∧
      (∀ e ∈ d.domains.entries, ∀ m ∈ e.2, t.hasNode m = true) ∧
      t.nodes = nodesOf d.switches ∧ t.links = d.links.map (·.link) ∧
      t.domains = Dict.ofList (memberSets d.domains.entries) := by
  simp only [build] at h
  split at h
  · cases h
  · rename_i withNodes hnodes
    split at h
    · cases h
    · rename_i withLinks hlinks
      obtain ⟨built, hall, hsame⟩ := addSwitches_ok hnodes .empty
      obtain ⟨built, rfl⟩ := addLinks_ok hlinks built
      obtain ⟨built, hmembers, rfl⟩ := addDomains_ok h built
      rw [hsame]
      exact ⟨hsame ▸ built, hall, hmembers, rfl, rfl, rfl⟩

theorem build_ok (h : d.build = .ok t) :
    t.Built ∧ (∀ n ∈ t.nodes, n.Described) ∧ t.links = d.links.map (·.link) := by
  obtain ⟨built, -, -, hnodes, hlinks, -⟩ := build_eq h
  refine ⟨built, fun n hn => ?_, hlinks⟩
  obtain ⟨s, -, hs⟩ := SwitchDescription.mem_nodesOf.1 (hnodes ▸ hn)
  exact ⟨s, hs⟩

end TopologyDescription

section Reading

variable {ν α : Type} [Source ν]

theorem Source.upTo?_le {limit n : Nat} {v : ν} (h : upTo? limit v = some n) : n ≤ limit :=
  of_decide_eq_true (Option.filter_eq_some_iff.1 h).2

theorem Source.list?_mem {read : ν → Option α} {v : ν} {as : List α} (h : list? read v = some as) :
    ∀ a ∈ as, ∃ x, read x = some a := by
  obtain ⟨items, -, hread⟩ := Option.bind_eq_some_iff.1 h
  clear h
  induction items generalizing as with
  | nil => cases hread; simp
  | cons x items ih =>
    simp only [List.mapM_cons, bind, Option.bind_eq_some_iff] at hread
    obtain ⟨a, ha, more, hmore, hsplit⟩ := hread
    cases hsplit
    rw [List.forall_mem_cons]
    exact ⟨⟨x, ha⟩, ih hmore⟩

/-- Port numbers are 32 bits wide. -/
def TopologyDescription.Fits (d : TopologyDescription) : Prop :=
  ∀ l ∈ d.links, l.port1 ≤ max32 ∧ l.port2 ≤ max32

theorem LinkDescription.read?_fits {v : ν} {l : LinkDescription} (h : read? v = some l) :
    l.port1 ≤ max32 ∧ l.port2 ≤ max32 := by
  simp only [read?, bind, Option.bind_eq_some_iff, Source.required] at h
  obtain ⟨f, -, node1, -, port1, ⟨p1, -, h1⟩, node2, -, port2, ⟨p2, -, h2⟩, h⟩ := h
  obtain ⟨speed1, -, speed2, -, kind, -, annotations, -, h⟩ := h
  cases h
  exact ⟨Source.upTo?_le h1, Source.upTo?_le h2⟩

/-- Whatever is read fits. -/
theorem TopologyDescription.read?_fits {v : ν} {d : TopologyDescription} (h : read? v = some d) :
    d.Fits := by
  simp only [read?, bind, Option.bind_eq_some_iff] at h
  obtain ⟨f, -, switches, -, links, hlinks, domains, -, h⟩ := h
  cases h
  intro l hl
  rw [Source.defaulted] at hlinks
  split at hlinks
  · obtain ⟨x, hx⟩ := Source.list?_mem hlinks l hl
    exact LinkDescription.read?_fits hx
  · cases hlinks
    cases hl

end Reading

end OpticalTestbed
