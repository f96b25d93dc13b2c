import OpticalTestbed.Proofs.Pointwise
import OpticalTestbed.Proofs.Subjects
import OpticalTestbed.Proofs.Topology.WellFormed
/-!
The descriptors of a topology: one for every node in scope, and one for every optical link, whose
ends are written as the subjects of the ports they are on.
-/
namespace OpticalTestbed

namespace Topology

/-- The nodes in a scope. -/
def nodesIn (t : Topology) (scope : Scope) : List Node :=
  t.nodes.filter (fun n => scope.contains n.name)

/-- The optical links. -/
def opticalLinks (t : Topology) : List Link := t.links.filter (·.isOptical)

/-- The subject of the port on one side of a link. -/
def endSubject? (t : Topology) (e : Endpoint) : Option String :=
  (t.node? e.node).map (fun n => portSubject n.dpid.uri e.port)

/-- The subject of a link, unless an end is not in the topology. -/
def linkSubject? (t : Topology) (l : Link) : Option String :=
  match t.endSubject? l.a, t.endSubject? l.b with
  | some src, some dst => some (src ++ "-" ++ dst)
  | _, _ => none

/-- The subjects of both ends of a link, unless one is not in the topology. -/
def linkEnds? (t : Topology) (l : Link) : Option (String × String) :=
  match t.endSubject? l.a, t.endSubject? l.b with
  | some src, some dst => some (src, dst)
  | _, _ => none

end Topology

/-- A descriptor with the ends, the type and the annotations of a link. -/
structure LinkDescriptor.Describes (t : Topology) (l : Link) (d : LinkDescriptor) : Prop where
  src : t.endSubject? l.a = some d.src
  dst : t.endSubject? l.b = some d.dst
  type : d.type = l.kind.typeName
  annotations : d.annotations = l.annotations

variable {t : Topology} {l m : Link} {d : LinkDescriptor} {scope : Scope}
  {macOf : String → Option String}

namespace Topology

theorem mem_nodesIn {n : Node} : n ∈ t.nodesIn scope ↔ n ∈ t.nodes ∧ scope.contains n.name = true :=
  List.mem_filter

theorem mem_opticalLinks : l ∈ t.opticalLinks ↔ l ∈ t.links ∧ l.isOptical = true :=
  List.mem_filter

theorem mem_endpoints (hl : l ∈ t.links) : l.a ∈ t.endpoints ∧ l.b ∈ t.endpoints := by
  constructor <;> exact List.mem_flatMap.2 ⟨l, hl, by simp [Link.ends]⟩

/-- No dash stands in the subject of a port. -/
theorem not_mem_endSubject? {e : Endpoint} {s : String} (h : t.endSubject? e = some s) :
    '-' ∉ s.toList := by
  obtain ⟨n, -, rfl⟩ := Option.map_eq_some_iff.1 h
  exact not_mem_portSubject n.dpid e.port

namespace WellFormed

/-- The ends of links are on nodes of the topology. -/
theorem exists_node (h : t.WellFormed) {e : Endpoint} (he : e ∈ t.endpoints) :
    ∃ n ∈ t.nodes, n.name = e.node ∧ t.node? e.node = some n := by
  obtain ⟨n, hn, hname⟩ := h.known e he
  exact ⟨n, hn, hname, hname ▸ h.node?_eq hn⟩

/-- A subject stands for one port only. -/
theorem endSubject?_injective (h : t.WellFormed) {e f : Endpoint} {s : String}
    (he : t.endSubject? e = some s) (hf : t.endSubject? f = some s) : e.place = f.place := by
  obtain ⟨m, hm, rfl⟩ := Option.map_eq_some_iff.1 he
  obtain ⟨n, hn, hsame⟩ := Option.map_eq_some_iff.1 hf
  obtain ⟨hdpid, hport⟩ := portSubject_injective hsame
  obtain ⟨hm, hmname⟩ := node?_mem hm
  obtain ⟨hn, hnname⟩ := node?_mem hn
  have hnode : n = m := List.inj_on_of_nodup_map h.dpids hn hm hdpid
  rw [Endpoint.place, Endpoint.place, ← hmname, ← hnname, hnode, hport]

theorem exists_describes (h : t.WellFormed) (hl : l ∈ t.links) :
    ∃ d, LinkDescriptor.ofLink? t l = some d ∧ d.Describes t l := by
  obtain ⟨a, -, -, ha⟩ := h.exists_node (mem_endpoints hl).1
  obtain ⟨b, -, -, hb⟩ := h.exists_node (mem_endpoints hl).2
  simp only [LinkDescriptor.ofLink?, ha, hb]
  exact ⟨_, rfl, by simp [endSubject?, ha], by simp [endSubject?, hb], rfl, rfl⟩

/-- The optical links have one descriptor each, in their order. -/
theorem links_describe (h : t.WellFormed) (scope : Scope) (macOf : String → Option String) :
    List.Forall₂ (fun l d => d.Describes t l) t.opticalLinks
      (Inventory.ofTopology t scope macOf).links :=
  forall₂_filterMap fun _ hl => h.exists_describes (mem_opticalLinks.1 hl).1

theorem linkEnds?_eq {d : LinkDescriptor} (hd : d.Describes t l) :
    t.linkEnds? l = some (d.src, d.dst) := by
  simp [linkEnds?, hd.src, hd.dst]

end WellFormed

end Topology

end OpticalTestbed
