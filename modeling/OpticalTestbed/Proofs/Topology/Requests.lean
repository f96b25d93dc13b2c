import OpticalTestbed.Proofs.Topology.Built
/-!
A topology under any sequence of requests. Whatever is accepted or refused on the way, it stays well
formed, links are numbered in the order they came, and what was added is never altered again.
-/
namespace OpticalTestbed.Topology

/-- What can be asked of a topology. -/
inductive Request where
  | addNode (n : Node)
  | addLink (l : Link)
  | addDomain (name : String) (members : List String)

inductive Answer where
  | accepted
  | linked (id : LinkId)
  | refused (fault : TopologyFault)

namespace Answer

/-- The id that was given to a link. -/
def link? : Answer → Option LinkId
  | linked id => some id
  | _ => none

end Answer

/-- The answer to a request, and the topology after it. -/
def Request.perform (t : Topology) : Request → Answer × Topology
  | addNode n =>
    match t.addNode n with
    | .ok t' => (.accepted, t')
    | .error fault => (.refused fault, t)
  | addLink l =>
    match t.addLink l with
    | .ok (id, t') => (.linked id, t')
    | .error fault => (.refused fault, t)
  | addDomain name members =>
    match t.addDomain name members with
    | .ok t' => (.accepted, t')
    | .error fault => (.refused fault, t)

/-- The answers to one request after another, and the topology after all. -/
def run : List Request → Topology → List Answer × Topology
  | [], t => ([], t)
  | r :: more, t =>
    let (answer, t) := r.perform t
    let (answers, t) := run more t
    (answer :: answers, t)

/-- What a request comes to. -/
inductive Request.Path (t : Topology) : Request → Answer × Topology → Prop
  | node {n t'} : t.addNode n = .ok t' → Path t (.addNode n) (.accepted, t')
  | link {l id t'} : t.addLink l = .ok (id, t') → Path t (.addLink l) (.linked id, t')
  | domain {name members t'} : t.addDomain name members = .ok t' →
    Path t (.addDomain name members) (.accepted, t')
  | refused {r fault} : Path t r (.refused fault, t)

variable {t t' t'' : Topology} {r : Request} {result : Answer × Topology}

theorem Request.perform_path (t : Topology) (r : Request) : r.Path t (r.perform t) := by
  cases r with
  | addNode n =>
    simp only [perform]
    split
    · rename_i ok
      exact .node ok
    · exact .refused
  | addLink l =>
    simp only [perform]
    split
    · rename_i ok
      exact .link ok
    · exact .refused
  | addDomain name members =>
    simp only [perform]
    split
    · rename_i ok
      exact .domain ok
    · exact .refused

theorem Request.Path.built (h : r.Path t result) (built : t.Built) : result.2.Built := by
  cases h with
  | node ok => exact .addNode built ok
  | link ok => exact .addLink built ok
  | domain ok => exact .addDomain built ok
  | refused => exact built

theorem run_built (requests : List Request) (h : t.Built) : (run requests t).2.Built := by
  induction requests generalizing t with
  | nil => exact h
  | cons r more ih => exact ih ((r.perform_path t).built h)

/-- What was added to a topology is still there, at its place. -/
structure Extends (t t' : Topology) : Prop where
  nodes : t.nodes <+: t'.nodes
  links : t.links <+: t'.links

theorem Extends.refl (t : Topology) : t.Extends t := ⟨List.prefix_rfl, List.prefix_rfl⟩

theorem Extends.trans (h : t.Extends t') (h' : t'.Extends t'') : t.Extends t'' :=
  ⟨h.nodes.trans h'.nodes, h.links.trans h'.links⟩

theorem Request.Path.extends (h : r.Path t result) : t.Extends result.2 := by
  cases h with
  | node ok =>
    obtain ⟨-, -, rfl⟩ := addNode_ok ok
    exact ⟨List.prefix_append _ _, List.prefix_rfl⟩
  | link ok =>
    obtain ⟨-, -, rfl⟩ := addLink_ok ok
    exact ⟨List.prefix_rfl, List.prefix_append _ _⟩
  | domain ok =>
    obtain ⟨-, rfl⟩ := addDomain_ok ok
    exact ⟨List.prefix_rfl, List.prefix_rfl⟩
  | refused => exact .refl t

theorem run_extends (requests : List Request) : t.Extends (run requests t).2 := by
  induction requests generalizing t with
  | nil => exact .refl t
  | cons r more ih => exact (r.perform_path t).extends.trans ih

/-- Only a link that is accepted takes an id, and it takes the next one. -/
theorem Request.Path.numbered (h : r.Path t result) :
    List.range t.links.length ++ result.1.link?.toList = List.range result.2.links.length := by
  cases h with
  | node ok =>
    obtain ⟨-, -, rfl⟩ := addNode_ok ok
    simp [Answer.link?]
  | link ok =>
    obtain ⟨-, rfl, rfl⟩ := addLink_ok ok
    simp [Answer.link?, List.range_succ]
  | domain ok =>
    obtain ⟨-, rfl⟩ := addDomain_ok ok
    simp [Answer.link?]
  | refused => simp [Answer.link?]

theorem run_numbered (requests : List Request) :
    List.range t.links.length ++ (run requests t).1.filterMap Answer.link? =
      List.range (run requests t).2.links.length := by
  induction requests generalizing t with
  | nil => simp [run]
  | cons r more ih =>
    have hfirst := (r.perform_path t).numbered
    have hmore := @ih (r.perform t).2
    rw [← hfirst, List.append_assoc] at hmore
    simp only [run]
    rw [← hmore]
    cases hid : (r.perform t).1.link? <;> simp [hid]

/-- Whatever has been asked of a topology that was empty: it is well formed, its links have been
numbered from zero on, and whatever is asked of it afterwards extends it. A request that is refused
leaves it as it was; a link that is accepted is found under the id in the answer. -/
theorem run_represents (done more : List Request) (r : Request) :
    let t := (run done empty).2
    t.WellFormed ∧ (∀ name, t.node? name = (t.index? name).bind (t.nodes[·]?)) ∧
      (run done empty).1.filterMap Answer.link? = List.range t.links.length ∧
      t.Extends (run more t).2 ∧
      (∀ fault, (r.perform t).1 = .refused fault → (r.perform t).2 = t) ∧
      ∀ id, (r.perform t).1 = .linked id →
        ∃ l, r = .addLink l ∧ id = t.links.length ∧ (r.perform t).2.link? id = some l := by
  intro t
  have hwell : t.WellFormed := (run_built done .empty).wellFormed
  have path := r.perform_path t
  refine ⟨hwell, hwell.node?_eq_index, ?_, run_extends more, ?_, ?_⟩
  · exact run_numbered (t := empty) done
  · intro fault hrefused
    generalize r.perform t = result at path hrefused
    cases path <;> first | rfl | cases hrefused
  · intro id hlinked
    generalize r.perform t = result at path hlinked
    cases path with
    | @link l _ t' ok =>
      obtain ⟨-, rfl, rfl⟩ := addLink_ok ok
      cases hlinked
      exact ⟨l, rfl, rfl, by simp [link?]⟩
    | _ => cases hlinked

end OpticalTestbed.Topology
