import OpticalTestbed.Bindings
import OpticalTestbed.Proofs.Topology.Built
/-!
Bindings that account for a topology: the ROADMs are those of the topology, and each of their
cross-connects is either attached or detached.
-/
namespace OpticalTestbed

namespace RoadmBindings

variable {r : RoadmBindings} {links : List LinkId}

/-- Every link is either attached or detached, and no others are. -/
structure Accounts (r : RoadmBindings) (links : List LinkId) : Prop where
  apart : ∀ link ∈ r.attached.keys, link ∉ r.detached.toList
  all : ∀ link, link ∈ r.attached.keys ∨ link ∈ r.detached.toList ↔ link ∈ links

theorem accounts_allDetached (links : List LinkId) : (allDetached links).Accounts links where
  apart := by simp [allDetached]
  all := by simp [allDetached]

theorem Accounts.markAttached (h : r.Accounts links) {link : LinkId} (hl : link ∈ links)
    (tap : String) : (r.markAttached link tap).Accounts links where
  apart := by
    intro x hx hd
    obtain ⟨hne, hd⟩ := (KeySet.mem_toList_erase _ _ _).1 hd
    exact h.apart x (((Dict.mem_keys_insert _ _ _ _).1 hx).resolve_left hne) hd
  all := by
    intro x
    have hx := h.all x
    simp only [RoadmBindings.markAttached, Dict.mem_keys_insert, KeySet.mem_toList_erase]
    by_cases he : x = link
    · subst x; simp [hl]
    · simpa [he] using hx

theorem Accounts.markDetached (h : r.Accounts links) {link : LinkId} (hl : link ∈ links) :
    (r.markDetached link).Accounts links where
  apart := by
    intro x hx hd
    obtain ⟨hne, hx⟩ := (Dict.mem_keys_erase _ _ _).1 hx
    exact h.apart x hx (((KeySet.mem_toList_add _ _ _).1 hd).resolve_left hne)
  all := by
    intro x
    have hx := h.all x
    simp only [RoadmBindings.markDetached, Dict.mem_keys_erase, KeySet.mem_toList_add]
    by_cases he : x = link
    · subst x; simp [hl]
    · simpa [he] using hx

/-- Accounting for links is what `covers` tests. -/
theorem covers_iff : r.covers links = true ↔ r.Accounts links := by
  have htoList : ∀ s s' : KeySet LinkId, s.toList = s'.toList ↔ ∀ x, x ∈ s.toList ↔ x ∈ s'.toList :=
    fun s s' => ⟨fun h x => by rw [h], Dict.keys_eq_of_mem_iff⟩
  simp only [covers, Bool.and_eq_true, List.all_eq_true, Bool.not_eq_true', decide_eq_true_eq,
    htoList, KeySet.mem_toList_ofList, List.mem_append]
  constructor
  · rintro ⟨hapart, hall⟩
    refine ⟨fun link hl hd => ?_, hall⟩
    have hc := hapart link hl
    rw [KeySet.contains_iff.2 hd] at hc
    cases hc
  · rintro h
    refine ⟨fun link hl => ?_, h.all⟩
    exact Bool.eq_false_iff.2 fun hc => h.apart link hl (KeySet.contains_iff.1 hc)

end RoadmBindings

namespace Bindings

variable {b : Bindings} {t : Topology} {name : String} {link : LinkId}

/-- The tap that is recorded for a link of a ROADM. -/
def tap? (b : Bindings) (name : String) (link : LinkId) : Option String :=
  (b.roadm? name).bind (·.attached.get? link)

/-- The ROADMs are those of the topology, and the links of each are accounted for. -/
structure Accounts (b : Bindings) (t : Topology) : Prop where
  names : ∀ name, name ∈ b.roadmNames ↔ ∃ n ∈ t.nodes, n.isRoadm = true ∧ n.name = name
  links : ∀ name r, b.roadm? name = some r → r.Accounts (t.crossConnectsOf name)

theorem roadm?_ofTopology {r : RoadmBindings} (h : (ofTopology t).roadm? name = some r) :
    r = .allDetached (t.crossConnectsOf name) := by
  have hr := Dict.mem_of_mem_ofList (Dict.get?_eq_some_iff.1 h)
  obtain ⟨n, -, he⟩ := List.mem_map.1 hr
  obtain ⟨rfl, rfl⟩ := Prod.mk.inj he
  rfl

theorem accounts_ofTopology (t : Topology) : (ofTopology t).Accounts t where
  names := by
    intro name
    simp [ofTopology, roadmNames, and_assoc]
  links := by
    intro name r h
    rw [roadm?_ofTopology h]
    exact RoadmBindings.accounts_allDetached _

/-- Nothing is recorded at first. -/
theorem tap?_ofTopology : (ofTopology t).tap? name link = none := by
  unfold tap?
  cases hr : (ofTopology t).roadm? name with
  | none => rfl
  | some r => rw [roadm?_ofTopology hr]; rfl

theorem roadm?_update (f : RoadmBindings → RoadmBindings) (name' : String) :
    (b.update name f).roadm? name' =
      if name' = name then (b.roadm? name).map f else b.roadm? name' := by
  simp only [update]
  split
  · rename_i r hr
    simp only [roadm?] at hr ⊢
    rw [Dict.get?_insert, hr, Option.map_some]
  · rename_i hr
    split
    · rename_i he; rw [he, hr, Option.map_none]
    · rfl

theorem mem_roadmNames {name : String} : name ∈ b.roadmNames ↔ (b.roadm? name).isSome = true :=
  Dict.isSome_get?_iff.symm

@[simp] theorem mem_roadmNames_update (f : RoadmBindings → RoadmBindings) (name' : String) :
    name' ∈ (b.update name f).roadmNames ↔ name' ∈ b.roadmNames := by
  simp only [mem_roadmNames, roadm?_update]
  split
  · rename_i he; simp [he]
  · rfl

/-- The bindings of every ROADM account for its cross-connects. -/
def Consistent (b : Bindings) (t : Topology) : Prop :=
  ∀ name r, b.roadm? name = some r → r.Accounts (t.crossConnectsOf name)

theorem isConsistent_iff : b.isConsistent t = true ↔ b.Consistent t := by
  simp only [Bindings.isConsistent, List.all_eq_true]
  constructor
  · intro h name r hr
    exact RoadmBindings.covers_iff.1 (h (name, r) (Dict.get?_eq_some_iff.1 hr))
  · intro h e he
    exact RoadmBindings.covers_iff.2 (h e.1 e.2 (Dict.get?_eq_some_iff.2 he))

/-- Changing one ROADM keeps bindings consistent if it keeps the account of that ROADM. -/
theorem Consistent.update (h : b.Consistent t) {f : RoadmBindings → RoadmBindings}
    (hf : ∀ r, r.Accounts (t.crossConnectsOf name) → (f r).Accounts (t.crossConnectsOf name)) :
    (b.update name f).Consistent t := by
  intro name' r hr
  rw [roadm?_update] at hr
  split at hr
  · rename_i he
    obtain ⟨r', hr', rfl⟩ := Option.map_eq_some_iff.1 hr
    exact he ▸ hf r' (h name r' hr')
  · exact h name' r hr

theorem Consistent.markAttached (h : b.Consistent t) (hl : link ∈ t.crossConnectsOf name)
    (tap : String) : (b.markAttached name link tap).Consistent t :=
  h.update fun _ hr => hr.markAttached hl tap

/-- Changing one ROADM keeps the account if it keeps that ROADM's. -/
theorem Accounts.update (h : b.Accounts t) {f : RoadmBindings → RoadmBindings}
    (hf : ∀ r, r.Accounts (t.crossConnectsOf name) → (f r).Accounts (t.crossConnectsOf name)) :
    (b.update name f).Accounts t where
  names := by simpa using h.names
  links := Consistent.update h.links hf

theorem Accounts.markAttached (h : b.Accounts t) (hl : link ∈ t.crossConnectsOf name)
    (tap : String) : (b.markAttached name link tap).Accounts t :=
  h.update fun _ hr => hr.markAttached hl tap

theorem Accounts.markDetached (h : b.Accounts t) (hl : link ∈ t.crossConnectsOf name) :
    (b.markDetached name link).Accounts t :=
  h.update fun _ hr => hr.markDetached hl

theorem tap?_update (f : RoadmBindings → RoadmBindings) (name' : String) (link' : LinkId) :
    (b.update name f).tap? name' link' =
      if name' = name then (b.roadm? name).bind (fun r => (f r).attached.get? link')
      else b.tap? name' link' := by
  simp only [tap?, roadm?_update]
  split
  · rw [Option.bind_map]; rfl
  · rfl

theorem tap?_markAttached (h : name ∈ b.roadmNames) (tap : String) (name' : String)
    (link' : LinkId) : (b.markAttached name link tap).tap? name' link' =
      if name' = name ∧ link' = link then some tap else b.tap? name' link' := by
  obtain ⟨r, hr⟩ := Option.isSome_iff_exists.1 (mem_roadmNames.1 h)
  simp only [Bindings.markAttached, tap?_update, RoadmBindings.markAttached, Dict.get?_insert]
  by_cases hn : name' = name <;> simp [tap?, hn, hr]

theorem tap?_markDetached (name' : String) (link' : LinkId) :
    (b.markDetached name link).tap? name' link' =
      if name' = name ∧ link' = link then none else b.tap? name' link' := by
  simp only [Bindings.markDetached, tap?_update, RoadmBindings.markDetached, Dict.get?_erase]
  by_cases hn : name' = name <;> by_cases hl : link' = link <;> simp [tap?, hn, hl]

theorem mem_attached {tap : String} :
    (link, tap) ∈ b.attached ↔ ∃ name, b.tap? name link = some tap := by
  simp only [Bindings.attached, Dict.values, List.mem_flatMap, List.mem_map, tap?, roadm?,
    Option.bind_eq_some_iff, Dict.get?_eq_some_iff]
  constructor
  · rintro ⟨r, ⟨e, he, rfl⟩, hl⟩
    exact ⟨e.1, e.2, he, hl⟩
  · rintro ⟨name, r, he, hl⟩
    exact ⟨r, ⟨(name, r), he, rfl⟩, hl⟩

theorem attached_ofTopology (t : Topology) : (ofTopology t).attached = [] := by
  refine List.eq_nil_iff_forall_not_mem.2 fun ⟨link, tap⟩ hmem => ?_
  obtain ⟨name, htap⟩ := mem_attached.1 hmem
  rw [tap?_ofTopology] at htap
  cases htap

/-- A link that had no tap adds one entry to what is attached. -/
theorem attached_markAttached (hk : name ∈ b.roadmNames) (hfree : b.tap? name link = none)
    (tap : String) : (b.markAttached name link tap).attached.Perm ((link, tap) :: b.attached) := by
  obtain ⟨r, hr⟩ := Option.isSome_iff_exists.1 (mem_roadmNames.1 hk)
  have hnone : r.attached.get? link = none := by simpa [tap?, hr] using hfree
  have hlinks : (r.markAttached link tap).attached.entries.Perm
      ((link, tap) :: r.attached.entries) := by
    have hinsert := Dict.entries_insert_perm r.attached link tap
    rwa [Dict.erase_of_get?_none hnone] at hinsert
  have hflat : ∀ d : Dict String RoadmBindings,
      d.values.flatMap (·.attached.entries) = d.entries.flatMap (·.2.attached.entries) :=
    fun d => List.flatMap_map ..
  have hafter := (Dict.entries_insert_perm b.roadms name (r.markAttached link tap)).flatMap_right
    (·.2.attached.entries)
  have hbefore := (Dict.entries_perm_of_get? hr).flatMap_right (·.2.attached.entries)
  rw [List.flatMap_cons] at hafter hbefore
  simp only [Bindings.attached, Bindings.markAttached, update, hr, hflat]
  exact hafter.trans ((hlinks.append_right _).trans (hbefore.symm.cons _))

/-- Recorded links are cross-connects of their ROADM. -/
theorem Accounts.of_tap? (h : b.Accounts t) {tap : String} (ht : b.tap? name link = some tap) :
    link ∈ t.crossConnectsOf name := by
  obtain ⟨r, hr, hl⟩ := Option.bind_eq_some_iff.1 ht
  exact ((h.links name r hr).all link).1 (.inl (Dict.mem_keys.2 ⟨tap, Dict.get?_eq_some_iff.1 hl⟩))

theorem Accounts.isConsistent (h : b.Accounts t) : b.isConsistent t = true :=
  isConsistent_iff.2 h.links

end Bindings

end OpticalTestbed
