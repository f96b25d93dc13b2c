import OpticalTestbed.Proofs.Passes
/-!
Which taps are recorded after a pass: none after everything was detached, and after a recovery those
that the `sys.config` names.
-/
namespace OpticalTestbed.Bindings

variable {o : Outside} {t : Topology} {b : Bindings} {w : World} {name name' : String}
  {link link' : LinkId}

theorem tap?_unbindLinks (name : String) (taps : List (LinkId × String)) :
    (unbindLinks o t name taps b w).2.1.tap? name' link' =
      if name' = name ∧ link' ∈ taps.map (·.1) then none else b.tap? name' link' := by
  induction taps generalizing b w with
  | nil => simp [unbindLinks]
  | cons e more ih =>
    obtain ⟨link, tap⟩ := e
    have hmark : (b.markDetached name link).tap? name' link' = _ := tap?_markDetached name' link'
    simp only [unbindLinks, List.map_cons, List.mem_cons]
    split <;> rw [ih, hmark] <;> grind

theorem tap?_unbind (name : String) :
    (b.unbind o t name w).2.1.tap? name' link' =
      if name' = name then none else b.tap? name' link' := by
  unfold Bindings.unbind
  by_cases hn : name' = name
  · subst name'
    split
    · rename_i r hr
      rw [tap?_unbindLinks, if_pos rfl]
      split
      · rfl
      · rename_i hl
        have hk : link' ∉ r.attached.keys := fun hk => hl ⟨rfl, hk⟩
        simpa [tap?, hr] using Dict.get?_eq_none_iff.2 hk
    · rename_i hr
      simp [tap?, hr]
  · split
    · rw [tap?_unbindLinks]
      simp [hn]
    · simp [hn]

theorem tap?_unbindEach (names : List String) :
    (unbindEach o t names b w).2.1.tap? name' link' =
      if name' ∈ names then none else b.tap? name' link' := by
  induction names generalizing b w with
  | nil => simp [unbindEach]
  | cons name more ih =>
    simp only [unbindEach, ih, tap?_unbind, List.mem_cons]
    by_cases hn : name' = name <;> by_cases hm : name' ∈ more <;> simp [hn, hm]

/-- After everything was detached no tap is recorded, whatever the host answered. -/
theorem tap?_unbindAll : (b.unbindAll o t w).2.1.tap? name link = none := by
  rw [Bindings.unbindAll, tap?_unbindEach]
  split
  · rfl
  · rename_i hn
    have hr : b.roadm? name = none := by simpa [mem_roadmNames] using hn
    simp [tap?, hr]

/-- The tap that a `sys.config` names for a cross-connect of a ROADM. -/
def tapFor (t : Topology) (sysConfig : String) (roadm : Node) (link : LinkId) : Option String :=
  (t.crossConnectEnds? link).bind fun ends => (tapBehind sysConfig roadm.dpid ends.1.port).toOption

theorem tap?_recoverLinks (sysConfig : String) (roadm : Node) (links : List LinkId)
    (h : roadm.name ∈ b.roadmNames) :
    (recoverLinks t sysConfig roadm links b).2.tap? name' link' =
      if name' = roadm.name ∧ link' ∈ links then
        (tapFor t sysConfig roadm link').or (b.tap? name' link')
      else b.tap? name' link' := by
  induction links generalizing b with
  | nil => simp [recoverLinks]
  | cons link more ih =>
    have hmark : ∀ tap, (b.markAttached roadm.name link tap).tap? name' link' =
        if name' = roadm.name ∧ link' = link then some tap else b.tap? name' link' :=
      fun tap => tap?_markAttached h tap name' link'
    simp only [recoverLinks, List.mem_cons]
    split
    · rename_i hends
      have hf : tapFor t sysConfig roadm link = none := by simp [tapFor, hends]
      rw [ih h]
      by_cases hl : link' = link <;> simp [hl, hf]
    · rename_i ends packetEnd hends
      split
      · rename_i tap htap
        have hf : tapFor t sysConfig roadm link = some tap := by
          simp [tapFor, hends, htap, Except.toOption]
        have hk : roadm.name ∈ (b.markAttached roadm.name link tap).roadmNames :=
          (mem_roadmNames_update _ _).2 h
        simp only [ih hk, hmark]
        by_cases hn : name' = roadm.name <;> by_cases hl : link' = link <;> simp [hn, hl, hf]
      · rename_i miss
        have hf : tapFor t sysConfig roadm link = none := by
          simp [tapFor, hends, miss, Except.toOption]
        rw [ih h]
        by_cases hl : link' = link <;> simp [hl, hf]

theorem roadm?_recoverLinks (sysConfig : String) (roadm : Node) (links : List LinkId)
    (h : name ≠ roadm.name) :
    (recoverLinks t sysConfig roadm links b).2.roadm? name = b.roadm? name := by
  induction links generalizing b with
  | nil => rfl
  | cons link more ih =>
    simp only [recoverLinks]
    split
    · exact ih
    · split
      · rename_i tap _
        have hmark : (b.markAttached roadm.name link tap).roadm? name = b.roadm? name := by
          rw [Bindings.markAttached, roadm?_update, if_neg h]
        rw [ih, hmark]
      · exact ih

theorem roadm?_recoverEach (sysConfig : String) (names : List String) (h : name ∉ names) :
    (recoverEach t sysConfig names b).2.roadm? name = b.roadm? name := by
  induction names generalizing b with
  | nil => rfl
  | cons first more ih =>
    obtain ⟨hfirst, hmore⟩ := not_or.1 (List.mem_cons.not.1 h)
    simp only [recoverEach]
    split
    · rename_i node r hnode hr
      obtain ⟨-, rfl⟩ := Topology.node?_mem hnode
      rw [ih hmore, roadm?_recoverLinks sysConfig node _ hfirst]
    · exact ih hmore

theorem tap?_recoverEach (sysConfig : String) (names : List String) (hn : names.Nodup)
    (h : name ∈ names) {node : Node} {r : RoadmBindings} (hnode : t.node? name = some node)
    (hr : b.roadm? name = some r) :
    (recoverEach t sysConfig names b).2.tap? name link =
      if link ∈ r.detached.toList then (tapFor t sysConfig node link).or (b.tap? name link)
      else b.tap? name link := by
  induction names generalizing b with
  | nil => cases h
  | cons first more ih =>
    obtain ⟨hfirst, hmore⟩ := List.nodup_cons.1 hn
    simp only [recoverEach]
    by_cases he : name = first
    · subst first
      obtain ⟨-, rfl⟩ := Topology.node?_mem hnode
      have hk : node.name ∈ b.roadmNames := mem_roadmNames.2 (by rw [hr]; rfl)
      simp only [hnode, hr]
      rw [tap?, roadm?_recoverEach sysConfig more hfirst, ← tap?, tap?_recoverLinks _ _ _ hk]
      simp
    · have hm : name ∈ more := (List.mem_cons.1 h).resolve_left he
      split
      · rename_i node' r' hnode' hr'
        obtain ⟨-, rfl⟩ := Topology.node?_mem hnode'
        have hother := roadm?_recoverLinks (t := t) (b := b) sysConfig node' r'.detached.toList he
        rw [ih hmore hm (hother.trans hr), tap?, hother, ← tap?]
      · exact ih hmore hm hr

/-- What a recovery from nothing records: every tap that the `sys.config` names for a cross-connect,
and no other. -/
theorem tap?_recover (built : t.Built) (sysConfig : String) {tap : String} :
    ((ofTopology t).recover t sysConfig).2.tap? name link = some tap ↔
      ∃ roadm ∈ t.nodes, roadm.isRoadm = true ∧ roadm.name = name ∧
        link ∈ t.crossConnectsOf name ∧ tapFor t sysConfig roadm link = some tap := by
  have hacc := accounts_ofTopology t
  by_cases hn : name ∈ (ofTopology t).roadmNames
  · obtain ⟨roadm, hmem, hroadm, rfl⟩ := (hacc.names name).1 hn
    obtain ⟨r, hr⟩ := Option.isSome_iff_exists.1 (mem_roadmNames.1 hn)
    have hd : link ∈ r.detached.toList ↔ link ∈ t.crossConnectsOf roadm.name := by
      rw [roadm?_ofTopology hr]
      simp [RoadmBindings.allDetached]
    have hkeys : (ofTopology t).roadmNames.Nodup := Dict.nodup_keys _
    rw [recover, tap?_recoverEach sysConfig _ hkeys hn (built.node?_eq hmem) hr]
    simp only [hd, tap?_ofTopology, Option.or_none]
    constructor
    · intro h
      split at h
      · rename_i hl
        exact ⟨roadm, hmem, hroadm, rfl, hl, h⟩
      · cases h
    · rintro ⟨roadm', hmem', -, hname, hl, h⟩
      rw [List.inj_on_of_nodup_map built.names_nodup hmem' hmem hname] at h
      rw [if_pos hl, h]
  · rw [recover, tap?, roadm?_recoverEach sysConfig _ hn, ← tap?, tap?_ofTopology]
    constructor
    · intro h
      cases h
    · rintro ⟨roadm, hmem, hroadm, rfl, -, -⟩
      exact absurd ((hacc.names _).2 ⟨roadm, hmem, hroadm, rfl⟩) hn

end OpticalTestbed.Bindings
