import OpticalTestbed.Proofs.BindReport
import OpticalTestbed.Proofs.Held
/-!
What a recovery and a binding pass have in common: both go through the detached links whose taps a
`sys.config` names. A recovery records all of them and asks nobody; a binding pass records those for
which no call fails.
-/
namespace OpticalTestbed

/-- No call fails. -/
def Unfailing (trace : List Occurrence) : Prop := ∀ c ∈ trace, ∀ e, ¬c.event.FailsWith e

/-- A link of a ROADM, with the tap that a `sys.config` names for it. -/
structure Finding where
  roadm : String
  link : LinkId
  tap : String

namespace Finding

def place (f : Finding) : String × LinkId := (f.roadm, f.link)

/-- What is listed as attached once the finding is recorded. -/
def entry (f : Finding) : LinkId × String := (f.link, f.tap)

end Finding

namespace Bindings

variable {o : Outside} {t : Topology} {b : Bindings} {w : World} {name : String} {link : LinkId}
  {links : List LinkId} {names : List String} {sysConfig : String} {roadm : Node} {f : Finding}
  {fs found found' : List Finding}

/-- Marks the links of findings as attached, one after the other. -/
def record (b : Bindings) (fs : List Finding) : Bindings :=
  fs.foldl (fun b f => b.markAttached f.roadm f.link f.tap) b

theorem record_append (b : Bindings) (fs gs : List Finding) :
    b.record (fs ++ gs) = (b.record fs).record gs := List.foldl_append

/-- What is found among some links of a ROADM. -/
def findingsAmong (t : Topology) (sysConfig : String) (roadm : Node) (links : List LinkId) :
    List Finding :=
  links.filterMap fun link => (tapFor t sysConfig roadm link).map (⟨roadm.name, link, ·⟩)

/-- What is found among the detached links of a ROADM. -/
def findingsOn (b : Bindings) (t : Topology) (sysConfig name : String) : List Finding :=
  match b.roadm? name, t.node? name with
  | some r, some node => findingsAmong t sysConfig node r.detached.toList
  | _, _ => []

/-- What is found among all detached links, ROADM after ROADM. -/
def findings (b : Bindings) (t : Topology) (sysConfig : String) : List Finding :=
  b.roadmNames.flatMap (b.findingsOn t sysConfig)

theorem findingsOn_eq {r : RoadmBindings} (hr : b.roadm? name = some r)
    (hnode : t.node? name = some roadm) :
    b.findingsOn t sysConfig name = findingsAmong t sysConfig roadm r.detached.toList := by
  simp only [findingsOn, hr, hnode]

theorem findingsOn_eq_nil
    (h : ∀ r roadm, b.roadm? name = some r → t.node? name = some roadm → False) :
    b.findingsOn t sysConfig name = [] := by
  unfold findingsOn
  split
  · rename_i r roadm hr hnode
    exact absurd hnode (h r roadm hr)
  · rfl

theorem mem_findingsOn (h : f ∈ b.findingsOn t sysConfig name) :
    f.roadm = name ∧ ∃ r, b.roadm? name = some r ∧ f.link ∈ r.detached.toList := by
  unfold findingsOn at h
  split at h
  · rename_i r node hr hnode
    obtain ⟨-, rfl⟩ := Topology.node?_mem hnode
    obtain ⟨link, hl, hf⟩ := List.mem_filterMap.1 h
    obtain ⟨tap, -, rfl⟩ := Option.map_eq_some_iff.1 hf
    exact ⟨rfl, r, hr, hl⟩
  · cases h

theorem roadm?_record (h : ∀ f ∈ fs, f.roadm ≠ name) : (b.record fs).roadm? name = b.roadm? name := by
  induction fs generalizing b with
  | nil => rfl
  | cons f fs ih =>
    obtain ⟨hf, hfs⟩ := List.forall_mem_cons.1 h
    have hmark : (b.markAttached f.roadm f.link f.tap).roadm? name = b.roadm? name := by
      rw [markAttached, roadm?_update, if_neg hf.symm]
    exact (ih hfs).trans hmark

/-- What is recorded for one ROADM does not change what is found among the links of another. -/
theorem findingsOn_record {name' : String} (hfs : ∀ f ∈ fs, f.roadm = name) (hne : name' ≠ name) :
    (b.record fs).findingsOn t sysConfig name' = b.findingsOn t sysConfig name' := by
  have hroadm : ∀ f ∈ fs, f.roadm ≠ name' := by
    rintro f hf rfl
    exact hne (hfs f hf)
  rw [findingsOn, roadm?_record hroadm, ← findingsOn]

section Recovering

theorem findingsAmong_cons_of_none (h : tapFor t sysConfig roadm link = none) :
    findingsAmong t sysConfig roadm (link :: links) = findingsAmong t sysConfig roadm links :=
  List.filterMap_cons_none (by rw [h]; rfl)

theorem findingsAmong_cons_of_some {tap : String} (h : tapFor t sysConfig roadm link = some tap) :
    findingsAmong t sysConfig roadm (link :: links) =
      ⟨roadm.name, link, tap⟩ :: findingsAmong t sysConfig roadm links :=
  List.filterMap_cons_some (by rw [h]; rfl)

theorem tapFor_eq {ends : Endpoint × Endpoint} (h : t.crossConnectEnds? link = some ends) :
    tapFor t sysConfig roadm link = (tapBehind sysConfig roadm.dpid ends.1.port).toOption := by
  rw [tapFor, h]
  rfl

theorem recoverLinks_eq (sysConfig : String) (roadm : Node) (links : List LinkId) (b : Bindings) :
    recoverLinks t sysConfig roadm links b =
      ((findingsAmong t sysConfig roadm links).length,
        b.record (findingsAmong t sysConfig roadm links)) := by
  induction links generalizing b with
  | nil => rfl
  | cons link more ih =>
    simp only [recoverLinks]
    split
    · rename_i hends
      rw [findingsAmong_cons_of_none (by rw [tapFor, hends]; rfl), ih]
    · rename_i ends packetEnd hends
      split
      · rename_i tap htap
        rw [findingsAmong_cons_of_some (by rw [tapFor_eq hends, htap]; rfl), ih]
        rfl
      · rename_i miss
        rw [findingsAmong_cons_of_none (by rw [tapFor_eq hends, miss]; rfl), ih]

theorem recoverEach_eq (hn : names.Nodup) (b : Bindings) :
    recoverEach t sysConfig names b = ((names.flatMap (b.findingsOn t sysConfig)).length,
      b.record (names.flatMap (b.findingsOn t sysConfig))) := by
  induction names generalizing b with
  | nil => rfl
  | cons name more ih =>
    obtain ⟨hname, hmore⟩ := List.nodup_cons.1 hn
    simp only [recoverEach, List.flatMap_cons]
    split
    · rename_i node r hnode hr
      have hlater : more.flatMap ((b.record (b.findingsOn t sysConfig name)).findingsOn t sysConfig) =
          more.flatMap (b.findingsOn t sysConfig) :=
        List.flatMap_congr fun name' hmem =>
          findingsOn_record (fun f hf => (mem_findingsOn hf).1) fun he => hname (he ▸ hmem)
      rw [recoverLinks_eq, ← findingsOn_eq hr hnode, ih hmore, hlater, record_append,
        List.length_append]
    · rename_i hnone
      have hon : b.findingsOn t sysConfig name = [] :=
        findingsOn_eq_nil fun r node hr hnode => hnone node r hnode hr
      rw [hon, ih hmore, List.nil_append]

/-- A recovery records all that is found, and tells how much that is. -/
theorem recover_eq (b : Bindings) (t : Topology) (sysConfig : String) :
    b.recover t sysConfig =
      ((b.findings t sysConfig).length, b.record (b.findings t sysConfig)) :=
  recoverEach_eq (Dict.nodup_keys _) b

end Recovering

section Binding

/-- A binding pass records some findings in turn, and all of them if no call fails; it reports as
bound what it records. -/
def TakesUp (b : Bindings) (w : World) (found : List Finding)
    (result : BindReport × Bindings × World) : Prop :=
  ∃ fs trace, fs.Sublist found ∧ result.1.bound = fs.map Finding.entry ∧
    result.2.1 = b.record fs ∧ w.Traces result.2.2 trace ∧ (Unfailing trace → fs = found)

theorem takesUp_nothing : b.TakesUp w [] (.empty, b, w) :=
  ⟨[], [], .refl _, rfl, rfl, World.traces_of_history_eq rfl, fun _ => rfl⟩

theorem TakesUp.append {b' b'' : Bindings} {w' w'' : World} {r r' : BindReport}
    (h : b.TakesUp w found (r, b', w')) (h' : b'.TakesUp w' found' (r', b'', w'')) :
    b.TakesUp w (found ++ found') (r.append r', b'', w'') := by
  obtain ⟨fs, trace, hsub, hbound, rfl, htrace, hall⟩ := h
  obtain ⟨gs, trace', hsub', hbound', rfl, htrace', hall'⟩ := h'
  refine ⟨fs ++ gs, trace ++ trace', hsub.append hsub', ?_, (record_append b fs gs).symm,
    htrace.append htrace', fun hu => ?_⟩
  · have hboth : r.bound ++ r'.bound = fs.map Finding.entry ++ gs.map Finding.entry :=
      congrArg₂ (· ++ ·) hbound hbound'
    rw [List.map_append, ← hboth]
    rfl
  · obtain ⟨hu, hu'⟩ := List.forall_mem_append.1 hu
    rw [hall hu, hall' hu']

/-- An attempt attaches the tap that was found. It fails if there is none, or if a call does. -/
theorem takesUp_attachLink {ends : Endpoint × Endpoint} (sysConfig : String) (roadm : Node)
    (h : t.crossConnectEnds? link = some ends) :
    match attachLink o sysConfig roadm ends.1 ends.2 w with
    | (.ok tap, w') => b.TakesUp w (findingsAmong t sysConfig roadm [link])
        (⟨[(link, tap)], []⟩, b.markAttached roadm.name link tap, w')
    | (.error e, w') => b.TakesUp w (findingsAmong t sysConfig roadm [link]) (⟨[], [e]⟩, b, w') := by
  cases hfound : tapBehind sysConfig roadm.dpid ends.1.port with
  | error miss =>
    have hnone : findingsAmong t sysConfig roadm [link] = [] :=
      findingsAmong_cons_of_none (by rw [tapFor_eq h, hfound]; rfl)
    rw [attachLink_missed hfound, hnone]
    exact ⟨[], [], .refl _, rfl, rfl, World.traces_of_history_eq rfl, fun _ => rfl⟩
  | ok tap =>
    have hone : findingsAmong t sysConfig roadm [link] = [⟨roadm.name, link, tap⟩] :=
      findingsAmong_cons_of_some (by rw [tapFor_eq h, hfound]; rfl)
    obtain ⟨trace, htrace, hfails⟩ := attachLink_calls hfound o ends.2 w
    have path := attachLink_path o sysConfig roadm ends.1 ends.2 w
    generalize attachLink o sysConfig roadm ends.1 ends.2 w = result at htrace hfails path
    obtain ⟨answer, w'⟩ := result
    rw [hone]
    cases answer with
    | ok tap' =>
      obtain rfl : tap' = tap := by
        cases path with
        | accepted found => exact Except.ok.inj (found.symm.trans hfound)
      exact ⟨[_], trace, .refl _, rfl, rfl, htrace, fun _ => rfl⟩
    | error e =>
      refine ⟨[], trace, List.nil_sublist _, rfl, rfl, htrace, fun hu => ?_⟩
      obtain ⟨c, hc, he⟩ := (hfails e).1 rfl
      exact absurd he (hu c hc e)

theorem takesUp_bindLinks (sysConfig : String) (roadm : Node) (links : List LinkId)
    (b : Bindings) (w : World) : b.TakesUp w (findingsAmong t sysConfig roadm links)
      (bindLinks o t sysConfig roadm links b w) := by
  induction links generalizing b w with
  | nil => exact takesUp_nothing
  | cons link more ih =>
    simp only [bindLinks]
    split
    · rename_i hends
      rw [findingsAmong_cons_of_none (by rw [tapFor, hends]; rfl)]
      exact ih b w
    · rename_i roadmEnd packetEnd hends
      have hsplit : findingsAmong t sysConfig roadm (link :: more) =
          findingsAmong t sysConfig roadm [link] ++ findingsAmong t sysConfig roadm more :=
        List.filterMap_append (l := [link])
      have hfirst := takesUp_attachLink (o := o) (b := b) (w := w) sysConfig roadm hends
      rw [hsplit]
      split
      · rename_i hattached
        rw [hattached] at hfirst
        exact hfirst.append (ih _ _)
      · rename_i hrefused
        rw [hrefused] at hfirst
        exact hfirst.append (ih _ _)

theorem takesUp_bindDetached (sysConfig name : String) (b : Bindings) (w : World) :
    b.TakesUp w (b.findingsOn t sysConfig name) (b.bindDetached o t sysConfig name w) := by
  unfold bindDetached
  split
  · rename_i r roadm hr hnode
    rw [findingsOn_eq hr hnode]
    exact takesUp_bindLinks sysConfig roadm _ b w
  · rename_i hnone
    rw [findingsOn_eq_nil hnone]
    exact takesUp_nothing

/-- What is taken up on one ROADM does not change what is found on another. -/
theorem TakesUp.findingsOn {result : BindReport × Bindings × World} {name' : String}
    (h : b.TakesUp w (b.findingsOn t sysConfig name) result) (hne : name' ≠ name) :
    result.2.1.findingsOn t sysConfig name' = b.findingsOn t sysConfig name' := by
  obtain ⟨fs, -, hsub, -, htable, -⟩ := h
  rw [htable]
  exact findingsOn_record (fun f hf => (mem_findingsOn (hsub.subset hf)).1) hne

theorem takesUp_bindEach (sysConfig : String) (hn : names.Nodup) (b : Bindings) (w : World) :
    b.TakesUp w (names.flatMap (b.findingsOn t sysConfig)) (bindEach o t sysConfig names b w) := by
  induction names generalizing b w with
  | nil => exact takesUp_nothing
  | cons name more ih =>
    obtain ⟨hname, hmore⟩ := List.nodup_cons.1 hn
    have hfirst := takesUp_bindDetached (o := o) (t := t) sysConfig name b w
    have hlater : more.flatMap ((b.bindDetached o t sysConfig name w).2.1.findingsOn t sysConfig) =
        more.flatMap (b.findingsOn t sysConfig) :=
      List.flatMap_congr fun name' hmem => hfirst.findingsOn fun he => hname (he ▸ hmem)
    have hrest := ih hmore (b.bindDetached o t sysConfig name w).2.1
      (b.bindDetached o t sysConfig name w).2.2
    rw [hlater] at hrest
    exact hfirst.append hrest

/-- A binding pass records what a recovery would, save that it leaves out what a call fails for. -/
theorem takesUp_bindAll (o : Outside) (t : Topology) (b : Bindings) (sysConfig : String)
    (w : World) : b.TakesUp w (b.findings t sysConfig) (b.bindAll o t sysConfig w) :=
  takesUp_bindEach sysConfig (Dict.nodup_keys _) b w

end Binding

section Recording

/-- Findings that may be recorded: of cross-connects without a tap, each once. -/
structure Recordable (b : Bindings) (t : Topology) (fs : List Finding) : Prop where
  known : ∀ f ∈ fs, f.roadm ∈ b.roadmNames
  free : ∀ f ∈ fs, f.link ∈ t.crossConnectsOf f.roadm ∧ b.tap? f.roadm f.link = none
  nodup : (fs.map Finding.place).Nodup

theorem Recordable.sublist (h : b.Recordable t found) (hsub : fs.Sublist found) :
    b.Recordable t fs where
  known f hf := h.known f (hsub.subset hf)
  free f hf := h.free f (hsub.subset hf)
  nodup := h.nodup.sublist (hsub.map _)

theorem Recordable.markAttached (h : b.Recordable t (f :: fs)) :
    (b.markAttached f.roadm f.link f.tap).Recordable t fs where
  known g hg := (mem_roadmNames_update _ _).2 (h.known g (List.mem_cons_of_mem _ hg))
  free := by
    intro g hg
    obtain ⟨hmem, hfree⟩ := h.free g (List.mem_cons_of_mem _ hg)
    refine ⟨hmem, ?_⟩
    rw [tap?_markAttached (h.known f List.mem_cons_self), if_neg, hfree]
    rintro ⟨hroadm, hlink⟩
    have hplace : g.place = f.place := Prod.ext hroadm hlink
    exact (List.nodup_cons.1 h.nodup).1 (hplace ▸ List.mem_map_of_mem hg)
  nodup := (List.nodup_cons.1 h.nodup).2

theorem Consistent.record (h : b.Consistent t) (hr : b.Recordable t fs) :
    (b.record fs).Consistent t := by
  induction fs generalizing b with
  | nil => exact h
  | cons f fs ih =>
    have hlink := (hr.free f List.mem_cons_self).1
    exact ih (h.markAttached hlink f.tap) hr.markAttached

/-- Each finding that is recorded adds one entry to what is attached. -/
theorem attached_record (hr : b.Recordable t fs) :
    (b.record fs).attached.Perm (fs.map Finding.entry ++ b.attached) := by
  induction fs generalizing b with
  | nil => exact .refl _
  | cons f fs ih =>
    have hfirst := attached_markAttached (hr.known f List.mem_cons_self)
      (hr.free f List.mem_cons_self).2 f.tap
    exact (ih hr.markAttached).trans ((hfirst.append_left _).trans List.perm_middle)

theorem nodup_findingsAmong (h : links.Nodup) :
    ((findingsAmong t sysConfig roadm links).map Finding.place).Nodup := by
  rw [findingsAmong, List.map_filterMap]
  refine h.filterMap fun link link' place hp hp' => ?_
  simp only [Option.map_map, Option.mem_def, Option.map_eq_some_iff] at hp hp'
  obtain ⟨_, -, rfl⟩ := hp
  obtain ⟨_, -, hplace⟩ := hp'
  exact (congrArg Prod.snd hplace).symm

/-- What is found may be recorded. -/
theorem Consistent.recordable_findings (h : b.Consistent t) (sysConfig : String) :
    b.Recordable t (b.findings t sysConfig) := by
  have hfound : ∀ f ∈ b.findings t sysConfig, ∃ links, b.Pending t f.roadm links ∧ f.link ∈ links := by
    intro f hf
    obtain ⟨name, -, hf⟩ := List.mem_flatMap.1 hf
    obtain ⟨rfl, r, hr, hl⟩ := mem_findingsOn hf
    exact ⟨_, h.pending hr, hl⟩
  refine ⟨fun f hf => ?_, fun f hf => ?_, ?_⟩
  · obtain ⟨links, hp, -⟩ := hfound f hf
    exact hp.known
  · obtain ⟨links, hp, hl⟩ := hfound f hf
    exact hp.free _ hl
  · rw [findings, List.map_flatMap, List.nodup_flatMap]
    refine ⟨fun name _ => ?_, (Dict.nodup_keys b.roadms).imp fun hne => ?_⟩
    · unfold findingsOn
      split
      · exact nodup_findingsAmong (Dict.nodup_keys _)
      · exact List.nodup_nil
    · refine List.disjoint_left.2 fun place hp hp' => hne ?_
      obtain ⟨f, hf, rfl⟩ := List.mem_map.1 hp
      obtain ⟨g, hg, hplace⟩ := List.mem_map.1 hp'
      rw [← (mem_findingsOn hf).1, ← (mem_findingsOn hg).1]
      exact (congrArg Prod.fst hplace).symm

end Recording

/-- A recovery moves certain links, each from the detached to the attached ones, and asks nobody. A
binding pass over the same bindings attaches no others, and the very same ones if no call fails. -/
structure Recovers (o : Outside) (t : Topology) (b : Bindings) (sysConfig : String) (w : World)
    (moved : List (LinkId × String)) : Prop where
  count : (b.recover t sysConfig).1 = moved.length
  attached : (b.recover t sysConfig).2.attached.Perm (moved ++ b.attached)
  consistent : (b.recover t sysConfig).2.isConsistent t = true
  silent : (Pass.recover sysConfig).run o t b w = ((b.recover t sysConfig).2, w)
  bound : (b.bindAll o t sysConfig w).1.bound.Sublist moved
  binds : (b.bindAll o t sysConfig w).2.1.attached.Perm
    ((b.bindAll o t sysConfig w).1.bound ++ b.attached)
  unfailing : ∃ trace, w.Traces (b.bindAll o t sysConfig w).2.2 trace ∧
    (Unfailing trace → (b.bindAll o t sysConfig w).2.1 = (b.recover t sysConfig).2 ∧
      (b.bindAll o t sysConfig w).1.bound = moved)

theorem Consistent.recovers (h : b.Consistent t) (o : Outside) (sysConfig : String) (w : World) :
    Recovers o t b sysConfig w ((b.findings t sysConfig).map Finding.entry) := by
  have hr := h.recordable_findings sysConfig
  obtain ⟨fs, trace, hsub, hbound, htable, htrace, hall⟩ := takesUp_bindAll o t b sysConfig w
  constructor
  case count => rw [recover_eq, List.length_map]
  case attached => rw [recover_eq]; exact attached_record hr
  case consistent => rw [recover_eq]; exact isConsistent_iff.2 (h.record hr)
  case silent => rfl
  case bound => rw [hbound]; exact hsub.map _
  case binds => rw [htable, hbound]; exact attached_record (hr.sublist hsub)
  case unfailing =>
    refine ⟨trace, htrace, fun hu => ?_⟩
    rw [htable, hbound, recover_eq, hall hu]
    exact ⟨rfl, rfl⟩

/-- What a binding pass from nothing records, a recovery from nothing records too. -/
theorem Records.recover {node tap : String}
    (h : ((ofTopology t).bindAll o t sysConfig w).2.1.Records t node tap) :
    ((ofTopology t).recover t sysConfig).2.Records t node tap := by
  have hr := Consistent.recovers (accounts_ofTopology t).links o sysConfig w
  obtain ⟨link, ends, hmem, he, hn⟩ := h
  have hbound := hr.binds.mem_iff.1 hmem
  rw [attached_ofTopology, List.append_nil] at hbound
  exact ⟨link, ends, hr.attached.mem_iff.2 (List.mem_append_left _ (hr.bound.subset hbound)), he, hn⟩

end Bindings

end OpticalTestbed
