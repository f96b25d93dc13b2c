import OpticalTestbed.Proofs.Tables
import OpticalTestbed.Proofs.Traces
import Mathlib.Data.List.Forall2
/-!
What is asked of the switch host when links are detached: one call for each attached link, whatever
became of the calls before it. Bindings from which everything was detached are those that a topology
has at first.
-/
namespace OpticalTestbed

/-- The switch host is asked to give up the tap of a link, where the link ends on a packet switch. -/
def Event.Releases (t : Topology) (entry : LinkId × String) (e : Event) : Prop :=
  ∃ ends answer, t.crossConnectEnds? entry.1 = some ends ∧
    e = .detached ends.2.node entry.2 answer

theorem Outside.traces_detachTap (o : Outside) (w : World) (node tap : String) :
    w.Traces (o.detachTap node tap w).2
      [⟨.detached node tap (o.detachTap node tap w).1, w.files⟩] := rfl

theorem RoadmBindings.Accounts.eq_allDetached {r : RoadmBindings} {links : List LinkId}
    (h : r.Accounts links) (hnone : r.attached.keys = []) : r = allDetached links := by
  obtain ⟨attached, detached⟩ := r
  have hattached : attached = Dict.empty := by
    refine Dict.ext_get? fun link => ?_
    rw [Dict.get?_empty, Dict.get?_eq_none_iff]
    exact hnone ▸ List.not_mem_nil
  have hdetached : detached = KeySet.ofList links := by
    refine KeySet.ext_of_mem_iff fun link => ?_
    rw [KeySet.mem_toList_ofList, ← h.all link]
    exact ⟨.inr, fun hl => hl.resolve_left (hnone ▸ List.not_mem_nil)⟩
  rw [hattached, hdetached, allDetached]

namespace Bindings

variable {o : Outside} {t : Topology} {b : Bindings} {w : World} {name name' : String}
  {link : LinkId} {tap : String}

/-- The attached links of one ROADM, with their taps. -/
def attachedOn (b : Bindings) (name : String) : List (LinkId × String) :=
  ((b.roadm? name).map (·.attached.entries)).getD []

theorem attachedOn_eq {r : RoadmBindings} (h : b.roadm? name = some r) :
    b.attachedOn name = r.attached.entries := by
  rw [attachedOn, h]
  rfl

theorem mem_attachedOn : (link, tap) ∈ b.attachedOn name ↔ b.tap? name link = some tap := by
  unfold attachedOn tap?
  cases b.roadm? name with
  | none => simp
  | some r => simp [Dict.get?_eq_some_iff]

/-- What is attached is listed ROADM by ROADM. -/
theorem attached_eq (b : Bindings) : b.attached = b.roadmNames.flatMap b.attachedOn := by
  simp only [attached, Dict.values, roadmNames, Dict.keys, List.flatMap_map]
  refine List.flatMap_congr fun e he => ?_
  have hr : b.roadm? e.1 = some e.2 := Dict.get?_eq_some_iff.2 he
  rw [attachedOn_eq hr]

theorem roadm?_unbindLinks {taps : List (LinkId × String)} (h : name' ≠ name) :
    (unbindLinks o t name taps b w).2.1.roadm? name' = b.roadm? name' := by
  induction taps generalizing b w with
  | nil => rfl
  | cons e more ih =>
    have hmark : (b.markDetached name e.1).roadm? name' = b.roadm? name' := by
      rw [Bindings.markDetached, roadm?_update, if_neg h]
    simp only [unbindLinks]
    split <;> rw [ih, hmark]

theorem roadm?_unbind (h : name' ≠ name) :
    (b.unbind o t name w).2.1.roadm? name' = b.roadm? name' := by
  unfold Bindings.unbind
  split
  · exact roadm?_unbindLinks h
  · rfl

section Traces

theorem unbindLinks_traces (name : String) {taps : List (LinkId × String)}
    (h : ∀ e ∈ taps, e.1 ∈ t.crossConnects) :
    ∃ trace, w.Traces (unbindLinks o t name taps b w).2.2 trace ∧
      List.Forall₂ (fun e c => c.event.Releases t e) taps trace := by
  induction taps generalizing b w with
  | nil => exact ⟨[], World.traces_of_history_eq rfl, .nil⟩
  | cons e more ih =>
    obtain ⟨hlink, hmore⟩ := List.forall_mem_cons.1 h
    obtain ⟨ends, he⟩ := Topology.exists_crossConnectEnds hlink
    have hfirst := o.traces_detachTap w ends.2.node e.2
    obtain ⟨trace, htrace, hall⟩ := ih (b := b.markDetached name e.1)
      (w := (o.detachTap ends.2.node e.2 w).2) hmore
    simp only [unbindLinks, he]
    exact ⟨_, hfirst.append htrace, .cons ⟨ends, _, he, rfl⟩ hall⟩

theorem unbind_traces (ha : b.Accounts t) (name : String) :
    ∃ trace, w.Traces (b.unbind o t name w).2.2 trace ∧
      List.Forall₂ (fun e c => c.event.Releases t e) (b.attachedOn name) trace := by
  unfold Bindings.unbind
  split
  · rename_i r hr
    rw [← attachedOn_eq hr]
    refine unbindLinks_traces name fun e he => ?_
    exact Topology.crossConnects_of_mem (ha.of_tap? (mem_attachedOn.1 he))
  · rename_i hr
    have hon : b.attachedOn name = [] := by simp [attachedOn, hr]
    rw [hon]
    exact ⟨[], World.traces_of_history_eq rfl, .nil⟩

theorem unbindEach_traces (ha : b.Accounts t) {names : List String} (hn : names.Nodup) :
    ∃ trace, w.Traces (unbindEach o t names b w).2.2 trace ∧
      List.Forall₂ (fun e c => c.event.Releases t e) (names.flatMap b.attachedOn) trace := by
  induction names generalizing b w with
  | nil => exact ⟨[], World.traces_of_history_eq rfl, .nil⟩
  | cons name more ih =>
    obtain ⟨hname, hmore⟩ := List.nodup_cons.1 hn
    have hkept := (passInvariant_accounts o t).toUnbindInvariant.unbind (w := w) name ha
    obtain ⟨first, hfirst, hreleases⟩ := unbind_traces (o := o) (w := w) ha name
    obtain ⟨rest, hrest, hall⟩ := ih (w := (b.unbind o t name w).2.2) hkept hmore
    -- the ROADMs that are still to come are as they were
    have hlater : more.flatMap (b.unbind o t name w).2.1.attachedOn = more.flatMap b.attachedOn :=
      List.flatMap_congr fun name' hmem => by
        have hne : name' ≠ name := fun he => hname (he ▸ hmem)
        rw [attachedOn, roadm?_unbind hne, ← attachedOn]
    rw [hlater] at hall
    exact ⟨first ++ rest, hfirst.append hrest, List.rel_append hreleases hall⟩

/-- Detaching everything asks the host for every attached link in turn, and for nothing else. -/
theorem unbindAll_traces (ha : b.Accounts t) (o : Outside) (w : World) :
    ∃ trace, w.Traces (b.unbindAll o t w).2.2 trace ∧
      List.Forall₂ (fun e c => c.event.Releases t e) b.attached trace := by
  rw [attached_eq]
  exact unbindEach_traces ha (Dict.nodup_keys _)

end Traces

/-- Bindings that account for a topology are those that it has at first, if nothing is attached. -/
theorem Accounts.eq_ofTopology (h : b.Accounts t) (hnone : ∀ name link, b.tap? name link = none) :
    b = ofTopology t := by
  have hfirst := accounts_ofTopology t
  have hroadms : b.roadms = (ofTopology t).roadms := by
    refine Dict.ext_get? fun name => ?_
    change b.roadm? name = (ofTopology t).roadm? name
    have hnames : name ∈ b.roadmNames ↔ name ∈ (ofTopology t).roadmNames := by
      rw [h.names, hfirst.names]
    simp only [mem_roadmNames] at hnames
    cases hr : b.roadm? name with
    | none =>
      rw [hr] at hnames
      exact (Option.not_isSome_iff_eq_none.1 (mt hnames.2 (by simp))).symm
    | some r =>
      obtain ⟨r', hr'⟩ := Option.isSome_iff_exists.1 (hnames.1 (by rw [hr]; rfl))
      have hempty : r.attached.keys = [] := by
        refine List.eq_nil_iff_forall_not_mem.2 fun link => Dict.get?_eq_none_iff.1 ?_
        simpa [tap?, hr] using hnone name link
      rw [hr', roadm?_ofTopology hr', (h.links name r hr).eq_allDetached hempty]
  exact congrArg Bindings.mk hroadms

theorem unbindAll_eq (ha : b.Accounts t) (o : Outside) (w : World) :
    (b.unbindAll o t w).2.1 = ofTopology t :=
  ((passInvariant_accounts o t).toUnbindInvariant.unbindAll (w := w) ha).eq_ofTopology
    fun _ _ => tap?_unbindAll

end Bindings

end OpticalTestbed
