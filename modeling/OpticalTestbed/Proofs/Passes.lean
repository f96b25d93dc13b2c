import OpticalTestbed.Binding
import OpticalTestbed.Proofs.Bindings
import OpticalTestbed.Proofs.Calls
/-!
What passes over the bindings preserve. A property of bindings and world that survives every single
attach, detach and recovery of a link survives whole passes, whichever links succeed.
-/
namespace OpticalTestbed

/-- Whether the switch host is asked for something. -/
def Event.AsksHost : Event → Prop
  | .attached .. | .detached .. => True
  | .ran .. | .fetched _ => False

/-- Only calls that leave the switch host alone were made. -/
abbrev World.Quiet : World → World → Prop := World.Calls (fun e => ¬e.AsksHost)

theorem Outside.call_quiet (o : Outside) (i : Invocation) : (o.call i).Along World.Quiet :=
  fun w => ⟨[⟨.ran i (o.run w i).answer, w.files⟩], rfl, by simp [Event.AsksHost]⟩

theorem Outside.fetchDevices_quiet (o : Outside) : o.fetchDevices.Along World.Quiet :=
  fun w => ⟨[⟨.fetched (o.fetch w).answer, w.files⟩], rfl, by simp [Event.AsksHost]⟩

/-- The ways in which an attempt to attach a link ends. -/
inductive AttachPath (o : Outside) (sysConfig : String) (roadm : Node)
    (roadmEnd packetEnd : Endpoint) (w : World) : Except Failure String × World → Prop
  | missed {e : Failure} : tapBehind sysConfig roadm.dpid roadmEnd.port = .error e →
    AttachPath o sysConfig roadm roadmEnd packetEnd w (.error e, w)
  | unready {tap : String} {e : Failure} {w₁ : World} :
    tapBehind sysConfig roadm.dpid roadmEnd.port = .ok tap →
    Interfaces.ensure o tap w = (.error e, w₁) →
    AttachPath o sysConfig roadm roadmEnd packetEnd w (.error e, w₁)
  | refused {tap : String} {e : Failure} {w₁ w₂ : World} :
    tapBehind sysConfig roadm.dpid roadmEnd.port = .ok tap →
    Interfaces.ensure o tap w = (.ok (), w₁) → o.attachTap packetEnd.node tap w₁ = (.error e, w₂) →
    AttachPath o sysConfig roadm roadmEnd packetEnd w (.error e, w₂)
  | accepted {tap : String} {w₁ w₂ : World} :
    tapBehind sysConfig roadm.dpid roadmEnd.port = .ok tap →
    Interfaces.ensure o tap w = (.ok (), w₁) → o.attachTap packetEnd.node tap w₁ = (.ok (), w₂) →
    AttachPath o sysConfig roadm roadmEnd packetEnd w (.ok tap, w₂)

theorem attachLink_path (o : Outside) (sysConfig : String) (roadm : Node)
    (roadmEnd packetEnd : Endpoint) (w : World) :
    AttachPath o sysConfig roadm roadmEnd packetEnd w
      (attachLink o sysConfig roadm roadmEnd packetEnd w) := by
  unfold attachLink
  split
  · rename_i miss
    exact .missed miss
  · rename_i tap found
    split
    · rename_i ensured
      exact .unready found ensured
    · rename_i ensured
      split
      · rename_i attached
        exact .refused found ensured attached
      · rename_i attached
        exact .accepted found ensured attached

namespace Bindings

/-- A pass over the bindings of one ROADM or of all. -/
inductive Pass where
  | bindDetached (sysConfig name : String)
  | bindAll (sysConfig : String)
  | unbind (name : String)
  | unbindAll
  | recover (sysConfig : String)

def Pass.run (o : Outside) (t : Topology) : Pass → Bindings → World → Bindings × World
  | bindDetached sysConfig name, b, w => (b.bindDetached o t sysConfig name w).2
  | bindAll sysConfig, b, w => (b.bindAll o t sysConfig w).2
  | unbind name, b, w => (b.unbind o t name w).2
  | unbindAll, b, w => (b.unbindAll o t w).2
  | recover sysConfig, b, w => ((b.recover t sysConfig).2, w)

/-- A property of bindings and world that every step of a binding pass preserves. It holds of
bindings that account for the topology only. -/
structure BindInvariant (o : Outside) (t : Topology) (Q : Bindings → World → Prop) : Prop where
  accounts {b w} : Q b w → b.Accounts t
  quiet {b w w'} : w.Quiet w' → Q b w → Q b w'
  accepted {b w w' name link ends tap} : name ∈ b.roadmNames → link ∈ t.crossConnectsOf name →
    b.tap? name link = none → t.crossConnectEnds? link = some ends →
    o.attachTap ends.2.node tap w = (.ok (), w') → Q b w → Q (b.markAttached name link tap) w'
  refused {b w w' node tap e} : o.attachTap node tap w = (.error e, w') → Q b w → Q b w'

/-- A property of bindings and world that every step of an unbinding pass preserves. -/
structure UnbindInvariant (o : Outside) (t : Topology) (Q : Bindings → World → Prop) : Prop where
  accounts {b w} : Q b w → b.Accounts t
  detached {b w w' name link ends tap answer} : b.tap? name link = some tap →
    t.crossConnectEnds? link = some ends → o.detachTap ends.2.node tap w = (answer, w') →
    Q b w → Q (b.markDetached name link) w'

/-- A property of bindings and world that every step of any pass preserves. -/
structure PassInvariant (o : Outside) (t : Topology) (Q : Bindings → World → Prop) : Prop extends
    BindInvariant o t Q, UnbindInvariant o t Q where
  recovered {b w name link tap} : name ∈ b.roadmNames → link ∈ t.crossConnectsOf name →
    b.tap? name link = none → Q b w → Q (b.markAttached name link tap) w

/-- Links of a ROADM that a pass may attach: cross-connects without a tap, each once. -/
structure Pending (b : Bindings) (t : Topology) (name : String) (links : List LinkId) : Prop where
  known : name ∈ b.roadmNames
  nodup : links.Nodup
  free : ∀ link ∈ links, link ∈ t.crossConnectsOf name ∧ b.tap? name link = none

variable {o : Outside} {t : Topology} {Q : Bindings → World → Prop} {b : Bindings} {w : World}
  {name : String} {link : LinkId} {links : List LinkId}

/-- The detached links of a ROADM may be attached. -/
theorem Consistent.pending (h : b.Consistent t) {r : RoadmBindings} (hr : b.roadm? name = some r) :
    b.Pending t name r.detached.toList where
  known := mem_roadmNames.2 (by simp [hr])
  nodup := Dict.nodup_keys _
  free := by
    intro link hl
    have hacc := h name r hr
    refine ⟨(hacc.all link).1 (.inr hl), ?_⟩
    simp only [tap?, hr, Option.bind_some, Dict.get?_eq_none_iff]
    exact fun ha => hacc.apart link ha hl

theorem Accounts.pending (h : b.Accounts t) {r : RoadmBindings} (hr : b.roadm? name = some r) :
    b.Pending t name r.detached.toList := Consistent.pending h.links hr

theorem Pending.tail (h : b.Pending t name (link :: links)) : b.Pending t name links where
  known := h.known
  nodup := (List.nodup_cons.1 h.nodup).2
  free := fun x hx => h.free x (List.mem_cons_of_mem _ hx)

theorem Pending.markAttached (h : b.Pending t name (link :: links)) (tap : String) :
    (b.markAttached name link tap).Pending t name links where
  known := (mem_roadmNames_update _ _).2 h.known
  nodup := (List.nodup_cons.1 h.nodup).2
  free := by
    intro x hx
    obtain ⟨hmem, hfree⟩ := h.free x (List.mem_cons_of_mem _ hx)
    have hne : x ≠ link := fun he => (List.nodup_cons.1 h.nodup).1 (he ▸ hx)
    exact ⟨hmem, by simpa [tap?_markAttached h.known, hne] using hfree⟩

namespace BindInvariant

theorem bindLinks (h : BindInvariant o t Q) (sysConfig : String) (roadm : Node)
    (hp : b.Pending t roadm.name links) (hq : Q b w) :
    Q (Bindings.bindLinks o t sysConfig roadm links b w).2.1
      (Bindings.bindLinks o t sysConfig roadm links b w).2.2 := by
  induction links generalizing b w with
  | nil => exact hq
  | cons link more ih =>
    obtain ⟨hmem, hfree⟩ := hp.free link List.mem_cons_self
    obtain ⟨ends, he⟩ := Topology.exists_crossConnectEnds (Topology.crossConnects_of_mem hmem)
    have hensured : ∀ {tap r w₁}, Interfaces.ensure o tap w = (r, w₁) → Q b w₁ := fun hens =>
      h.quiet (Op.Along.of_eq (Interfaces.ensure_of_calls Op.composes_along
        (fun i _ => o.call_quiet i) _) hens) hq
    simp only [Bindings.bindLinks, he]
    have path := attachLink_path o sysConfig roadm ends.1 ends.2 w
    generalize attachLink o sysConfig roadm ends.1 ends.2 w = result at path
    cases path with
    | missed => exact ih hp.tail hq
    | unready _ ensured => exact ih hp.tail (hensured ensured)
    | refused _ ensured attached =>
      exact ih hp.tail (h.refused attached (hensured ensured))
    | accepted _ ensured attached =>
      exact ih (hp.markAttached _)
        (h.accepted hp.known hmem hfree he attached (hensured ensured))

theorem bindDetached (h : BindInvariant o t Q) (sysConfig name : String) (hq : Q b w) :
    Q (b.bindDetached o t sysConfig name w).2.1 (b.bindDetached o t sysConfig name w).2.2 := by
  unfold Bindings.bindDetached
  split
  · rename_i r node hr hn
    obtain ⟨-, rfl⟩ := Topology.node?_mem hn
    exact h.bindLinks sysConfig node ((h.accounts hq).pending hr) hq
  · exact hq

theorem bindEach (h : BindInvariant o t Q) (sysConfig : String) (names : List String)
    (hq : Q b w) : Q (Bindings.bindEach o t sysConfig names b w).2.1
      (Bindings.bindEach o t sysConfig names b w).2.2 := by
  induction names generalizing b w with
  | nil => exact hq
  | cons name more ih => exact ih (h.bindDetached sysConfig name hq)

theorem bindAll (h : BindInvariant o t Q) (sysConfig : String) (hq : Q b w) :
    Q (b.bindAll o t sysConfig w).2.1 (b.bindAll o t sysConfig w).2.2 :=
  h.bindEach sysConfig _ hq

end BindInvariant

namespace UnbindInvariant

/-- What is still to be detached stays recorded until its turn comes. -/
theorem unbindLinks (h : UnbindInvariant o t Q) (name : String) (taps : List (LinkId × String))
    (hn : (taps.map (·.1)).Nodup) (ht : ∀ e ∈ taps, b.tap? name e.1 = some e.2) (hq : Q b w) :
    Q (Bindings.unbindLinks o t name taps b w).2.1
      (Bindings.unbindLinks o t name taps b w).2.2 := by
  induction taps generalizing b w with
  | nil => exact hq
  | cons e more ih =>
    obtain ⟨link, tap⟩ := e
    obtain ⟨hlink, hmore⟩ := List.nodup_cons.1 hn
    have htap := ht (link, tap) List.mem_cons_self
    obtain ⟨ends, he⟩ := Topology.exists_crossConnectEnds
      (Topology.crossConnects_of_mem ((h.accounts hq).of_tap? htap))
    simp only [Bindings.unbindLinks, he]
    refine ih hmore (fun x hx => ?_) (h.detached htap he rfl hq)
    have hne : x.1 ≠ link := fun heq => hlink (heq ▸ List.mem_map.2 ⟨x, hx, rfl⟩)
    simpa [tap?_markDetached, hne] using ht x (List.mem_cons_of_mem _ hx)

theorem unbind (h : UnbindInvariant o t Q) (name : String) (hq : Q b w) :
    Q (b.unbind o t name w).2.1 (b.unbind o t name w).2.2 := by
  unfold Bindings.unbind
  split
  · rename_i r hr
    refine h.unbindLinks name _ (Dict.nodup_keys _) (fun e he => ?_) hq
    simpa [tap?, hr] using Dict.get?_eq_some_iff.2 he
  · exact hq

theorem unbindEach (h : UnbindInvariant o t Q) (names : List String) (hq : Q b w) :
    Q (Bindings.unbindEach o t names b w).2.1 (Bindings.unbindEach o t names b w).2.2 := by
  induction names generalizing b w with
  | nil => exact hq
  | cons name more ih => exact ih (h.unbind name hq)

theorem unbindAll (h : UnbindInvariant o t Q) (hq : Q b w) :
    Q (b.unbindAll o t w).2.1 (b.unbindAll o t w).2.2 := h.unbindEach _ hq

end UnbindInvariant

/-- Passes keep the account of a topology. -/
theorem passInvariant_accounts (o : Outside) (t : Topology) :
    PassInvariant o t (fun b _ => b.Accounts t) where
  accounts h := h
  quiet _ h := h
  accepted _ hl _ _ _ h := h.markAttached hl _
  refused _ h := h
  detached ht _ _ h := h.markDetached (h.of_tap? ht)
  recovered _ hl _ h := h.markAttached hl _

namespace PassInvariant

theorem recoverLinks (h : PassInvariant o t Q) (sysConfig : String) (roadm : Node)
    (hp : b.Pending t roadm.name links) (hq : Q b w) :
    Q (Bindings.recoverLinks t sysConfig roadm links b).2 w := by
  induction links generalizing b with
  | nil => exact hq
  | cons link more ih =>
    obtain ⟨hmem, hfree⟩ := hp.free link List.mem_cons_self
    simp only [Bindings.recoverLinks]
    split
    · exact ih hp.tail hq
    · split
      · exact ih (hp.markAttached _) (h.recovered hp.known hmem hfree hq)
      · exact ih hp.tail hq

theorem recoverEach (h : PassInvariant o t Q) (sysConfig : String) (names : List String)
    (hq : Q b w) : Q (Bindings.recoverEach t sysConfig names b).2 w := by
  induction names generalizing b with
  | nil => exact hq
  | cons name more ih =>
    simp only [Bindings.recoverEach]
    split
    · rename_i node r hn hr
      obtain ⟨-, rfl⟩ := Topology.node?_mem hn
      exact ih (h.recoverLinks sysConfig node ((h.accounts hq).pending hr) hq)
    · exact ih hq

theorem recover (h : PassInvariant o t Q) (sysConfig : String) (hq : Q b w) :
    Q (b.recover t sysConfig).2 w := h.recoverEach sysConfig _ hq

theorem run (h : PassInvariant o t Q) (p : Pass) (hq : Q b w) :
    Q (p.run o t b w).1 (p.run o t b w).2 := by
  cases p with
  | bindDetached sysConfig name => exact h.bindDetached sysConfig name hq
  | bindAll sysConfig => exact h.bindAll sysConfig hq
  | unbind name => exact h.unbind name hq
  | unbindAll => exact h.unbindAll hq
  | recover sysConfig => exact h.recover sysConfig hq

end PassInvariant

theorem Accounts.bindAll (h : b.Accounts t) (o : Outside) (sysConfig : String) (w : World) :
    (b.bindAll o t sysConfig w).2.1.Accounts t :=
  (passInvariant_accounts o t).toBindInvariant.bindAll (w := w) sysConfig h

theorem Accounts.recover (h : b.Accounts t) (o : Outside) (w : World) (sysConfig : String) :
    (b.recover t sysConfig).2.Accounts t :=
  (passInvariant_accounts o t).recover (w := w) sysConfig h

end Bindings

end OpticalTestbed
