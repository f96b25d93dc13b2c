import OpticalTestbed.Proofs.Accounting
import OpticalTestbed.Proofs.Pointwise
import OpticalTestbed.Proofs.Recovery
import OpticalTestbed.Proofs.Unbinding
/-!
Binding the links of one ROADM again when no call fails: every link that was detached gains the tap
that the `sys.config` names for it, and the switch host takes these taps one by one.
-/
namespace OpticalTestbed

instance : DecidablePred Event.AsksHost
  | .attached .. | .detached .. => isTrue trivial
  | .ran .. | .fetched _ => isFalse id

/-- Whether an event is a call that failed. -/
def Event.failed : Event → Bool
  | .ran _ (.error _) | .attached _ _ (.error _) | .detached _ _ (.error _) => true
  | .ran _ (.ok _) | .attached _ _ (.ok _) | .detached _ _ (.ok _) | .fetched _ => false

theorem Event.failed_iff {e : Event} : e.failed = true ↔ ∃ failure, e.FailsWith failure := by
  rcases e with ⟨_, _ | _⟩ | ⟨_, _, _ | _⟩ | ⟨_, _, _ | _⟩ | _ <;> simp [failed, FailsWith]

theorem unfailing_iff {trace : List Occurrence} :
    Unfailing trace ↔ ∀ c ∈ trace, c.event.failed = false := by
  simp only [Unfailing, ← not_exists, ← Event.failed_iff, Bool.not_eq_true]

instance : DecidablePred Unfailing := fun _ => decidable_of_iff _ unfailing_iff.symm

/-- No call of a trace failed if none did so far. -/
theorem World.Traces.unfailing {w w' : World} {trace : List Occurrence} (h : w.Traces w' trace)
    (hnone : Unfailing w'.history) : Unfailing trace := fun c hc =>
  hnone c (h ▸ List.mem_append_left _ (List.mem_reverse.2 hc))

/-- The switch host takes the tap of a link, where the link ends on a packet switch. -/
def Event.Takes (t : Topology) (entry : LinkId × String) (e : Event) : Prop :=
  ∃ ends, t.crossConnectEnds? entry.1 = some ends ∧ e = .attached ends.2.node entry.2 (.ok ())

/-- What the switch host was asked for. -/
def hostCalls (trace : List Occurrence) : List Event :=
  (trace.map (·.event)).filter (Event.AsksHost ·)

theorem hostCalls_append (a b : List Occurrence) :
    hostCalls (a ++ b) = hostCalls a ++ hostCalls b := by
  simp only [hostCalls, List.map_append, List.filter_append]

theorem hostCalls_eq_nil {trace : List Occurrence} (h : ∀ c ∈ trace, ¬c.event.AsksHost) :
    hostCalls trace = [] :=
  List.filter_eq_nil_iff.2 (List.forall_mem_map.2 fun c hc => by simpa using h c hc)

theorem hostCalls_flatMap {α : Type} (f : α → List Occurrence) (as : List α) :
    hostCalls (as.flatMap f) = as.flatMap fun a => hostCalls (f a) := by
  induction as with
  | nil => rfl
  | cons a as ih => rw [List.flatMap_cons, hostCalls_append, ih, List.flatMap_cons]

/-- The host is not asked for anything when a tap is brought up. -/
theorem Interfaces.EnsureCalls.quiet {tap : String} {r : Except Failure Unit} {es : List Event}
    (h : Interfaces.EnsureCalls tap r es) : ∀ e ∈ es, ¬e.AsksHost := by
  cases h with
  | unlisted => simp [Event.AsksHost]
  | listed hmore => cases hmore <;> simp [Event.AsksHost]

section Attempts

variable {t : Topology} {sysConfig : String} {roadm : Node} {dpid : Dpid} {port : Nat}
  {node : String} {answer : Except Failure String} {es : List Event} {a : Attempt}

/-- An attempt in which no call fails comes to the tap that is found, and the host takes it. -/
theorem AttachCalls.unfailing (h : AttachCalls sysConfig dpid port node answer es)
    (hnone : ∀ e ∈ es, ∀ failure, ¬e.FailsWith failure) :
    answer.toOption = (tapBehind sysConfig dpid port).toOption ∧
      es.filter (Event.AsksHost ·) =
        answer.toOption.toList.map fun tap => .attached node tap (.ok ()) := by
  -- only a tap that is not found makes an attempt fail without a call that does
  cases h with
  | missed hmiss => simp [tapBehind, hmiss, Except.toOption]
  | unready _ hensure =>
    obtain ⟨e, he, hfails⟩ := (hensure.error_iff _).1 rfl
    exact absurd hfails (hnone e he _)
  | refused => exact absurd rfl (hnone _ (List.mem_append_right _ List.mem_cons_self) _)
  | @accepted _ es hfound hensure =>
    have hquiet : es.filter (Event.AsksHost ·) = [] :=
      List.filter_eq_nil_iff.2 fun e he => by simpa using hensure.quiet e he
    refine ⟨by simp [tapBehind, hfound, Except.toOption], ?_⟩
    rw [List.filter_append, hquiet]
    rfl

theorem Topology.EndsOn.crossConnectEnds?_eq {link : LinkId} {own far : Endpoint}
    (h : t.EndsOn roadm.name link own far) (hmem : link ∈ t.crossConnectsOf roadm.name)
    (found : t.node? roadm.name = some roadm) (isRoadm : roadm.isRoadm = true) :
    t.crossConnectEnds? link = some (own, far) := by
  obtain ⟨own', far', hends, hside⟩ := exists_endsOn hmem found isRoadm
  obtain ⟨l, hl, hown, hfar⟩ := h.link
  obtain ⟨l', hl', hown', hfar'⟩ := hside.link
  obtain rfl := Option.some.inj (hl.symm.trans hl')
  rw [hends, Option.some.inj (hown.symm.trans hown'), Option.some.inj (hfar.symm.trans hfar')]

theorem Attempt.Goes.unfailing (h : a.Goes t sysConfig roadm.name roadm.dpid)
    (hmem : a.link ∈ t.crossConnectsOf roadm.name) (found : t.node? roadm.name = some roadm)
    (isRoadm : roadm.isRoadm = true) (hnone : Unfailing a.calls) :
    a.answer.toOption = Bindings.tapFor t sysConfig roadm a.link ∧
      List.Forall₂ (Event.Takes t) a.bound?.toList (hostCalls a.calls) := by
  obtain ⟨own, far, hside, hcalls⟩ := h
  have hends := hside.crossConnectEnds?_eq hmem found isRoadm
  obtain ⟨hanswer, hhost⟩ := hcalls.unfailing (List.forall_mem_map.2 hnone)
  refine ⟨by rw [Bindings.tapFor_eq hends, hanswer], ?_⟩
  rw [hostCalls, hhost, bound?]
  cases a.answer.toOption with
  | none => exact .nil
  | some tap => exact .cons ⟨_, hends, rfl⟩ .nil

end Attempts

namespace Bindings

variable {o : Outside} {t : Topology} {b : Bindings} {w : World} {name : String} {link : LinkId}
  {links : List LinkId} {sysConfig : String} {roadm : Node} {dpid : Dpid} {attempts : List Attempt}
  {result : BindReport × Bindings × World}

theorem attachedOn_eq_nil_iff : b.attachedOn name = [] ↔ ∀ link, b.tap? name link = none := by
  rw [List.eq_nil_iff_forall_not_mem, Prod.forall]
  simp only [mem_attachedOn, Option.eq_none_iff_forall_ne_some, ne_eq]

theorem pairwise_attachedOn (b : Bindings) (name : String) :
    (b.attachedOn name).Pairwise (fun e e' => e.1 < e'.1) := by
  unfold attachedOn
  cases b.roadm? name with
  | none => exact .nil
  | some r => exact r.attached.sorted

/-- What is attached after a pass over the links of a ROADM that had nothing attached is what the
pass reports as bound. -/
theorem Ledger.attachedOn_eq (h : Ledger t sysConfig name dpid links b w attempts result)
    (hsorted : links.Pairwise (· < ·)) (hfree : b.attachedOn name = []) :
    result.2.1.attachedOn name = result.1.bound := by
  have hbound : result.1.bound.Pairwise (fun e e' => e.1 < e'.1) := by
    rw [← h.order, List.pairwise_map] at hsorted
    rw [h.bound]
    refine hsorted.filterMap _ fun a a' hlt e he e' he' => ?_
    obtain ⟨tap, -, rfl⟩ := Option.map_eq_some_iff.1 he
    obtain ⟨tap', -, rfl⟩ := Option.map_eq_some_iff.1 he'
    exact hlt
  -- both are in ascending order of links, so it is enough that they have the same entries
  refine List.Pairwise.eq_of_mem_iff (pairwise_attachedOn _ name) hbound fun ⟨link, tap⟩ => ?_
  rw [mem_attachedOn, h.bound, List.mem_filterMap]
  constructor
  · intro htap
    have hlink : link ∈ links := by
      by_contra hl
      rw [h.kept link hl, attachedOn_eq_nil_iff.1 hfree] at htap
      cases htap
    rw [← h.order] at hlink
    obtain ⟨a, ha, rfl⟩ := List.mem_map.1 hlink
    exact ⟨a, ha, by rw [Attempt.bound?, ← h.settled a ha, htap, Option.map_some]⟩
  · rintro ⟨a, ha, he⟩
    obtain ⟨tap', hanswer, hpair⟩ := Option.map_eq_some_iff.1 he
    obtain ⟨rfl, rfl⟩ := Prod.mk.inj hpair
    rw [h.settled a ha, hanswer]

/-- Unless a call fails, each link that was gone through has the tap that is found for it, and the
host takes what is reported as bound. -/
theorem Ledger.unfailing (h : Ledger t sysConfig roadm.name roadm.dpid links b w attempts result)
    (hlinks : ∀ link ∈ links, link ∈ t.crossConnectsOf roadm.name)
    (found : t.node? roadm.name = some roadm) (isRoadm : roadm.isRoadm = true)
    (hnone : Unfailing (attempts.flatMap (·.calls))) :
    (∀ link ∈ links, result.2.1.tap? roadm.name link = tapFor t sysConfig roadm link) ∧
      List.Forall₂ (Event.Takes t) result.1.bound (hostCalls (attempts.flatMap (·.calls))) := by
  have hattempt : ∀ a ∈ attempts, a.answer.toOption = tapFor t sysConfig roadm a.link ∧
      List.Forall₂ (Event.Takes t) a.bound?.toList (hostCalls a.calls) := by
    intro a ha
    have hlink : a.link ∈ links := h.order ▸ List.mem_map_of_mem ha
    exact (h.made a ha).unfailing (hlinks a.link hlink) found isRoadm fun c hc =>
      hnone c (List.mem_flatMap.2 ⟨a, ha, hc⟩)
  constructor
  · rw [← h.order]
    refine List.forall_mem_map.2 fun a ha => ?_
    rw [h.settled a ha, (hattempt a ha).1]
  · rw [h.bound, List.filterMap_eq_flatMap_toList, hostCalls_flatMap]
    exact forall₂_flatMap fun a ha => (hattempt a ha).2

/-- A pass over the detached links of a ROADM is accounted for. -/
theorem Accounts.exists_ledger (ha : b.Accounts t) (found : t.node? roadm.name = some roadm)
    (isRoadm : roadm.isRoadm = true) (o : Outside) (sysConfig : String) (w : World) :
    ∃ attempts, Ledger t sysConfig roadm.name roadm.dpid (b.detachedOn roadm.name) b w attempts
      (b.bindDetached o t sysConfig roadm.name w) := by
  have hknown : roadm.name ∈ b.roadmNames :=
    (ha.names _).2 ⟨roadm, (Topology.node?_mem found).1, isRoadm, rfl⟩
  obtain ⟨r, hr⟩ := Option.isSome_iff_exists.1 (mem_roadmNames.1 hknown)
  have hdetached : b.detachedOn roadm.name = r.detached.toList := by simp [detachedOn, hr]
  have hpass : b.bindDetached o t sysConfig roadm.name w =
      bindLinks o t sysConfig roadm r.detached.toList b w := by simp [bindDetached, hr, found]
  rw [hpass, hdetached]
  exact Bindings.exists_ledger found isRoadm (ha.pending hr) o sysConfig w

/-- A ROADM that had nothing attached is bound as the `sys.config` says, unless a call fails. -/
theorem Accounts.rebinds (ha : b.Accounts t) (found : t.node? roadm.name = some roadm)
    (isRoadm : roadm.isRoadm = true) (hfree : b.attachedOn roadm.name = []) (o : Outside)
    (sysConfig : String) (w : World) :
    (b.bindDetached o t sysConfig roadm.name w).1.bound =
        (b.bindDetached o t sysConfig roadm.name w).2.1.attachedOn roadm.name ∧
      ∃ trace, w.Traces (b.bindDetached o t sysConfig roadm.name w).2.2 trace ∧
        (Unfailing trace →
          (∀ link ∈ t.crossConnectsOf roadm.name,
            (b.bindDetached o t sysConfig roadm.name w).2.1.tap? roadm.name link =
              tapFor t sysConfig roadm link) ∧
          List.Forall₂ (Event.Takes t)
            ((b.bindDetached o t sysConfig roadm.name w).2.1.attachedOn roadm.name)
            (hostCalls trace)) := by
  have hknown : roadm.name ∈ b.roadmNames :=
    (ha.names _).2 ⟨roadm, (Topology.node?_mem found).1, isRoadm, rfl⟩
  -- with nothing attached the pass goes through every cross-connect
  have hdetached : ∀ link, link ∈ b.detachedOn roadm.name ↔ link ∈ t.crossConnectsOf roadm.name :=
    fun link => by
      rw [mem_detachedOn_iff ha.links hknown]
      exact and_iff_left (attachedOn_eq_nil_iff.1 hfree link)
  obtain ⟨attempts, hledger⟩ := ha.exists_ledger found isRoadm o sysConfig w
  have hattached := hledger.attachedOn_eq (pairwise_detachedOn b _) hfree
  refine ⟨hattached.symm, _, hledger.called, fun hnone => ?_⟩
  obtain ⟨htaps, htakes⟩ :=
    hledger.unfailing (fun link => (hdetached link).1) found isRoadm hnone
  rw [hattached]
  exact ⟨fun link hlink => htaps link ((hdetached link).2 hlink), htakes⟩

end Bindings

end OpticalTestbed
