import OpticalTestbed.Proofs.BindReport
/-!
What a binding pass over one ROADM does to each link: every link that was detached is looked after
once, in order, and either gains its tap or leaves one warning. Nothing else is called or changed.
-/
namespace OpticalTestbed

/-- How the attempt to attach a link goes: what it calls and what it comes to. -/
inductive AttachCalls (sysConfig : String) (dpid : Dpid) (port : Nat) (node : String) :
    Except Failure String → List Event → Prop
  | missed {miss : Miss} : SysConfig.tapOf sysConfig dpid.text port = .error miss →
    AttachCalls sysConfig dpid port node (.error (.discoveryMiss dpid.text port miss)) []
  | unready {tap : String} {e : Failure} {es : List Event} :
    SysConfig.tapOf sysConfig dpid.text port = .ok tap →
    Interfaces.EnsureCalls tap (.error e) es → AttachCalls sysConfig dpid port node (.error e) es
  | refused {tap : String} {e : Failure} {es : List Event} :
    SysConfig.tapOf sysConfig dpid.text port = .ok tap → Interfaces.EnsureCalls tap (.ok ()) es →
    AttachCalls sysConfig dpid port node (.error e) (es ++ [.attached node tap (.error e)])
  | accepted {tap : String} {es : List Event} :
    SysConfig.tapOf sysConfig dpid.text port = .ok tap → Interfaces.EnsureCalls tap (.ok ()) es →
    AttachCalls sysConfig dpid port node (.ok tap) (es ++ [.attached node tap (.ok ())])

theorem tells_attachLink (o : Outside) (sysConfig : String) (roadm : Node) (own far : Endpoint) :
    (attachLink o sysConfig roadm own far).Tells
      (AttachCalls sysConfig roadm.dpid own.port far.node) := by
  cases htap : SysConfig.tapOf sysConfig roadm.dpid.text own.port with
  | error miss =>
    intro w
    have hbehind : tapBehind sysConfig roadm.dpid own.port =
        .error (.discoveryMiss roadm.dpid.text own.port miss) := by rw [tapBehind, htap]
    rw [attachLink_missed hbehind]
    exact ⟨[], World.traces_of_history_eq rfl, .missed htap⟩
  | ok tap =>
    have hbehind : tapBehind sysConfig roadm.dpid own.port = .ok tap := by rw [tapBehind, htap]
    have hattach : (o.attachTap far.node tap >>= fun _ => (pure tap : Op String)).Tells fun r es =>
        ∃ answer : Except Failure Unit, r = answer.map (fun _ => tap) ∧
          es = [.attached far.node tap answer] := by
      refine (Op.tells_attachTap o _ _).bind (fun _ => Op.tells_pure tap) ?_ ?_
      · rintro e es rfl
        exact ⟨.error e, rfl, rfl⟩
      · rintro ⟨⟩ first r more rfl ⟨rfl, rfl⟩
        exact ⟨.ok (), rfl, rfl⟩
    have hwhole : attachLink o sysConfig roadm own far = Interfaces.ensure o tap >>= fun _ =>
        o.attachTap far.node tap >>= fun _ => (pure tap : Op String) :=
      funext fun _ => attachLink_eq hbehind
    rw [hwhole]
    refine (Interfaces.tells_ensure o tap).bind (fun _ => hattach) ?_ ?_
    · exact fun e es hensure => .unready htap hensure
    · rintro ⟨⟩ first r more hensure ⟨answer, rfl, rfl⟩
      cases answer with
      | error e => exact .refused htap hensure
      | ok => exact .accepted htap hensure

namespace Attempt

/-- The attempt goes by the ends of its link. -/
def Goes (t : Topology) (sysConfig name : String) (dpid : Dpid) (a : Attempt) : Prop :=
  ∃ own far, t.EndsOn name a.link own far ∧
    AttachCalls sysConfig dpid own.port far.node a.answer (a.calls.map (·.event))

theorem length_bound_add_warnings (as : List Attempt) :
    (as.filterMap bound?).length + (as.filterMap warning?).length = as.length := by
  induction as with
  | nil => rfl
  | cons a as ih =>
    obtain ⟨link, e | tap, calls⟩ := a
    · simp only [List.filterMap_cons, bound?, warning?, Except.toOption, Option.map_none,
        List.length_cons]
      omega
    · simp only [List.filterMap_cons, bound?, warning?, Except.toOption, Option.map_some,
        List.length_cons]
      omega

end Attempt

namespace Bindings

variable {o : Outside} {t : Topology} {b : Bindings} {w : World} {name : String} {link : LinkId}
  {links : List LinkId} {sysConfig : String} {roadm : Node}

/-- The detached links of a ROADM, in ascending order. -/
def detachedOn (b : Bindings) (name : String) : List LinkId :=
  ((b.roadm? name).map (·.detached.toList)).getD []

/-- The attempts of a pass over some links of a ROADM account for all that it reports, calls and
changes. -/
structure Ledger (t : Topology) (sysConfig name : String) (dpid : Dpid) (links : List LinkId)
    (b : Bindings) (w : World) (attempts : List Attempt) (result : BindReport × Bindings × World) :
    Prop where
  order : attempts.map (·.link) = links
  made : ∀ a ∈ attempts, a.Goes t sysConfig name dpid
  bound : result.1.bound = attempts.filterMap Attempt.bound?
  warnings : result.1.warnings = attempts.filterMap Attempt.warning?
  called : w.Traces result.2.2 (attempts.flatMap (·.calls))
  settled : ∀ a ∈ attempts, result.2.1.tap? name a.link = a.answer.toOption
  kept : ∀ link ∉ links, result.2.1.tap? name link = b.tap? name link
  others : ∀ other ≠ name, result.2.1.roadm? other = b.roadm? other
  names : ∀ other, other ∈ result.2.1.roadmNames ↔ other ∈ b.roadmNames
  consistent : b.Consistent t → result.2.1.Consistent t

theorem Ledger.nil (dpid : Dpid) : Ledger t sysConfig name dpid [] b w [] (.empty, b, w) where
  order := rfl
  made := by simp
  bound := rfl
  warnings := rfl
  called := World.traces_of_history_eq rfl
  settled := by simp
  kept _ _ := rfl
  others _ _ := rfl
  names _ := Iff.rfl
  consistent h := h

/-- One attempt more in front. -/
theorem Ledger.cons {w₁ : World} {a : Attempt} {attempts : List Attempt} {dpid : Dpid}
    {result : BindReport × Bindings × World} (hp : b.Pending t name (a.link :: links))
    (hgoes : a.Goes t sysConfig name dpid) (hcalls : w.Traces w₁ a.calls)
    (h : Ledger t sysConfig name dpid links (b.settle name a.link a.answer) w₁ attempts result) :
    Ledger t sysConfig name dpid (a.link :: links) b w (a :: attempts)
      (a.report.append result.1, result.2) := by
  obtain ⟨hmem, hfree⟩ := hp.free a.link List.mem_cons_self
  have hlink : a.link ∉ links := (List.nodup_cons.1 hp.nodup).1
  exact
    { order := by rw [List.map_cons, h.order]
      made := List.forall_mem_cons.2 ⟨hgoes, h.made⟩
      bound := by
        rw [List.filterMap_eq_flatMap_toList, List.flatMap_cons,
          ← List.filterMap_eq_flatMap_toList, ← h.bound]
        rfl
      warnings := by
        rw [List.filterMap_eq_flatMap_toList, List.flatMap_cons,
          ← List.filterMap_eq_flatMap_toList, ← h.warnings]
        rfl
      called := hcalls.append h.called
      settled := by
        refine List.forall_mem_cons.2 ⟨?_, h.settled⟩
        exact (h.kept a.link hlink).trans (tap?_settle_self hp.known hfree _)
      kept := by
        intro link hl
        obtain ⟨hne, hl⟩ := not_or.1 (List.mem_cons.not.1 hl)
        exact (h.kept link hl).trans (tap?_settle_other hp.known hne _)
      others := fun other hne => (h.others other hne).trans (roadm?_settle hne _)
      names := fun other => (h.names other).trans (mem_roadmNames_settle _ other)
      consistent := fun hc => h.consistent (consistent_settle hc hmem _) }

/-- A pass over links that may be attached is accounted for. -/
theorem exists_ledger (hn : t.node? roadm.name = some roadm) (hroadm : roadm.isRoadm = true)
    (hp : b.Pending t roadm.name links) (o : Outside) (sysConfig : String) (w : World) :
    ∃ attempts, Ledger t sysConfig roadm.name roadm.dpid links b w attempts
      (bindLinks o t sysConfig roadm links b w) := by
  induction links generalizing b w with
  | nil => exact ⟨[], .nil _⟩
  | cons link more ih =>
    obtain ⟨own, far, he, hends⟩ :=
      Topology.exists_endsOn (hp.free link List.mem_cons_self).1 hn hroadm
    obtain ⟨calls, hcalls, hgoes⟩ := tells_attachLink o sysConfig roadm own far w
    rw [bindLinks_cons he calls]
    generalize attachLink o sysConfig roadm own far w = outcome at hcalls hgoes
    obtain ⟨answer, w₁⟩ := outcome
    obtain ⟨attempts, hledger⟩ := ih (hp.settle answer) w₁
    exact ⟨⟨link, answer, calls⟩ :: attempts,
      hledger.cons (a := ⟨link, answer, calls⟩) hp ⟨own, far, hends, hgoes⟩ hcalls⟩

theorem pairwise_detachedOn (b : Bindings) (name : String) :
    (b.detachedOn name).Pairwise (· < ·) := by
  unfold detachedOn
  cases b.roadm? name with
  | none => exact .nil
  | some r => exact List.pairwise_map.2 r.detached.sorted

theorem mem_detachedOn_iff (h : b.Consistent t) (hk : name ∈ b.roadmNames) :
    link ∈ b.detachedOn name ↔ link ∈ t.crossConnectsOf name ∧ b.tap? name link = none := by
  obtain ⟨r, hr⟩ := Option.isSome_iff_exists.1 (mem_roadmNames.1 hk)
  have hacc := h name r hr
  simp only [detachedOn, tap?, hr, Option.map_some, Option.getD_some, Option.bind_some,
    Dict.get?_eq_none_iff]
  constructor
  · exact fun hd => ⟨(hacc.all link).1 (.inr hd), fun ha => hacc.apart link ha hd⟩
  · rintro ⟨hmem, hfree⟩
    exact ((hacc.all link).2 hmem).resolve_left hfree

/-- Detached stays what an attempt failed for. -/
theorem Ledger.mem_detachedOn {dpid : Dpid} {attempts : List Attempt}
    {result : BindReport × Bindings × World} (hc : b.Consistent t) (hk : name ∈ b.roadmNames)
    (h : Ledger t sysConfig name dpid (b.detachedOn name) b w attempts result) :
    link ∈ result.2.1.detachedOn name ↔
      ∃ a ∈ attempts, a.link = link ∧ a.answer.toOption = none := by
  rw [mem_detachedOn_iff (h.consistent hc) ((h.names name).2 hk)]
  constructor
  · rintro ⟨hmem, hfree⟩
    by_cases hl : link ∈ b.detachedOn name
    · rw [← h.order] at hl
      obtain ⟨a, ha, rfl⟩ := List.mem_map.1 hl
      exact ⟨a, ha, rfl, (h.settled a ha).symm.trans hfree⟩
    · rw [h.kept link hl] at hfree
      exact absurd ((mem_detachedOn_iff hc hk).2 ⟨hmem, hfree⟩) hl
  · rintro ⟨a, ha, rfl, hnone⟩
    have hl : a.link ∈ b.detachedOn name := h.order ▸ List.mem_map_of_mem ha
    exact ⟨((mem_detachedOn_iff hc hk).1 hl).1, (h.settled a ha).trans hnone⟩

/-- The account of a pass over the detached links of one ROADM, whatever programs and switch host
do. Each of them is looked after once, in order. -/
theorem bindDetached_accounts (consistent : b.isConsistent t = true)
    (found : t.node? name = some roadm) (isRoadm : roadm.isRoadm = true) (o : Outside)
    (sysConfig : String) (w : World) :
    (b.detachedOn name).Pairwise (· < ·) ∧ ∃ attempts,
      Ledger t sysConfig name roadm.dpid (b.detachedOn name) b w attempts
        (b.bindDetached o t sysConfig name w) ∧
      (b.bindDetached o t sysConfig name w).1.bound.length +
          (b.bindDetached o t sysConfig name w).1.warnings.length = (b.detachedOn name).length ∧
      ∀ link, link ∈ (b.bindDetached o t sysConfig name w).2.1.detachedOn name ↔
        ∃ a ∈ attempts, a.link = link ∧ a.answer.toOption = none := by
  refine ⟨pairwise_detachedOn b name, ?_⟩
  obtain ⟨-, rfl⟩ := Topology.node?_mem found
  have hc := isConsistent_iff.1 consistent
  cases hr : b.roadm? roadm.name with
  | none =>
    have hnone : b.detachedOn roadm.name = [] := by simp [detachedOn, hr]
    have hpass : b.bindDetached o t sysConfig roadm.name w = (.empty, b, w) := by
      simp [bindDetached, hr]
    rw [hnone, hpass]
    exact ⟨[], .nil _, rfl, fun link => by simp [hnone]⟩
  | some r =>
    have hdetached : b.detachedOn roadm.name = r.detached.toList := by simp [detachedOn, hr]
    have hpass : b.bindDetached o t sysConfig roadm.name w =
        bindLinks o t sysConfig roadm r.detached.toList b w := by simp [bindDetached, hr, found]
    obtain ⟨attempts, hledger⟩ := exists_ledger found isRoadm (hc.pending hr) o sysConfig w
    rw [← hpass, ← hdetached] at hledger
    refine ⟨attempts, hledger, ?_, fun link => hledger.mem_detachedOn hc (hc.pending hr).known⟩
    rw [hledger.bound, hledger.warnings, Attempt.length_bound_add_warnings, ← hledger.order,
      List.length_map]

namespace Sample

def device : Node := .new "r1" (.ofNumber 0xff01) .roadm .empty

/-- A ROADM with two cross-connects to a packet switch. -/
def topology : Topology where
  nodes := [device, .new "s1" (.ofNumber 1) .switch .empty]
  positions := (Dict.empty.insert "r1" 0).insert "s1" 1
  links := [⟨⟨"r1", 10, 10⟩, ⟨"s1", 1, 0⟩, .optical, .empty⟩,
    ⟨⟨"s1", 2, 0⟩, ⟨"r1", 11, 10⟩, .optical, .empty⟩]
  domains := .empty

/-- A `sys.config` with a tap for the first of them. -/
def text : String := "port,1,tap7\n00:00:00:00:00:00:ff:01\nport,1,port_no,10\x7d"

/-- Programs that print nothing, and a switch host that takes every tap. -/
def outside : Outside where
  run w _ := ⟨.ok "", w.files, false⟩
  attach w _ _ := ⟨.ok (), w.files, false⟩
  detach w _ _ := ⟨.ok (), w.files, false⟩
  fetch w := ⟨.ok ⟨[]⟩, w.files, false⟩

def world : World := ⟨⟨[], []⟩, false, []⟩

end Sample

theorem bindDetached_accounts_sample :
    (ofTopology Sample.topology).isConsistent Sample.topology = true ∧
      Sample.topology.node? "r1" = some Sample.device ∧ Sample.device.isRoadm = true ∧
      ((ofTopology Sample.topology).bindDetached Sample.outside Sample.topology Sample.text "r1"
        Sample.world).1.bound = [(0, "tap7")] ∧
      ((ofTopology Sample.topology).bindDetached Sample.outside Sample.topology Sample.text "r1"
        Sample.world).1.warnings.length = 1 := by
  have hconsistent := (accounts_ofTopology Sample.topology).isConsistent
  have hfound : Sample.topology.node? "r1" = some Sample.device := rfl
  have hbound : ((ofTopology Sample.topology).bindDetached Sample.outside Sample.topology
      Sample.text "r1" Sample.world).1.bound = [(0, "tap7")] := by decide +kernel
  obtain ⟨-, attempts, -, hcount, -⟩ :=
    bindDetached_accounts hconsistent hfound rfl Sample.outside Sample.text Sample.world
  have hdetached : (ofTopology Sample.topology).detachedOn "r1" = [0, 1] := by decide +kernel
  rw [hbound, hdetached] at hcount
  refine ⟨hconsistent, hfound, rfl, hbound, ?_⟩
  simp only [List.length_cons, List.length_nil] at hcount
  omega

end Bindings

end OpticalTestbed
