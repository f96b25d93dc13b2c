import OpticalTestbed.Proofs.Interfaces
import OpticalTestbed.Proofs.Passes
/-!
What a binding pass reports: the links that it has attached are those that the bindings gain, and
its warnings are the failures of its calls and the taps that were not found. It leaves no warning
exactly if every link that it went through is attached.
-/
namespace OpticalTestbed

/-- Whether an event belongs to the binding of links. -/
inductive Event.BindsLinks : Event → Prop
  | ran {call : Invocation} {answer : Except Failure String} :
    Interfaces.IsCall call → BindsLinks (.ran call answer)
  | attached {node tap : String} {answer : Except Failure Unit} :
    BindsLinks (.attached node tap answer)

section Attaching

variable {o : Outside} {sysConfig : String} {roadm : Node} {roadmEnd packetEnd : Endpoint}
  {w w' : World} {link : LinkId} {tap : String} {e : Failure}

/-- Once its tap is found, a link is attached by calls alone. -/
theorem attachLink_eq (h : tapBehind sysConfig roadm.dpid roadmEnd.port = .ok tap) :
    attachLink o sysConfig roadm roadmEnd packetEnd w =
      (Interfaces.ensure o tap >>= fun _ => o.attachTap packetEnd.node tap >>= fun _ =>
        (pure tap : Op String)) w := by
  simp only [attachLink, h, Op.bind_apply]
  split <;> rename_i hensured <;> simp only [hensured]
  split <;> rename_i hattached <;> simp only [hattached, Op.pure_apply]

theorem tapBehind_error {dpid : Dpid} {port : Nat} (h : tapBehind sysConfig dpid port = .error e) :
    ∃ miss, e = .discoveryMiss dpid.text port miss := by
  unfold tapBehind at h
  split at h <;> cases h
  exact ⟨_, rfl⟩

theorem Op.reports_attachTap (node tap : String) : (o.attachTap node tap).Reports :=
  fun w => ⟨_, o.traces_attachTap w node tap, by simp [Event.FailsWith]⟩

/-- Once its tap is found, an attempt fails exactly if one of its calls does, and as that does. -/
theorem attachLink_calls (h : tapBehind sysConfig roadm.dpid roadmEnd.port = .ok tap) (o : Outside)
    (packetEnd : Endpoint) (w : World) :
    ∃ trace, w.Traces (attachLink o sysConfig roadm roadmEnd packetEnd w).2 trace ∧
      ∀ e, (attachLink o sysConfig roadm roadmEnd packetEnd w).1 = .error e ↔
        ∃ c ∈ trace, c.event.FailsWith e := by
  have hcalls := (Interfaces.reports_ensure (o := o) tap).bind fun _ =>
    (Op.reports_attachTap (o := o) packetEnd.node tap).bind fun _ => Op.reports_pure tap
  rw [attachLink_eq h]
  exact hcalls w

theorem attachLink_missed (h : tapBehind sysConfig roadm.dpid roadmEnd.port = .error e) :
    attachLink o sysConfig roadm roadmEnd packetEnd w = (.error e, w) := by
  simp only [attachLink, h]

/-- An attempt fails with a tap that is not found, before any call, or with the failure of one of
its calls. -/
theorem attachLink_reports (o : Outside) (sysConfig : String) (roadm : Node)
    (roadmEnd packetEnd : Endpoint) (w : World) :
    ∃ trace, w.Traces (attachLink o sysConfig roadm roadmEnd packetEnd w).2 trace ∧
      ((∃ dpid port miss, trace = [] ∧ (attachLink o sysConfig roadm roadmEnd packetEnd w).1 =
          .error (.discoveryMiss dpid port miss)) ∨
        ∀ e, (attachLink o sysConfig roadm roadmEnd packetEnd w).1 = .error e ↔
          ∃ c ∈ trace, c.event.FailsWith e) := by
  cases htap : tapBehind sysConfig roadm.dpid roadmEnd.port with
  | error e =>
    obtain ⟨miss, rfl⟩ := tapBehind_error htap
    rw [attachLink_missed htap]
    exact ⟨[], World.traces_of_history_eq rfl, .inl ⟨_, _, miss, rfl, rfl⟩⟩
  | ok tap =>
    obtain ⟨trace, htrace, hfails⟩ := attachLink_calls htap o packetEnd w
    exact ⟨trace, htrace, .inr hfails⟩

theorem attachLink_along {R : World → World → Prop} [Std.Refl R] [IsTrans World R]
    (hi : ∀ i, Interfaces.IsCall i → (o.call i).Along R)
    (ha : ∀ node tap, (o.attachTap node tap).Along R) :
    (attachLink o sysConfig roadm roadmEnd packetEnd).Along R := by
  intro w
  have path := attachLink_path o sysConfig roadm roadmEnd packetEnd w
  generalize attachLink o sysConfig roadm roadmEnd packetEnd w = result at path
  have hensure : ∀ tap, (Interfaces.ensure o tap).Along R :=
    fun tap => Interfaces.ensure_of_calls Op.composes_along hi tap
  cases path with
  | missed => exact refl w
  | unready _ ensured => exact (hensure _).of_eq ensured
  | refused _ ensured attached =>
    exact IsTrans.trans _ _ _ ((hensure _).of_eq ensured) ((ha _ _).of_eq attached)
  | accepted _ ensured attached =>
    exact IsTrans.trans _ _ _ ((hensure _).of_eq ensured) ((ha _ _).of_eq attached)

theorem explained_of_attached
    (h : attachLink o sysConfig roadm roadmEnd packetEnd w = (.ok tap, w')) :
    ∃ trace, w.Traces w' trace ∧ ExplainedBy [] trace := by
  obtain ⟨trace, htrace, hreports⟩ := attachLink_reports o sysConfig roadm roadmEnd packetEnd w
  rw [h] at htrace hreports
  refine ⟨trace, htrace, fun c hc e he => ?_, by simp⟩
  rcases hreports with ⟨_, _, _, -, hmiss⟩ | hfails
  · cases hmiss
  · cases (hfails e).2 ⟨c, hc, he⟩

theorem explained_of_refused
    (h : attachLink o sysConfig roadm roadmEnd packetEnd w = (.error e, w')) :
    ∃ trace, w.Traces w' trace ∧ ExplainedBy [e] trace := by
  obtain ⟨trace, htrace, hreports⟩ := attachLink_reports o sysConfig roadm roadmEnd packetEnd w
  rw [h] at htrace hreports
  refine ⟨trace, htrace, ?_⟩
  rcases hreports with ⟨dpid, port, miss, rfl, hmiss⟩ | hfails
  · obtain rfl := Except.error.inj hmiss
    exact ⟨by simp, by simp [Failure.isFatal]⟩
  · refine ⟨fun c hc e' he => ?_, ?_⟩
    · obtain rfl := Except.error.inj ((hfails e').2 ⟨c, hc, he⟩)
      exact List.mem_cons_self
    · simpa using .inl ((hfails e).1 rfl)

end Attaching

/-- What a pass did for one link. -/
structure Attempt where
  link : LinkId
  answer : Except Failure String
  calls : List Occurrence

namespace Attempt

/-- What the attempt adds to the links that are reported as bound. -/
def bound? (a : Attempt) : Option (LinkId × String) := a.answer.toOption.map (a.link, ·)

/-- What the attempt adds to the warnings. -/
def warning? (a : Attempt) : Option Failure :=
  match a.answer with
  | .ok _ => none
  | .error e => some e

def report (a : Attempt) : BindReport := ⟨a.bound?.toList, a.warning?.toList⟩

theorem warnings_report (a : Attempt) :
    a.report.warnings = [] ↔ ∃ tap, a.answer.toOption = some tap := by
  obtain ⟨link, e | tap, calls⟩ := a <;> simp [report, warning?, Except.toOption]

end Attempt

namespace Bindings

variable {o : Outside} {t : Topology} {b : Bindings} {w : World} {name : String} {link : LinkId}
  {links : List LinkId} {names : List String} {sysConfig : String} {roadm : Node}

/-- A relation between what there is before a binding pass, what the pass reports and what there is
afterwards. It holds of whole passes as soon as it holds of their steps. -/
structure PassRelation (o : Outside) (t : Topology)
    (R : Bindings × World → BindReport → Bindings × World → Prop) : Prop where
  nothing {s} : R s .empty s
  append {s s' s'' r r'} : R s r s' → R s' r' s'' → R s (r.append r') s''
  attached {b w w' sysConfig roadm link roadmEnd packetEnd tap} : roadm.name ∈ b.roadmNames →
    b.tap? roadm.name link = none →
    attachLink o sysConfig roadm roadmEnd packetEnd w = (.ok tap, w') →
    R (b, w) ⟨[(link, tap)], []⟩ (b.markAttached roadm.name link tap, w')
  refused {b w w' sysConfig roadm roadmEnd packetEnd e} :
    attachLink o sysConfig roadm roadmEnd packetEnd w = (.error e, w') →
    R (b, w) ⟨[], [e]⟩ (b, w')

namespace PassRelation

variable {R : Bindings × World → BindReport → Bindings × World → Prop}

theorem bindLinks (h : PassRelation o t R) (sysConfig : String) (roadm : Node)
    (hp : b.Pending t roadm.name links) :
    R (b, w) (Bindings.bindLinks o t sysConfig roadm links b w).1
      (Bindings.bindLinks o t sysConfig roadm links b w).2 := by
  induction links generalizing b w with
  | nil => exact h.nothing
  | cons link more ih =>
    simp only [Bindings.bindLinks]
    split
    · exact ih hp.tail
    · split
      · rename_i attached
        have hfree := (hp.free link List.mem_cons_self).2
        exact h.append (h.attached hp.known hfree attached) (ih (hp.markAttached _))
      · rename_i refused
        exact h.append (h.refused refused) (ih hp.tail)

theorem bindDetached (h : PassRelation o t R) (sysConfig name : String) (ha : b.Accounts t) :
    R (b, w) (b.bindDetached o t sysConfig name w).1 (b.bindDetached o t sysConfig name w).2 := by
  unfold Bindings.bindDetached
  split
  · rename_i r node hr hn
    obtain ⟨-, rfl⟩ := Topology.node?_mem hn
    exact h.bindLinks sysConfig node (ha.pending hr)
  · exact h.nothing

theorem bindEach (h : PassRelation o t R) (sysConfig : String) (names : List String)
    (ha : b.Accounts t) : R (b, w) (Bindings.bindEach o t sysConfig names b w).1
      (Bindings.bindEach o t sysConfig names b w).2 := by
  induction names generalizing b w with
  | nil => exact h.nothing
  | cons name more ih =>
    have hkept :=
      (passInvariant_accounts o t).toBindInvariant.bindDetached (w := w) sysConfig name ha
    exact h.append (h.bindDetached sysConfig name ha) (ih hkept)

theorem bindAll (h : PassRelation o t R) (sysConfig : String) (ha : b.Accounts t) :
    R (b, w) (b.bindAll o t sysConfig w).1 (b.bindAll o t sysConfig w).2 :=
  h.bindEach sysConfig _ ha

end PassRelation

/-- A pass goes where its calls go. -/
theorem passRelation_along {R : World → World → Prop} [Std.Refl R] [IsTrans World R]
    (hi : ∀ i, Interfaces.IsCall i → (o.call i).Along R)
    (ha : ∀ node tap, (o.attachTap node tap).Along R) :
    PassRelation o t (fun s _ s' => R s.2 s'.2) where
  nothing := refl _
  append := IsTrans.trans _ _ _
  attached _ _ h := (attachLink_along hi ha).of_eq h
  refused h := (attachLink_along hi ha).of_eq h

/-- The bindings gain the links that are reported as bound. -/
theorem passRelation_gains (o : Outside) (t : Topology) :
    PassRelation o t (fun s r s' => s'.1.attached.Perm (r.bound ++ s.1.attached)) where
  nothing := .refl _
  append := by
    intro s s' s'' r r' h h'
    refine (h'.trans (h.append_left _)).trans ?_
    rw [← List.append_assoc]
    exact List.perm_append_comm.append_right _
  attached hk hfree _ := attached_markAttached hk hfree _
  refused _ := .refl _

theorem passRelation_explained (o : Outside) (t : Topology) :
    PassRelation o t fun s r s' => ∃ trace, s.2.Traces s'.2 trace ∧
      ExplainedBy r.warnings trace where
  nothing := ⟨[], World.traces_of_history_eq rfl, explainedBy_nil⟩
  append := by
    rintro s s' s'' r r' ⟨trace, htrace, he⟩ ⟨trace', htrace', he'⟩
    exact ⟨trace ++ trace', htrace.append htrace', he.append he'⟩
  attached _ _ h := explained_of_attached h
  refused h := explained_of_refused h

/-- A pass from nothing: what it calls, and what its warnings are. -/
theorem explained_bindAll (o : Outside) (t : Topology) (sysConfig : String) (w : World) :
    ∃ trace, w.Traces ((ofTopology t).bindAll o t sysConfig w).2.2 trace ∧
      (∀ c ∈ trace, c.event.BindsLinks) ∧
      ExplainedBy ((ofTopology t).bindAll o t sysConfig w).1.warnings trace := by
  have hacc := accounts_ofTopology t
  have hi : ∀ i, Interfaces.IsCall i → (o.call i).Along (World.Calls Event.BindsLinks) :=
    fun i hi v => World.calls_iff_traces.2 ⟨_, o.traces_call v i, by simpa using .ran hi⟩
  have ha : ∀ node tap, (o.attachTap node tap).Along (World.Calls Event.BindsLinks) :=
    fun node tap v => World.calls_iff_traces.2
      ⟨_, o.traces_attachTap v node tap, by simpa using .attached⟩
  have hcalls := (passRelation_along hi ha).bindAll (w := w) sysConfig hacc
  obtain ⟨trace, htrace, hexplained⟩ :=
    (passRelation_explained o t).bindAll (w := w) sysConfig hacc
  exact ⟨trace, htrace, htrace.forall_of_calls hcalls, hexplained⟩

/-- A pass from nothing attaches what it reports as bound, and nothing else. -/
theorem attached_bindAll (o : Outside) (t : Topology) (sysConfig : String) (w : World) :
    ((ofTopology t).bindAll o t sysConfig w).2.1.attached.Perm
      ((ofTopology t).bindAll o t sysConfig w).1.bound := by
  have hgains := (passRelation_gains o t).bindAll (w := w) sysConfig (accounts_ofTopology t)
  simpa [attached_ofTopology] using hgains

/-! ## Link after link -/

/-- What the answer of an attempt makes of the bindings. -/
def settle (b : Bindings) (name : String) (link : LinkId) : Except Failure String → Bindings
  | .ok tap => b.markAttached name link tap
  | .error _ => b

theorem consistent_settle (h : b.Consistent t) (hl : link ∈ t.crossConnectsOf name)
    (answer : Except Failure String) : (b.settle name link answer).Consistent t := by
  cases answer with
  | error e => exact h
  | ok tap => exact h.markAttached hl tap

theorem roadm?_settle {other : String} (h : other ≠ name) (answer : Except Failure String) :
    (b.settle name link answer).roadm? other = b.roadm? other := by
  cases answer with
  | error e => rfl
  | ok tap => rw [settle, markAttached, roadm?_update, if_neg h]

/-- A link that had no tap has the one that the answer is. -/
theorem tap?_settle_self (hk : name ∈ b.roadmNames) (hfree : b.tap? name link = none)
    (answer : Except Failure String) :
    (b.settle name link answer).tap? name link = answer.toOption := by
  cases answer with
  | error e => exact hfree
  | ok tap => rw [settle, tap?_markAttached hk, if_pos ⟨rfl, rfl⟩, Except.toOption]

theorem tap?_settle_other {other : String} {link' : LinkId} (hk : name ∈ b.roadmNames)
    (h : link' ≠ link) (answer : Except Failure String) :
    (b.settle name link answer).tap? other link' = b.tap? other link' := by
  cases answer with
  | error e => rfl
  | ok tap => rw [settle, tap?_markAttached hk, if_neg fun he => h he.2]

theorem Pending.settle (h : b.Pending t name (link :: links)) (answer : Except Failure String) :
    (b.settle name link answer).Pending t name links := by
  cases answer with
  | error e => exact h.tail
  | ok tap => exact h.markAttached tap

theorem mem_roadmNames_settle (answer : Except Failure String) (other : String) :
    other ∈ (b.settle name link answer).roadmNames ↔ other ∈ b.roadmNames := by
  cases answer with
  | error e => rfl
  | ok tap => exact mem_roadmNames_update _ _

/-- A pass looks after its first link, and goes on from what has become of it. -/
theorem bindLinks_cons {own far : Endpoint} (h : t.crossConnectEnds? link = some (own, far))
    (calls : List Occurrence) : bindLinks o t sysConfig roadm (link :: links) b w =
      let attempt := attachLink o sysConfig roadm own far w
      let rest := bindLinks o t sysConfig roadm links (b.settle roadm.name link attempt.1) attempt.2
      ((Attempt.mk link attempt.1 calls).report.append rest.1, rest.2) := by
  simp only [bindLinks, h]
  split <;> rename_i hattached <;> rw [hattached] <;> rfl

/-! ## Passes without a warning -/

theorem roadm?_bindLinks (h : name ≠ roadm.name) :
    (bindLinks o t sysConfig roadm links b w).2.1.roadm? name = b.roadm? name := by
  induction links generalizing b w with
  | nil => rfl
  | cons link more ih =>
    cases he : t.crossConnectEnds? link with
    | none =>
      simp only [bindLinks, he]
      exact ih
    | some ends =>
      rw [bindLinks_cons he []]
      exact ih.trans (roadm?_settle h _)

theorem roadm?_bindDetached {first : String} (h : name ≠ first) :
    (b.bindDetached o t sysConfig first w).2.1.roadm? name = b.roadm? name := by
  unfold bindDetached
  split
  · rename_i node _ hnode
    obtain ⟨-, rfl⟩ := Topology.node?_mem hnode
    exact roadm?_bindLinks h
  · rfl

theorem roadm?_bindEach (h : name ∉ names) :
    (bindEach o t sysConfig names b w).2.1.roadm? name = b.roadm? name := by
  induction names generalizing b w with
  | nil => rfl
  | cons first more ih =>
    obtain ⟨hfirst, hmore⟩ := not_or.1 (List.mem_cons.not.1 h)
    exact (ih hmore).trans (roadm?_bindDetached hfirst)

/-- Links that are not gone through keep their taps. -/
theorem tap?_bindLinks (sysConfig name : String) (hk : roadm.name ∈ b.roadmNames)
    (h : link ∉ links) :
    (bindLinks o t sysConfig roadm links b w).2.1.tap? name link = b.tap? name link := by
  induction links generalizing b w with
  | nil => rfl
  | cons first more ih =>
    obtain ⟨hfirst, hmore⟩ := not_or.1 (List.mem_cons.not.1 h)
    cases he : t.crossConnectEnds? first with
    | none =>
      simp only [bindLinks, he]
      exact ih hk hmore
    | some ends =>
      rw [bindLinks_cons he []]
      exact (ih ((mem_roadmNames_settle _ _).2 hk) hmore).trans (tap?_settle_other hk hfirst _)

theorem warnings_bindLinks (hp : b.Pending t roadm.name links) :
    (bindLinks o t sysConfig roadm links b w).1.warnings = [] ↔ ∀ link ∈ links,
      ∃ tap, (bindLinks o t sysConfig roadm links b w).2.1.tap? roadm.name link = some tap := by
  induction links generalizing b w with
  | nil => simp [bindLinks, BindReport.empty]
  | cons link more ih =>
    obtain ⟨hmem, hfree⟩ := hp.free link List.mem_cons_self
    have hlink : link ∉ more := (List.nodup_cons.1 hp.nodup).1
    obtain ⟨ends, he⟩ := Topology.exists_crossConnectEnds (Topology.crossConnects_of_mem hmem)
    rw [bindLinks_cons he []]
    generalize attachLink o sysConfig roadm ends.1 ends.2 w = outcome
    have hrest := ih (hp.settle outcome.1) (w := outcome.2)
    have hkept := (tap?_bindLinks (o := o) (t := t) (w := outcome.2) sysConfig roadm.name
      (hp.settle outcome.1).known hlink).trans (tap?_settle_self hp.known hfree outcome.1)
    simp only [BindReport.append, List.append_eq_nil_iff, List.forall_mem_cons, hrest, hkept,
      Attempt.warnings_report]

theorem warnings_bindDetached (sysConfig : String) (ha : b.Accounts t)
    (hnode : t.node? name = some roadm) (hk : name ∈ b.roadmNames) :
    (b.bindDetached o t sysConfig name w).1.warnings = [] ↔ ∀ link ∈ t.crossConnectsOf name,
      ∃ tap, (b.bindDetached o t sysConfig name w).2.1.tap? name link = some tap := by
  obtain ⟨r, hr⟩ := Option.isSome_iff_exists.1 (mem_roadmNames.1 hk)
  obtain ⟨-, rfl⟩ := Topology.node?_mem hnode
  have hlinks := ha.links _ r hr
  have hd : b.bindDetached o t sysConfig roadm.name w =
      bindLinks o t sysConfig roadm r.detached.toList b w := by simp [bindDetached, hr, hnode]
  rw [hd, warnings_bindLinks (ha.pending hr)]
  constructor
  · intro h link hlink
    rcases (hlinks.all link).2 hlink with hattached | hdetached
    · -- what was attached before is not gone through
      rw [tap?_bindLinks _ _ hk (hlinks.apart link hattached)]
      obtain ⟨tap, htap⟩ := Dict.mem_keys.1 hattached
      exact ⟨tap, by simpa [tap?, hr] using Dict.get?_eq_some_iff.2 htap⟩
    · exact h link hdetached
  · exact fun h link hlink => h link ((hlinks.all link).1 (.inr hlink))

theorem warnings_bindEach (sysConfig : String) (ha : b.Accounts t) (hn : names.Nodup)
    (hk : ∀ name ∈ names, name ∈ b.roadmNames ∧ ∃ roadm, t.node? name = some roadm) :
    (bindEach o t sysConfig names b w).1.warnings = [] ↔
      ∀ name ∈ names, ∀ link ∈ t.crossConnectsOf name,
        ∃ tap, (bindEach o t sysConfig names b w).2.1.tap? name link = some tap := by
  induction names generalizing b w with
  | nil => simp [bindEach, BindReport.empty]
  | cons name more ih =>
    obtain ⟨hname, hmore⟩ := List.nodup_cons.1 hn
    obtain ⟨hknown, roadm, hroadm⟩ := hk name List.mem_cons_self
    have hkept :=
      (passInvariant_accounts o t).toBindInvariant.bindDetached (w := w) sysConfig name ha
    have hnames : ∀ x, x ∈ (b.bindDetached o t sysConfig name w).2.1.roadmNames ↔
        x ∈ b.roadmNames := fun x => by rw [hkept.names, ha.names]
    have hfirst := warnings_bindDetached (o := o) (w := w) sysConfig ha hroadm hknown
    have hrest := ih (w := (b.bindDetached o t sysConfig name w).2.2) hkept hmore fun x hx =>
      ⟨(hnames x).2 (hk x (List.mem_cons_of_mem _ hx)).1, (hk x (List.mem_cons_of_mem _ hx)).2⟩
    have hlater : ∀ link, (bindEach o t sysConfig more (b.bindDetached o t sysConfig name w).2.1
        (b.bindDetached o t sysConfig name w).2.2).2.1.tap? name link =
          (b.bindDetached o t sysConfig name w).2.1.tap? name link :=
      fun link => by rw [tap?, roadm?_bindEach hname, ← tap?]
    simp only [bindEach, BindReport.append, List.append_eq_nil_iff, List.forall_mem_cons, hfirst,
      hrest, hlater]

/-- A pass from nothing leaves no warning exactly if it attaches every cross-connect. -/
theorem warnings_bindAll (built : t.Built) (o : Outside) (sysConfig : String) (w : World) :
    ((ofTopology t).bindAll o t sysConfig w).1.warnings = [] ↔ ∀ link ∈ t.crossConnects,
      ∃ tap, (link, tap) ∈ ((ofTopology t).bindAll o t sysConfig w).2.1.attached := by
  have hacc := accounts_ofTopology t
  have hafter := hacc.bindAll o sysConfig w
  have hroadm : ∀ name ∈ (ofTopology t).roadmNames,
      ∃ roadm, t.node? name = some roadm ∧ roadm.isRoadm = true := by
    intro name hname
    obtain ⟨roadm, hmem, hroadm, rfl⟩ := (hacc.names name).1 hname
    exact ⟨roadm, built.node?_eq hmem, hroadm⟩
  have hclean := warnings_bindEach (o := o) (w := w) sysConfig hacc
    (Dict.nodup_keys _) fun name hname => ⟨hname, (hroadm name hname).imp fun _ => And.left⟩
  refine hclean.trans ⟨fun h link hlink => ?_, fun h name hname link hlink => ?_⟩
  · obtain ⟨roadm, hmem, hroadm, hon⟩ := Topology.exists_roadm hlink
    obtain ⟨tap, htap⟩ := h roadm.name ((hacc.names _).2 ⟨roadm, hmem, hroadm, rfl⟩) link hon
    exact ⟨tap, mem_attached.2 ⟨roadm.name, htap⟩⟩
  · obtain ⟨tap, htap⟩ := h link (Topology.crossConnects_of_mem hlink)
    obtain ⟨name', htap⟩ := mem_attached.1 htap
    -- the link is on one ROADM only
    have hname' : name' ∈ ((ofTopology t).bindAll o t sysConfig w).2.1.roadmNames := by
      obtain ⟨r, hr, -⟩ := Option.bind_eq_some_iff.1 htap
      exact mem_roadmNames.2 (by rw [hr]; rfl)
    rw [hafter.names, ← hacc.names] at hname'
    obtain ⟨roadm, hnode, hisRoadm⟩ := hroadm name hname
    obtain ⟨roadm', hnode', hisRoadm'⟩ := hroadm name' hname'
    obtain ⟨-, rfl⟩ := Topology.node?_mem hnode
    obtain ⟨-, rfl⟩ := Topology.node?_mem hnode'
    obtain rfl := Topology.crossConnect_roadm_unique hlink (hafter.of_tap? htap) hnode hnode'
      hisRoadm hisRoadm'
    exact ⟨tap, htap⟩

end Bindings

end OpticalTestbed
