import OpticalTestbed.Proofs.Tables
/-!
What the switch host holds, told from the calls made so far, and what the bindings record of it.
-/
namespace OpticalTestbed

namespace Event

variable {e : Event} {es made : List Event} {node tap node' tap' : String}

/-- The switch host has taken a tap into a packet switch and was not asked to give it up since. The
latest events come first. -/
def Holds (es : List Event) (node tap : String) : Prop :=
  ∃ later earlier, es = later ++ .attached node tap (.ok ()) :: earlier ∧
    ∀ answer, .detached node tap answer ∉ later

theorem not_holds_nil : ¬Holds [] node tap := by
  rintro ⟨later, earlier, he, -⟩
  simp at he

theorem holds_cons : Holds (e :: es) node tap ↔
    e = .attached node tap (.ok ()) ∨
      (∀ answer, e ≠ .detached node tap answer) ∧ Holds es node tap := by
  constructor
  · rintro ⟨later, earlier, he, hd⟩
    cases later with
    | nil => exact .inl (List.cons.inj he).1
    | cons x later =>
      obtain ⟨rfl, rfl⟩ := List.cons.inj he
      refine .inr ⟨fun answer hx => hd answer (hx ▸ List.mem_cons_self), later, earlier, rfl, ?_⟩
      exact fun answer hx => hd answer (List.mem_cons_of_mem _ hx)
  · rintro (rfl | ⟨hne, later, earlier, rfl, hd⟩)
    · exact ⟨[], es, rfl, by simp⟩
    · refine ⟨e :: later, earlier, rfl, fun answer hx => ?_⟩
      exact (List.mem_cons.1 hx).elim (fun he => hne answer he.symm) (hd answer)

theorem holds_append (h : Holds (made ++ es) node tap) :
    .attached node tap (.ok ()) ∈ made ∨ Holds es node tap := by
  induction made with
  | nil => exact .inr h
  | cons e made ih =>
    rcases holds_cons.1 h with rfl | ⟨-, h⟩
    · exact .inl List.mem_cons_self
    · exact (ih h).imp_left (List.mem_cons_of_mem _)

/-- What is held stays held until the host is asked to give it up. -/
theorem Holds.append (h : Holds es node tap) (hd : ∀ answer, .detached node tap answer ∉ made) :
    Holds (made ++ es) node tap := by
  obtain ⟨later, earlier, rfl, hl⟩ := h
  refine ⟨made ++ later, earlier, by simp, fun answer hx => ?_⟩
  exact (List.mem_append.1 hx).elim (hd answer) (hl answer)

end Event

namespace World

variable {w w' : World} {o : Outside} {node tap node' tap' : String} {answer : Except Failure Unit}

/-- The events so far, latest first. -/
def events (w : World) : List Event := w.history.map (·.event)

/-- The switch host holds a tap for a packet switch. -/
def Holds (w : World) (node tap : String) : Prop := Event.Holds w.events node tap

theorem holds_of_quiet (h : w.Quiet w') : w'.Holds node tap ↔ w.Holds node tap := by
  obtain ⟨made, he, hm⟩ := h
  have hmade : ∀ e ∈ made.map (·.event), ¬e.AsksHost := by simpa using hm
  have hev : w'.events = made.map (·.event) ++ w.events := by simp [events, he]
  unfold Holds
  rw [hev]
  constructor
  · intro hw
    exact (Event.holds_append hw).resolve_left fun hx => hmade _ hx trivial
  · exact fun hw => hw.append fun answer hx => hmade _ hx trivial

theorem events_attachTap (h : o.attachTap node tap w = (answer, w')) :
    w'.events = .attached node tap answer :: w.events := by
  cases h
  rfl

theorem events_detachTap (h : o.detachTap node tap w = (answer, w')) :
    w'.events = .detached node tap answer :: w.events := by
  cases h
  rfl

theorem holds_attachTap (h : o.attachTap node tap w = (answer, w')) :
    w'.Holds node' tap' ↔
      (answer = .ok () ∧ node' = node ∧ tap' = tap) ∨ w.Holds node' tap' := by
  unfold Holds
  rw [events_attachTap h, Event.holds_cons]
  simp only [Event.attached.injEq, ne_eq, reduceCtorEq, not_false_eq_true, implies_true, true_and]
  constructor
  · rintro (⟨rfl, rfl, rfl⟩ | hw)
    · exact .inl ⟨rfl, rfl, rfl⟩
    · exact .inr hw
  · rintro (⟨rfl, rfl, rfl⟩ | hw)
    · exact .inl ⟨rfl, rfl, rfl⟩
    · exact .inr hw

theorem holds_detachTap (h : o.detachTap node tap w = (answer, w')) :
    w'.Holds node' tap' ↔ ¬(node' = node ∧ tap' = tap) ∧ w.Holds node' tap' := by
  unfold Holds
  rw [events_detachTap h, Event.holds_cons]
  simp only [reduceCtorEq, false_or, ne_eq, Event.detached.injEq, not_and]
  constructor
  · rintro ⟨hne, hw⟩
    exact ⟨fun hn ht => hne answer hn.symm ht.symm rfl, hw⟩
  · rintro ⟨hne, hw⟩
    exact ⟨fun _ hn ht _ => hne hn.symm ht.symm, hw⟩

end World

namespace Bindings

variable {b : Bindings} {t : Topology} {name : String} {link : LinkId} {node tap : String}
  {ends : Endpoint × Endpoint}

/-- Some cross-connect to a packet switch is attached with a tap. -/
def Records (b : Bindings) (t : Topology) (node tap : String) : Prop :=
  ∃ link ends, (link, tap) ∈ b.attached ∧ t.crossConnectEnds? link = some ends ∧ ends.2.node = node

theorem records_iff : b.Records t node tap ↔ ∃ name link ends, b.tap? name link = some tap ∧
    t.crossConnectEnds? link = some ends ∧ ends.2.node = node := by
  simp only [Records, mem_attached]
  constructor
  · rintro ⟨link, ends, ⟨name, ht⟩, he, hn⟩
    exact ⟨name, link, ends, ht, he, hn⟩
  · rintro ⟨name, link, ends, ht, he, hn⟩
    exact ⟨link, ends, ⟨name, ht⟩, he, hn⟩

theorem records_markAttached (hk : name ∈ b.roadmNames) (hfree : b.tap? name link = none)
    (he : t.crossConnectEnds? link = some ends) {tap' : String} :
    (b.markAttached name link tap').Records t node tap ↔
      (node = ends.2.node ∧ tap = tap') ∨ b.Records t node tap := by
  simp only [records_iff, tap?_markAttached hk]
  constructor
  · rintro ⟨name', link', ends', ht, he', rfl⟩
    split at ht
    · rename_i hsame
      obtain ⟨rfl, rfl⟩ := hsame
      obtain rfl : ends = ends' := Option.some.inj (he.symm.trans he')
      exact .inl ⟨rfl, (Option.some.inj ht).symm⟩
    · exact .inr ⟨name', link', ends', ht, he', rfl⟩
  · rintro (⟨rfl, rfl⟩ | ⟨name', link', ends', ht, he', rfl⟩)
    · exact ⟨name, link, ends, by simp, he, rfl⟩
    · refine ⟨name', link', ends', ?_, he', rfl⟩
      rw [if_neg, ht]
      rintro ⟨rfl, rfl⟩
      rw [hfree] at ht
      cases ht

/-- Marking a link as detached takes its tap from the record and no other. -/
theorem records_of_markDetached (h : (b.markDetached name link).Records t node tap) :
    b.Records t node tap := by
  obtain ⟨name', link', ends', ht, he, hn⟩ := records_iff.1 h
  rw [tap?_markDetached] at ht
  split at ht
  · cases ht
  · exact records_iff.2 ⟨name', link', ends', ht, he, hn⟩

theorem Records.markDetached (h : b.Records t node tap) {tap' : String}
    (hlink : b.tap? name link = some tap') (he : t.crossConnectEnds? link = some ends)
    (hne : ¬(node = ends.2.node ∧ tap = tap')) :
    (b.markDetached name link).Records t node tap := by
  obtain ⟨name', link', ends', ht, he', rfl⟩ := records_iff.1 h
  refine records_iff.2 ⟨name', link', ends', ?_, he', rfl⟩
  rw [tap?_markDetached, if_neg, ht]
  rintro ⟨rfl, rfl⟩
  obtain rfl : ends = ends' := Option.some.inj (he.symm.trans he')
  exact hne ⟨rfl, Option.some.inj (ht.symm.trans hlink)⟩

/-- Everything that the switch host holds is recorded. -/
def Covers (b : Bindings) (t : Topology) (w : World) : Prop :=
  ∀ node tap, w.Holds node tap → b.Records t node tap

theorem Covers.of_quiet {w w' : World} (h : b.Covers t w) (hw : w.Quiet w') : b.Covers t w' :=
  fun node tap hh => h node tap ((World.holds_of_quiet hw).1 hh)

/-- No step of a pass loses a tap. -/
theorem passInvariant_covers (o : Outside) (t : Topology) :
    PassInvariant o t (fun b w => b.Accounts t ∧ b.Covers t w) where
  accounts h := h.1
  quiet hw h := ⟨h.1, h.2.of_quiet hw⟩
  accepted := by
    intro b w w' name link ends tap hk hl hfree he hcall h
    refine ⟨h.1.markAttached hl tap, fun node tap' hh => ?_⟩
    rw [records_markAttached hk hfree he]
    exact ((World.holds_attachTap hcall).1 hh).imp (fun hn => hn.2) (h.2 node tap')
  refused := by
    intro b w w' node tap e hcall h
    refine ⟨h.1, fun node' tap' hh => h.2 node' tap' ?_⟩
    exact ((World.holds_attachTap hcall).1 hh).resolve_left fun hn => by cases hn.1
  detached := by
    intro b w w' name link ends tap answer ht he hcall h
    refine ⟨h.1.markDetached (h.1.of_tap? ht), fun node tap' hh => ?_⟩
    obtain ⟨hne, hh⟩ := (World.holds_detachTap hcall).1 hh
    exact (h.2 node tap' hh).markDetached ht he hne
  recovered := by
    intro b w name link tap hk hl hfree h
    refine ⟨h.1.markAttached hl tap, fun node tap' hh => ?_⟩
    obtain ⟨ends, he⟩ := Topology.exists_crossConnectEnds (Topology.crossConnects_of_mem hl)
    exact (records_markAttached hk hfree he).2 (.inr (h.2 node tap' hh))

/-- What is held without being recorded is not given up when everything is detached. -/
theorem unbindInvariant_missed (o : Outside) (t : Topology) (node tap : String) :
    UnbindInvariant o t (fun b w => b.Accounts t ∧ ¬b.Records t node tap ∧ w.Holds node tap) where
  accounts h := h.1
  detached := by
    intro b w w' name link ends tap' answer ht he hcall ⟨hacc, hmissed, hh⟩
    refine ⟨hacc.markDetached (hacc.of_tap? ht), mt records_of_markDetached hmissed, ?_⟩
    refine (World.holds_detachTap hcall).2 ⟨?_, hh⟩
    rintro ⟨rfl, rfl⟩
    exact hmissed (records_iff.2 ⟨name, link, ends, ht, he, rfl⟩)

/-- Detaching everything has the host give up all that it holds exactly if all of it is recorded. -/
theorem not_holds_unbindAll_iff (h : b.Accounts t) {o : Outside} {w : World} :
    (∀ node tap, ¬(b.unbindAll o t w).2.2.Holds node tap) ↔ b.Covers t w := by
  constructor
  · intro hnone node tap hh
    by_contra hmissed
    have hkept := (unbindInvariant_missed o t node tap).unbindAll ⟨h, hmissed, hh⟩
    exact hnone node tap hkept.2.2
  · intro hc node tap hh
    have hafter := (passInvariant_covers o t).unbindAll (b := b) (w := w) ⟨h, hc⟩
    obtain ⟨name, link, ends, ht, -⟩ := records_iff.1 (hafter.2 node tap hh)
    rw [tap?_unbindAll] at ht
    cases ht

/-- Since an earlier world taps were attached and none was detached, and just those that were
accepted are recorded. -/
structure RecordsSince (b : Bindings) (t : Topology) (before w : World) : Prop where
  accounts : b.Accounts t
  made : ∃ made, w.events = made ++ before.events ∧
    (∀ node tap answer, .detached node tap answer ∉ made) ∧
    ∀ node tap, b.Records t node tap ↔ .attached node tap (.ok ()) ∈ made

theorem recordsSince_ofTopology (t : Topology) (w : World) : (ofTopology t).RecordsSince t w w := by
  refine ⟨accounts_ofTopology t, [], rfl, by simp, fun node tap => ?_⟩
  simp [records_iff, tap?_ofTopology]

theorem bindInvariant_recordsSince (o : Outside) (t : Topology) (before : World) :
    BindInvariant o t (fun b w => b.RecordsSince t before w) where
  accounts h := h.accounts
  quiet := by
    rintro b w w' ⟨calls, he, hq⟩ ⟨hacc, made, hmade, hno, hrec⟩
    have hcalls : ∀ e ∈ calls.map (·.event), ¬e.AsksHost := by simpa using hq
    have hev : w'.events = calls.map (·.event) ++ w.events := by simp [World.events, he]
    refine ⟨hacc, calls.map (·.event) ++ made, by rw [hev, hmade, List.append_assoc], ?_, ?_⟩
    · intro node tap answer hx
      exact (List.mem_append.1 hx).elim (fun hx => hcalls _ hx trivial) (hno node tap answer)
    · intro node tap
      rw [hrec, List.mem_append]
      exact ⟨.inr, fun hx => hx.resolve_left fun hx => hcalls _ hx trivial⟩
  accepted := by
    rintro b w w' name link ends tap hk hl hfree he hcall ⟨hacc, made, hmade, hno, hrec⟩
    refine ⟨hacc.markAttached hl tap, .attached ends.2.node tap (.ok ()) :: made, ?_, ?_, ?_⟩
    · rw [World.events_attachTap hcall, hmade, List.cons_append]
    · simpa using hno
    · intro node tap'
      rw [records_markAttached hk hfree he, hrec]
      simp
  refused := by
    rintro b w w' node tap e hcall ⟨hacc, made, hmade, hno, hrec⟩
    refine ⟨hacc, .attached node tap (.error e) :: made, ?_, ?_, ?_⟩
    · rw [World.events_attachTap hcall, hmade, List.cons_append]
    · simpa using hno
    · simpa using hrec

end Bindings

namespace World

/-- The switch host has taken a tap into a packet switch since an earlier world. -/
def TookSince (before w : World) (node tap : String) : Prop :=
  ∃ made, w.events = made ++ before.events ∧ .attached node tap (.ok ()) ∈ made

end World

namespace Bindings

variable {b : Bindings} {t : Topology}

/-- What is recorded is what was taken since. -/
theorem RecordsSince.took_iff {before w : World} {node tap : String}
    (h : b.RecordsSince t before w) : before.TookSince w node tap ↔ b.Records t node tap := by
  obtain ⟨-, made, hmade, -, hrec⟩ := h
  rw [hrec]
  constructor
  · rintro ⟨made', hmade', hx⟩
    rwa [List.append_cancel_right (hmade.symm.trans hmade')]
  · exact fun hx => ⟨made, hmade, hx⟩

/-- Binding afresh records all that is held exactly if the host takes all that it held already once
more. -/
theorem covers_bindAll_iff (o : Outside) (t : Topology) (sysConfig : String) (w : World) :
    ((ofTopology t).bindAll o t sysConfig w).2.1.Covers t
        ((ofTopology t).bindAll o t sysConfig w).2.2 ↔
      ∀ node tap, w.Holds node tap →
        w.TookSince ((ofTopology t).bindAll o t sysConfig w).2.2 node tap := by
  have hsince := (bindInvariant_recordsSince o t w).bindAll sysConfig (recordsSince_ofTopology t w)
  obtain ⟨made, hmade, hno, hrec⟩ := hsince.made
  constructor
  · intro hc node tap hh
    refine hsince.took_iff.2 (hc node tap ?_)
    unfold World.Holds
    rw [hmade]
    exact Event.Holds.append hh (hno node tap)
  · intro htook node tap hh
    unfold World.Holds at hh
    rw [hmade] at hh
    rcases Event.holds_append hh with hx | hx
    · exact (hrec node tap).2 hx
    · exact hsince.took_iff.1 (htook node tap hx)

/-- A `sys.config` names a tap for a cross-connect to a packet switch. -/
def Names (t : Topology) (sysConfig node tap : String) : Prop :=
  ∃ roadm ∈ t.nodes, roadm.isRoadm = true ∧ ∃ link ∈ t.crossConnectsOf roadm.name,
    ∃ ends, t.crossConnectEnds? link = some ends ∧ ends.2.node = node ∧
      tapBehind sysConfig roadm.dpid ends.1.port = .ok tap

theorem records_recover (built : t.Built) (sysConfig : String) {node tap : String} :
    ((ofTopology t).recover t sysConfig).2.Records t node tap ↔ Names t sysConfig node tap := by
  have hfor : ∀ {roadm : Node} {link ends}, t.crossConnectEnds? link = some ends →
      (tapFor t sysConfig roadm link = some tap ↔
        tapBehind sysConfig roadm.dpid ends.1.port = .ok tap) := by
    intro roadm link ends he
    simp only [tapFor, he, Option.bind_some]
    cases tapBehind sysConfig roadm.dpid ends.1.port <;> simp [Except.toOption]
  simp only [records_iff, tap?_recover built]
  constructor
  · rintro ⟨name, link, ends, ⟨roadm, hmem, hroadm, rfl, hl, ht⟩, he, hn⟩
    exact ⟨roadm, hmem, hroadm, link, hl, ends, he, hn, (hfor he).1 ht⟩
  · rintro ⟨roadm, hmem, hroadm, link, hl, ends, he, hn, ht⟩
    exact ⟨_, link, ends, ⟨roadm, hmem, hroadm, rfl, hl, (hfor he).2 ht⟩, he, hn⟩

end Bindings

end OpticalTestbed
