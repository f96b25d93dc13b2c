import OpticalTestbed.Proofs.World
/-!
What was called between two worlds, call by call.
-/
namespace OpticalTestbed

namespace World

variable {u v w : World} {a b : List Occurrence} {P : Event → Prop}

/-- What was called between two worlds, the earliest call first. -/
def Traces (w w' : World) (trace : List Occurrence) : Prop :=
  w'.history = trace.reverse ++ w.history

theorem traces_of_history_eq (h : v.history = u.history) : u.Traces v [] := h

theorem Traces.append (h : u.Traces v a) (h' : v.Traces w b) : u.Traces w (a ++ b) := by
  rw [Traces, h', h, List.reverse_append, List.append_assoc]

/-- There is one trace at most between two worlds. -/
theorem Traces.unique (h : u.Traces v a) (h' : u.Traces v b) : a = b :=
  List.reverse_inj.1 (List.append_cancel_right (h.symm.trans h'))

theorem calls_iff_traces :
    Calls P u v ↔ ∃ trace, u.Traces v trace ∧ ∀ c ∈ trace, P c.event := by
  constructor
  · rintro ⟨made, hmade, hm⟩
    exact ⟨made.reverse, by rw [Traces, hmade, List.reverse_reverse], by simpa using hm⟩
  · rintro ⟨trace, htrace, ht⟩
    exact ⟨trace.reverse, htrace, by simpa using ht⟩

theorem Traces.forall_of_calls (h : u.Traces v a) (hP : u.Calls P v) : ∀ c ∈ a, P c.event := by
  obtain ⟨trace, htrace, ht⟩ := calls_iff_traces.1 hP
  rwa [h.unique htrace]

/-- Work that makes no call adds nothing to a trace. -/
theorem Traces.silent (h : u.Traces v a) (hw : v.Calls (fun _ => False) w) : u.Traces w a := by
  rw [Traces, history_eq_of_calls hw]
  exact h

end World

/-- An event in which somebody was asked to act and answered a certain failure. A report of devices
that fails is none: it is asked for again. -/
def Event.FailsWith (e : Failure) : Event → Prop
  | .ran _ answer => answer = .error e
  | .attached _ _ answer | .detached _ _ answer => answer = .error e
  | .fetched _ => False

/-- Some failures are those of the calls of a trace; any others would not end a bring-up. -/
structure ExplainedBy (es : List Failure) (trace : List Occurrence) : Prop where
  reported : ∀ c ∈ trace, ∀ e, c.event.FailsWith e → e ∈ es
  caused : ∀ e ∈ es, (∃ c ∈ trace, c.event.FailsWith e) ∨ e.isFatal = false

section ExplainedBy

variable {es fs : List Failure} {a b : List Occurrence}

theorem explainedBy_nil : ExplainedBy [] [] := ⟨by simp, by simp⟩

theorem ExplainedBy.append (h : ExplainedBy es a) (h' : ExplainedBy fs b) :
    ExplainedBy (es ++ fs) (a ++ b) where
  reported := by
    intro c hc e he
    rcases List.mem_append.1 hc with hc | hc
    · exact List.mem_append_left _ (h.reported c hc e he)
    · exact List.mem_append_right _ (h'.reported c hc e he)
  caused := by
    intro e he
    rcases List.mem_append.1 he with he | he
    · refine (h.caused e he).imp_left ?_
      exact fun ⟨c, hc, hf⟩ => ⟨c, List.mem_append_left _ hc, hf⟩
    · refine (h'.caused e he).imp_left ?_
      exact fun ⟨c, hc, hf⟩ => ⟨c, List.mem_append_right _ hc, hf⟩

theorem ExplainedBy.fatal_iff (h : ExplainedBy es a) {e : Failure} (he : e.isFatal = true) :
    e ∈ es ↔ ∃ c ∈ a, c.event.FailsWith e := by
  constructor
  · intro hmem
    refine (h.caused e hmem).resolve_right fun hlight => ?_
    rw [he] at hlight
    cases hlight
  · rintro ⟨c, hc, hf⟩
    exact h.reported c hc e hf

end ExplainedBy

namespace Outside

variable (o : Outside) (w : World)

theorem traces_call (i : Invocation) :
    w.Traces (o.call i w).2 [⟨.ran i (o.call i w).1, w.files⟩] := rfl

theorem traces_attachTap (node tap : String) : w.Traces (o.attachTap node tap w).2
    [⟨.attached node tap (o.attachTap node tap w).1, w.files⟩] := rfl

theorem traces_fetchDevices :
    w.Traces (o.fetchDevices w).2 [⟨.fetched (o.fetchDevices w).1, w.files⟩] := rfl

end Outside

namespace Op

variable {α β : Type}

/-- Work that fails exactly if one of its calls does, and with the failure of that call. -/
def Reports (x : Op α) : Prop :=
  ∀ w, ∃ trace, w.Traces (x w).2 trace ∧
    ∀ e, (x w).1 = .error e ↔ ∃ c ∈ trace, c.event.FailsWith e

theorem reports_pure (a : α) : (pure a : Op α).Reports :=
  fun _ => ⟨[], World.traces_of_history_eq rfl, by simp⟩

theorem Reports.bind {x : Op α} {f : α → Op β} (hx : x.Reports) (hf : ∀ a, (f a).Reports) :
    (x >>= f).Reports := by
  intro w
  obtain ⟨first, hfirst, hxe⟩ := hx w
  rw [bind_apply]
  generalize x w = result at hfirst hxe
  obtain ⟨answer, v⟩ := result
  cases answer with
  | error e => exact ⟨first, hfirst, fun e' => by simpa using hxe e'⟩
  | ok a =>
    obtain ⟨more, hmore, hfe⟩ := hf a v
    refine ⟨first ++ more, hfirst.append hmore, fun e => ?_⟩
    -- no call of the first part failed
    have hnone : ¬∃ c ∈ first, c.event.FailsWith e := fun h => by cases (hxe e).2 h
    simp only [hfe, List.mem_append, or_and_right, exists_or, hnone, false_or]

section Tells

variable {x : Op α} {P Q : Except Failure α → List Event → Prop}

/-- What is called and what is answered always belong together in a certain way. -/
def Tells (x : Op α) (P : Except Failure α → List Event → Prop) : Prop :=
  ∀ w, ∃ calls, w.Traces (x w).2 calls ∧ P (x w).1 (calls.map (·.event))

theorem tells_pure (a : α) : (pure a : Op α).Tells fun r es => r = .ok a ∧ es = [] :=
  fun _ => ⟨[], World.traces_of_history_eq rfl, rfl, rfl⟩

theorem tells_call (o : Outside) (i : Invocation) :
    (o.call i).Tells fun r es => es = [.ran i r] := fun w => ⟨_, o.traces_call w i, rfl⟩

theorem tells_attachTap (o : Outside) (node tap : String) :
    (o.attachTap node tap).Tells fun r es => es = [.attached node tap r] :=
  fun w => ⟨_, o.traces_attachTap w node tap, rfl⟩

/-- Work that tells its failures by those of its calls reports them. -/
theorem Tells.reports (h : x.Tells P)
    (hP : ∀ r es, P r es → ∀ e, r = .error e ↔ ∃ c ∈ es, c.FailsWith e) : x.Reports := by
  intro w
  obtain ⟨calls, hcalls, hp⟩ := h w
  refine ⟨calls, hcalls, fun e => (hP _ _ hp e).trans ⟨?_, ?_⟩⟩
  · rintro ⟨_, hmem, hf⟩
    obtain ⟨c, hc, rfl⟩ := List.mem_map.1 hmem
    exact ⟨c, hc, hf⟩
  · rintro ⟨c, hc, hf⟩
    exact ⟨c.event, List.mem_map_of_mem hc, hf⟩

theorem Tells.imp (h : x.Tells P) (hPQ : ∀ r es, P r es → Q r es) : x.Tells Q := fun w =>
  (h w).imp fun _ hc => ⟨hc.1, hPQ _ _ hc.2⟩

/-- Work that fails tells what its first part does; else the second part goes on. -/
theorem Tells.bind {f : α → Op β} {S : α → Except Failure β → List Event → Prop}
    {T : Except Failure β → List Event → Prop} (hx : x.Tells P) (hf : ∀ a, (f a).Tells (S a))
    (herror : ∀ e es, P (.error e) es → T (.error e) es)
    (hok : ∀ a first r more, P (.ok a) first → S a r more → T r (first ++ more)) :
    (x >>= f).Tells T := by
  intro w
  obtain ⟨first, hfirst, hp⟩ := hx w
  rw [bind_apply]
  generalize x w = result at hfirst hp
  obtain ⟨answer, v⟩ := result
  cases answer with
  | error e => exact ⟨first, hfirst, herror e _ hp⟩
  | ok a =>
    obtain ⟨more, hmore, hs⟩ := hf a v
    refine ⟨first ++ more, hfirst.append hmore, ?_⟩
    rw [List.map_append]
    exact hok a _ _ _ hp hs

end Tells

section Silent

variable {w : World} {a : List Occurrence} {x : Op α} {f : α → Op β}

/-- Work that goes on without calls has no more calls than its first part. -/
theorem traces_bind_silent (h : w.Traces (x w).2 a)
    (hf : ∀ r, (f r).Along (World.Calls fun _ => False)) : w.Traces ((x >>= f) w).2 a := by
  rw [bind_apply]
  generalize x w = result at h
  obtain ⟨answer, v⟩ := result
  cases answer with
  | error e => exact h
  | ok r => exact h.silent (hf r v)

/-- Work that begins without calls makes none, or those of its second part. -/
theorem silent_bind (hx : x.Along (World.Calls fun _ => False)) (w : World) :
    w.Traces ((x >>= f) w).2 [] ∨
      ∃ r v, x w = (.ok r, v) ∧ w.Traces v [] ∧ (x >>= f) w = f r v := by
  have hsilent := World.traces_of_history_eq (World.history_eq_of_calls (hx w))
  rw [bind_apply]
  generalize x w = result at hsilent
  obtain ⟨answer, v⟩ := result
  cases answer with
  | error e => exact .inl hsilent
  | ok r => exact .inr ⟨r, v, rfl, hsilent, rfl⟩

end Silent

end Op

end OpticalTestbed
