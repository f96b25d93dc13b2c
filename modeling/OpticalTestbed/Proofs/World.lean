import OpticalTestbed.Poll
import OpticalTestbed.World
import Mathlib.Order.Defs.Unbundled
/-!
Where work takes the world. Work is followed along a relation between the world before and the
world after it; such a relation is reflexive and transitive, so that parts of the work may be
followed one by one.
-/
namespace OpticalTestbed

namespace World

/-- Some calls were made, all of a certain sort. -/
def Calls (P : Event → Prop) (w w' : World) : Prop :=
  ∃ made, w'.history = made ++ w.history ∧ ∀ c ∈ made, P c.event

/-- What stands at a place is left alone, as long as paths start from a certain directory. -/
def Leaves (here place : Place) (w w' : World) : Prop :=
  w.files.current = here →
    w'.files.current = here ∧ w'.files.get? place = w.files.get? place

variable {P Q : Event → Prop} {here place : Place}

instance : Std.Refl (Calls P) := ⟨fun _ => ⟨[], rfl, by simp⟩⟩

instance : IsTrans World (Calls P) where
  trans := by
    rintro u v w ⟨first, hv, hf⟩ ⟨more, hw, hm⟩
    refine ⟨more ++ first, by rw [hw, hv, List.append_assoc], fun c hc => ?_⟩
    exact (List.mem_append.1 hc).elim (hm c) (hf c)

instance : Std.Refl (Leaves here place) := ⟨fun _ h => ⟨h, rfl⟩⟩

instance : IsTrans World (Leaves here place) where
  trans := by
    intro u v w huv hvw hu
    obtain ⟨hv, ev⟩ := huv hu
    obtain ⟨hw, ew⟩ := hvw hv
    exact ⟨hw, ew.trans ev⟩

/-- Where the history stays, no call was made. -/
theorem calls_of_history_eq {w w' : World} (h : w'.history = w.history) : Calls P w w' :=
  ⟨[], h, by simp⟩

/-- Where no call was made, the history stays. -/
theorem history_eq_of_calls {w w' : World} (h : Calls (fun _ => False) w w') :
    w'.history = w.history := by
  obtain ⟨made, hw, hm⟩ := h
  rw [hw, List.eq_nil_iff_forall_not_mem.2 hm, List.nil_append]

theorem Calls.imp {w w' : World} (h : Calls P w w') (hPQ : ∀ e, P e → Q e) : Calls Q w w' := by
  obtain ⟨made, hw, hm⟩ := h
  exact ⟨made, hw, fun c hc => hPQ _ (hm c hc)⟩

end World

/-- Whether an event is a program call of a certain sort. -/
def Event.Runs (C : Invocation → Prop) : Event → Prop
  | .ran call _ => C call
  | _ => False

theorem Event.Runs.imp {C D : Invocation → Prop} (h : ∀ i, C i → D i) :
    ∀ e : Event, e.Runs C → e.Runs D
  | .ran i _ => h i
  | .attached .. | .detached .. | .fetched _ => id

namespace Op

variable {α β : Type} {R : World → World → Prop} {x : Op α} {w w' : World}

theorem map_id (x : Op α) : id <$> x = x := by
  funext w
  change (x >>= fun a => pure a) w = x w
  rw [bind_apply]
  obtain ⟨r | a, v⟩ := x w <;> rfl

theorem bind_assoc {γ : Type} (x : Op α) (f : α → Op β) (g : β → Op γ) :
    x >>= f >>= g = x >>= fun a => f a >>= g := by
  funext w
  simp only [bind_apply]
  obtain ⟨r | a, v⟩ := x w <;> rfl

instance : LawfulMonad Op := LawfulMonad.mk' Op map_id (fun _ _ => rfl) bind_assoc

theorem bind_ok {f : α → Op β} {b : β} (h : (x >>= f) w = (.ok b, w')) :
    ∃ a v, x w = (.ok a, v) ∧ f a v = (.ok b, w') := by
  rw [bind_apply] at h
  split at h
  · rename_i a v hx
    exact ⟨a, v, hx, h⟩
  · cases h

theorem bind_error {f : α → Op β} {e : Failure} (h : (x >>= f) w = (.error e, w')) :
    x w = (.error e, w') ∨ ∃ a v, x w = (.ok a, v) ∧ f a v = (.error e, w') := by
  rw [bind_apply] at h
  split at h
  · rename_i a v hx
    exact .inr ⟨a, v, hx, h⟩
  · rename_i e' v hx
    cases h
    exact .inl hx

/-- The work changes nothing. If it fails then not as a wait does that was cancelled, but so that a
bring-up ends. -/
structure Reads (x : Op α) : Prop where
  world : ∀ w, (x w).2 = w
  uncancelled : ∀ w what, (x w).1 ≠ .error (.cancelled what)
  grave : ∀ w e, (x w).1 = .error e → e.isFatal = true

theorem reads_pure (a : α) : (pure a : Op α).Reads where
  world _ := rfl
  uncancelled _ _ h := by cases h
  grave _ _ h := by cases h

theorem reads_fail {e : Failure} (h : ∀ what, e ≠ .cancelled what) (hgrave : e.isFatal = true) :
    (fail e : Op α).Reads where
  world _ := rfl
  uncancelled _ what he := h what (Except.error.inj he)
  grave _ _ he := Except.error.inj he ▸ hgrave

theorem readText_ok {path text : String} (h : readText path w = (.ok text, w')) :
    w.files.readText path = .ok text ∧ w' = w := by
  simp only [readText] at h
  split at h
  · rename_i found
    cases h
    exact ⟨found, rfl⟩
  · cases h

theorem readText_error {path : String} {e : Failure} (h : readText path w = (.error e, w')) :
    ∃ fault, w.files.readText path = .error fault ∧ e = .io path fault ∧ w' = w := by
  simp only [readText] at h
  split at h
  · cases h
  · rename_i fault found
    cases h
    exact ⟨fault, found, rfl, rfl⟩

theorem reads_readText (path : String) : (readText path).Reads := by
  constructor <;> intro w <;> simp only [readText] <;> split <;> simp [Failure.isFatal]

/-- A property of work that whole work has as soon as its parts have it. -/
structure Composes (C : (α : Type) → Op α → Prop) : Prop where
  reads {α : Type} {x : Op α} : x.Reads → C α x
  bind {α β : Type} {x : Op α} {f : α → Op β} : C α x → (∀ a, C β (f a)) → C β (x >>= f)
  attempt {α : Type} {x : Op α} : C α x → C _ x.attempt

theorem Composes.pure {C : (α : Type) → Op α → Prop} (h : Composes C) (a : α) :
    C α (pure a : Op α) := h.reads (reads_pure a)

/-- The work takes the world along a relation, whatever it answers. -/
def Along (R : World → World → Prop) (x : Op α) : Prop := ∀ w, R w (x w).2

theorem composes_along [Std.Refl R] [IsTrans World R] : Composes (fun _ x => x.Along R) where
  reads h w := by
    rw [h.world]
    exact refl w
  bind := by
    intro α β x f hx hf w
    rw [bind_apply]
    have h := hx w
    split
    · rename_i a w' he
      rw [he] at h
      exact IsTrans.trans _ _ _ h (hf a w')
    · rename_i e w' he
      rwa [he] at h
  attempt h := h

theorem Along.of_eq (hx : x.Along R) {r : Except Failure α} (h : x w = (r, w')) : R w w' := by
  have hw := hx w
  rwa [h] at hw

/-- The work does not fail as a wait does that was cancelled. -/
def Uncancelled (x : Op α) : Prop := ∀ w what, (x w).1 ≠ .error (.cancelled what)

theorem composes_uncancelled : Composes (fun _ x => x.Uncancelled) where
  reads h := h.uncancelled
  bind := by
    intro α β x f hx hf w what h
    rw [bind_apply] at h
    split at h
    · rename_i a w' he
      exact hf a w' what h
    · rename_i e w' he
      exact hx w what (by rw [he]; exact congrArg _ (Except.error.inj h))
  attempt _ _ _ h := by cases h

theorem Uncancelled.of_eq (hx : x.Uncancelled) {what : String} :
    x w ≠ (.error (.cancelled what), w') := fun h => hx w what (by rw [h])

/-- The work fails only so that a bring-up ends. -/
def Grave (x : Op α) : Prop := ∀ w e, (x w).1 = .error e → e.isFatal = true

theorem composes_grave : Composes (fun _ x => x.Grave) where
  reads h := h.grave
  bind := by
    intro α β x f hx hf w e h
    rw [bind_apply] at h
    split at h
    · rename_i a w' he
      exact hf a w' e h
    · rename_i e' w' he
      exact hx w e (by rw [he, Except.error.inj h])
  attempt _ _ _ h := by cases h

theorem Grave.of_eq (hx : x.Grave) {e : Failure} (h : x w = (.error e, w')) : e.isFatal = true :=
  hx w e (by rw [h])

end Op

namespace Outside

variable (o : Outside) {C : Invocation → Prop}

theorem call_runs {i : Invocation} (h : C i) : (o.call i).Along (World.Calls (·.Runs C)) :=
  fun w => ⟨[⟨.ran i (o.run w i).answer, w.files⟩], rfl, by simpa [Event.Runs] using h⟩

end Outside

namespace Poll

variable {σ α : Type} {R : σ → σ → Prop}

/-- A wait goes where its probes go. -/
theorem runFrom_along [Std.Refl R] [IsTrans σ R] (policy : PollPolicy) (isCancelled : σ → Bool)
    (probe : Nat → σ → Option α × σ) (hp : ∀ n s, R s (probe n s).2) (left attempt : Nat)
    (elapsed : Duration) (s : σ) :
    R s (runFrom policy isCancelled probe left attempt elapsed s).2 := by
  induction left generalizing attempt elapsed s with
  | zero =>
    unfold runFrom
    have h := hp attempt s
    split
    · exact refl s
    · split <;> rename_i he <;> rw [he] at h
      · exact h
      · split <;> exact h
  | succ left ih =>
    unfold runFrom
    have h := hp attempt s
    split
    · exact refl s
    · split <;> rename_i he <;> rw [he] at h
      · exact h
      · split
        · exact h
        · exact IsTrans.trans _ _ _ h (ih _ _ _)

theorem run_along [Std.Refl R] [IsTrans σ R] (policy : PollPolicy) (isCancelled : σ → Bool)
    (probe : Nat → σ → Option α × σ) (hp : ∀ n s, R s (probe n s).2) (s : σ) :
    R s (run policy isCancelled probe s).2 := runFrom_along policy isCancelled probe hp _ _ _ s

end Poll

end OpticalTestbed
