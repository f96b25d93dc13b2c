import OpticalTestbed.Proofs.Poll
import Mathlib.Data.List.Basic
/-!
How much a wait may cost. As long as the flag stays down, the number of probes depends on the policy
and on the first answer alone, and the time spent never exceeds the timeout. A wait is also a loop
that counts in 32 bits and adds up durations whose seconds take 64 bits; neither sum overflows.
-/
namespace OpticalTestbed

namespace Duration

variable {d e : Duration}

theorem isRepresentable_of_le (h : d.nanos ≤ e.nanos) (he : e.isRepresentable = true) :
    d.isRepresentable = true := by
  have hle : d.nanos / perSecond ≤ e.nanos / perSecond := Nat.div_le_div_right h
  exact decide_eq_true (Nat.le_trans hle (of_decide_eq_true he))

/-- Adding a duration in its two parts, as long as the sum is one. -/
theorem add?_parts (h : (⟨d.nanos + e.nanos⟩ : Duration).isRepresentable = true) :
    d.add? e.seconds e.subsecondNanos = some ⟨d.nanos + e.nanos⟩ := by
  have hparts : d.nanos + e.seconds * perSecond + e.subsecondNanos = d.nanos + e.nanos := by
    rw [Nat.add_assoc, seconds, subsecondNanos, Nat.mul_comm, Nat.div_add_mod]
  have hcarry : d.subsecondNanos + e.subsecondNanos ≤ max64 := by
    have hd : d.nanos % perSecond < perSecond := Nat.mod_lt _ (by decide)
    have he : e.nanos % perSecond < perSecond := Nat.mod_lt _ (by decide)
    simp only [subsecondNanos, perSecond, max64] at hd he ⊢
    omega
  simp only [add?, hparts, hcarry, h, and_self, if_true]

end Duration

namespace PollPolicy

variable {p : PollPolicy}

/-- Both durations have seconds that fit 64 bits. One number of intervals is left out: the one for
which one more attempt cannot be counted in 32 bits. -/
structure Fits (p : PollPolicy) : Prop where
  interval : p.interval.isRepresentable = true
  timeout : p.timeout.isRepresentable = true
  steps : p.timeout.nanos / p.interval.nanos ≠ max32

theorem Fits.maxAttempts_eq (h : p.Fits) : p.maxAttempts =
    if p.interval.nanos = 0 then 1
    else min (p.timeout.nanos / p.interval.nanos) (max32 - 1) + 1 := by
  have hsteps := h.steps
  rw [maxAttempts]
  split
  · rfl
  · dsimp only
    have hmax : max32 = 4294967295 := rfl
    split <;> omega

theorem Fits.maxAttempts_le (h : p.Fits) : p.maxAttempts ≤ max32 := by
  rw [h.maxAttempts_eq, max32]
  split <;> omega

theorem spent_le_timeout (p : PollPolicy) : p.spent.nanos ≤ p.timeout.nanos :=
  elapsed_le_timeout (Nat.sub_one_lt (Nat.ne_of_gt p.maxAttempts_pos))

end PollPolicy

namespace Poll

variable {σ α : Type} {policy : PollPolicy} {isCancelled : σ → Bool}
  {probe : Nat → σ → Option α × σ} {s : σ} {n : Nat} {v : α}

section Loop

/-- Between two rounds of a wait: the probes made, the time spent, and the state. -/
structure Round (σ : Type) where
  made : Nat
  elapsed : Duration
  state : σ

/-- One more, if 32 bits are enough for it. -/
def counted? (n : Nat) : Option Nat := if n + 1 ≤ max32 then some (n + 1) else none

/-- One round: the wait ends, or it goes on with the next round. There is nothing to go on with when
the count or the time spent overflows. -/
def Round.play? (policy : PollPolicy) (isCancelled : σ → Bool) (probe : Nat → σ → Option α × σ)
    (r : Round σ) : Option ((Except PollStop α × σ) ⊕ Round σ) :=
  if isCancelled r.state then some (.inl (.error .cancelled, r.state))
  else (counted? r.made).bind fun attempt =>
    match probe attempt r.state with
    | (some v, s) => some (.inl (.ok v, s))
    | (none, s) =>
      if policy.timeout.nanos ≤ r.elapsed.nanos ∨ policy.maxAttempts ≤ attempt then
        some (.inl (.error (.timedOut r.elapsed), s))
      else
        (r.elapsed.add? policy.interval.seconds policy.interval.subsecondNanos).map fun elapsed =>
          .inr ⟨attempt, elapsed, s⟩

/-- Round after round, without an overflow, the wait ends with a result. -/
inductive Round.Ends (policy : PollPolicy) (isCancelled : σ → Bool)
    (probe : Nat → σ → Option α × σ) : Round σ → Except PollStop α × σ → Prop
  | now {r : Round σ} {result : Except PollStop α × σ} :
    r.play? policy isCancelled probe = some (.inl result) → Ends policy isCancelled probe r result
  | later {r next : Round σ} {result : Except PollStop α × σ} :
    r.play? policy isCancelled probe = some (.inr next) →
    Ends policy isCancelled probe next result → Ends policy isCancelled probe r result

/-- Where the loop stands after so many probes in vain. -/
def Round.after (policy : PollPolicy) (probe : Nat → σ → Option α × σ) (s : σ) (n : Nat) :
    Round σ := ⟨n, ⟨n * policy.interval.nanos⟩, stateAfter probe s n⟩

/-- Where the loop starts. -/
def Round.start (s : σ) : Round σ := ⟨0, .zero, s⟩

variable {r : Round σ} {result result' : Except PollStop α × σ}

theorem Round.Ends.unique (h : r.Ends policy isCancelled probe result)
    (h' : r.Ends policy isCancelled probe result') : result' = result := by
  induction h with
  | now hr =>
    cases h' with
    | now hr' => exact Sum.inl.inj (Option.some.inj (hr'.symm.trans hr))
    | later hr' _ => cases hr'.symm.trans hr
  | later hr _ ih =>
    cases h' with
    | now hr' => cases hr'.symm.trans hr
    | later hr' later =>
      obtain rfl := Sum.inr.inj (Option.some.inj (hr'.symm.trans hr))
      exact ih later

theorem counted?_lt (fits : policy.Fits) (h : n < policy.maxAttempts) :
    counted? n = some (n + 1) := by
  have hmost := fits.maxAttempts_le
  rw [counted?, if_pos (by omega)]

/-- While attempts are left, one more interval keeps the time spent a duration. -/
theorem Round.play?_after (fits : policy.Fits) (hn : n + 1 < policy.maxAttempts)
    (hcalm : isCancelled (stateAfter probe s n) = false)
    (hnone : (probe (n + 1) (stateAfter probe s n)).1 = none) :
    (after policy probe s n).play? policy isCancelled probe =
      some (.inr (after policy probe s (n + 1))) := by
  have hcount := counted?_lt fits (Nat.lt_of_succ_lt hn)
  have hprobe : probe (n + 1) (stateAfter probe s n) = (none, stateAfter probe s (n + 1)) :=
    Prod.ext hnone rfl
  have hgoes : ¬(policy.timeout.nanos ≤ n * policy.interval.nanos ∨ policy.maxAttempts ≤ n + 1) :=
    not_or.2 ⟨Nat.not_le.2 (PollPolicy.elapsed_lt_timeout hn), Nat.not_le.2 hn⟩
  have hsum : n * policy.interval.nanos + policy.interval.nanos =
      (n + 1) * policy.interval.nanos := (Nat.succ_mul _ _).symm
  have hadd := Duration.add?_parts (d := ⟨n * policy.interval.nanos⟩) (e := policy.interval)
    (Duration.isRepresentable_of_le (hsum ▸ PollPolicy.elapsed_le_timeout hn) fits.timeout)
  simp only [play?, after, hcalm, hcount, hprobe, hgoes, hadd, hsum, Option.bind_some,
    Option.map_some, if_false, Bool.false_eq_true]

/-- Probes in vain are rounds that go on. -/
theorem Round.ends_of_after (fits : policy.Fits) (hf : Fruitless isCancelled probe s n)
    (hn : n < policy.maxAttempts)
    (h : (after policy probe s n).Ends policy isCancelled probe result) :
    (start s).Ends policy isCancelled probe result := by
  induction n with
  | zero =>
    rw [after, Nat.zero_mul] at h
    exact h
  | succ n ih =>
    obtain ⟨hbefore, hcalm, hnone⟩ := fruitless_succ.1 hf
    exact ih hbefore (Nat.lt_of_succ_lt hn) (.later (play?_after fits hn hcalm hnone) h)

theorem Round.ends_run (fits : policy.Fits) (isCancelled : σ → Bool)
    (probe : Nat → σ → Option α × σ) (s : σ) :
    (start s).Ends policy isCancelled probe (run policy isCancelled probe s) := by
  have course := run_course policy isCancelled probe s
  generalize run policy isCancelled probe s = result at course
  cases course with
  | @cancelled n hn hf hraised =>
    exact ends_of_after fits hf hn (.now (by simp only [play?, after, hraised, if_true]))
  | @ready n v hn hf hcalm hv =>
    have hprobe : probe (n + 1) (stateAfter probe s n) = (some v, stateAfter probe s (n + 1)) :=
      Prod.ext hv rfl
    refine ends_of_after fits hf hn (.now ?_)
    simp only [play?, after, hcalm, counted?_lt fits hn, hprobe, Option.bind_some, if_false,
      Bool.false_eq_true]
  | timedOut hf =>
    obtain ⟨n, hn⟩ : ∃ n, policy.maxAttempts = n + 1 :=
      Nat.exists_eq_succ_of_ne_zero (Nat.ne_of_gt policy.maxAttempts_pos)
    have hlast : n < policy.maxAttempts := by omega
    obtain ⟨hbefore, hcalm, hnone⟩ := fruitless_succ.1 (hn ▸ hf)
    have hprobe : probe (n + 1) (stateAfter probe s n) = (none, stateAfter probe s (n + 1)) :=
      Prod.ext hnone rfl
    refine ends_of_after fits hbefore hlast (.now ?_)
    simp only [play?, after, hcalm, counted?_lt fits hlast, hprobe, hn, PollPolicy.spent,
      Option.bind_some, Nat.add_sub_cancel, Nat.le_refl, or_true, if_true, if_false,
      Bool.false_eq_true]

/-- The loop ends, and with nothing but the result of the wait. -/
theorem Round.ends_iff (fits : policy.Fits) : (start s).Ends policy isCancelled probe result ↔
    result = run policy isCancelled probe s :=
  ⟨(ends_run fits isCancelled probe s).unique, fun h => h ▸ ends_run fits isCancelled probe s⟩

end Loop

section Noting

/-- A probe that notes down the number of each call. -/
def noting (probe : Nat → σ → Option α × σ) (n : Nat) (s : σ × List Nat) :
    Option α × σ × List Nat :=
  ((probe n s.1).1, (probe n s.1).2, s.2 ++ [n])

theorem stateAfter_noting (probe : Nat → σ → Option α × σ) (s : σ) (n : Nat) :
    stateAfter (noting probe) (s, []) n = (stateAfter probe s n, List.range' 1 n) := by
  induction n with
  | zero => rfl
  | succ n ih => rw [stateAfter, ih, noting, List.range'_1_concat, Nat.add_comm 1 n]; rfl

theorem fruitless_noting : Fruitless (isCancelled ·.1) (noting probe) (s, []) n ↔
    Fruitless isCancelled probe s n := by
  simp only [Fruitless, stateAfter_noting, noting]

end Noting

/-- Probe number `n + 1` is the first one that yields something. -/
structure FirstYield (probe : Nat → σ → Option α × σ) (s : σ) (n : Nat) (v : α) : Prop where
  before : ∀ k < n, (probe (k + 1) (stateAfter probe s k)).1 = none
  yields : (probe (n + 1) (stateAfter probe s n)).1 = some v

/-- What a wait costs. A policy allows one attempt more than intervals fit its timeout, and the
intervals between so many attempts stay within the timeout. The loop that counts and adds within
fixed sizes ends as the wait does, whatever the flag. If the flag is never raised then the probes
are made with 1, 2, 3 and so on, up to the first one that yields something, or up to the last
attempt; in this case the wait times out. -/
theorem run_budget (fits : policy.Fits) :
    (policy.maxAttempts = if policy.interval.nanos = 0 then 1
      else min (policy.timeout.nanos / policy.interval.nanos) (max32 - 1) + 1) ∧
    (policy.maxAttempts - 1) * policy.interval.nanos ≤ policy.timeout.nanos ∧
    ∀ (isCancelled : σ → Bool) (probe : Nat → σ → Option α × σ) (s : σ),
      (∀ result, (Round.start s).Ends policy isCancelled probe result ↔
        result = run policy isCancelled probe s) ∧
      ((∀ n < policy.maxAttempts, isCancelled (stateAfter probe s n) = false) →
        (∀ n v, n < policy.maxAttempts → FirstYield probe s n v →
          run policy isCancelled probe s = (.ok v, stateAfter probe s (n + 1)) ∧
          run policy (isCancelled ·.1) (noting probe) (s, []) =
            (.ok v, stateAfter probe s (n + 1), List.range' 1 (n + 1))) ∧
        ((∀ n < policy.maxAttempts, (probe (n + 1) (stateAfter probe s n)).1 = none) →
          (∀ what, (run policy isCancelled probe s).1.mapError (PollStop.failure what) =
            .error (.reconciliationTimeout what
              ⟨(policy.maxAttempts - 1) * policy.interval.nanos⟩)) ∧
          (run policy isCancelled probe s).2 = stateAfter probe s policy.maxAttempts ∧
          (run policy (isCancelled ·.1) (noting probe) (s, [])).2 =
            (stateAfter probe s policy.maxAttempts, List.range' 1 policy.maxAttempts))) := by
  refine ⟨fits.maxAttempts_eq, policy.spent_le_timeout, fun isCancelled probe s =>
    ⟨fun result => Round.ends_iff fits, fun hcalm => ⟨fun n v hn first => ?_, fun hnone => ?_⟩⟩⟩
  · have hf : Fruitless isCancelled probe s n := fun k hk =>
      ⟨hcalm k (Nat.lt_trans hk hn), first.before k hk⟩
    have hnoted : isCancelled (stateAfter (noting probe) (s, []) n).1 = false := by
      rw [stateAfter_noting]
      exact hcalm n hn
    refine ⟨run_ready hf hn (hcalm n hn) first.yields, ?_⟩
    rw [run_ready (fruitless_noting.2 hf) hn hnoted (v := v), stateAfter_noting]
    simp only [noting, stateAfter_noting, first.yields]
  · have hf : Fruitless isCancelled probe s policy.maxAttempts := fun k hk =>
      ⟨hcalm k hk, hnone k hk⟩
    rw [run_timedOut hf, run_timedOut (fruitless_noting.2 hf), stateAfter_noting]
    exact ⟨fun what => rfl, rfl, rfl⟩

namespace Sample

/-- A nanosecond between probes, for as long as a duration can be. -/
def patient : PollPolicy := ⟨⟨1⟩, .ofSeconds max64⟩

/-- Two intervals fit the timeout, and half a third one. -/
def brief : PollPolicy := ⟨⟨2⟩, ⟨5⟩⟩

def never (_attempt : Nat) (s : Unit) : Option Nat × Unit := (none, s)

def third (attempt : Nat) (s : Unit) : Option Nat × Unit :=
  (if attempt = 3 then some attempt else none, s)

theorem patient_fits : patient.Fits := by
  constructor <;> decide

theorem brief_fits : brief.Fits := by
  constructor <;> decide

end Sample

theorem run_budget_sample :
    Sample.patient.Fits ∧ Sample.brief.Fits ∧
      (run Sample.patient (fun _ => false) Sample.never ()).1.mapError
        (PollStop.failure "devices") = .error (.reconciliationTimeout "devices" ⟨4294967294⟩) ∧
      run Sample.brief (fun _ => false) (noting Sample.third) ((), []) =
        (.ok 3, (), [1, 2, 3]) := by
  obtain ⟨-, -, hpatient⟩ := run_budget (σ := Unit) (α := Nat) Sample.patient_fits
  obtain ⟨-, -, hbrief⟩ := run_budget (σ := Unit) (α := Nat) Sample.brief_fits
  obtain ⟨-, hlong⟩ := hpatient (fun _ => false) Sample.never ()
  obtain ⟨-, hshort⟩ := hbrief (fun _ => false) Sample.third ()
  have hfirst : FirstYield Sample.third () 2 3 := ⟨by decide, rfl⟩
  exact ⟨Sample.patient_fits, Sample.brief_fits,
    ((hlong fun _ _ => rfl).2 fun _ _ => rfl).1 "devices",
    ((hshort fun _ _ => rfl).1 2 3 (by decide) hfirst).2⟩

end Poll

end OpticalTestbed
