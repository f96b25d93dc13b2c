import OpticalTestbed.Poll
/-!
How a wait goes, probe by probe: it makes probes as long as none of them yields anything, the flag
is down and attempts are left. The number of attempts is the whole budget; the timeout is never
reached while attempts are left.
-/
namespace OpticalTestbed

namespace PollPolicy

variable {p : PollPolicy} {n : Nat}

theorem maxAttempts_pos (p : PollPolicy) : 0 < p.maxAttempts := by
  unfold maxAttempts
  split
  · exact Nat.one_pos
  · exact Nat.succ_pos _

/-- The probes but the first one have their intervals within the timeout. -/
theorem elapsed_le_timeout (h : n < p.maxAttempts) : n * p.interval.nanos ≤ p.timeout.nanos := by
  cases hinterval : p.interval.nanos with
  | zero => simp
  | succ k =>
    have hle : n ≤ p.timeout.nanos / p.interval.nanos := by
      simp only [maxAttempts, hinterval, Nat.succ_ne_zero, if_false] at h ⊢
      split at h <;> omega
    rw [← hinterval]
    exact Nat.le_trans (Nat.mul_le_mul_right _ hle) (Nat.div_mul_le_self _ _)

/-- More than one attempt takes an interval between them. -/
theorem interval_pos (h : 1 < p.maxAttempts) : 0 < p.interval.nanos := by
  refine Nat.pos_of_ne_zero fun hzero => ?_
  rw [maxAttempts, if_pos hzero] at h
  exact absurd h (Nat.lt_irrefl 1)

/-- While attempts are left, the intervals so far do not add up to the timeout. -/
theorem elapsed_lt_timeout (h : n + 1 < p.maxAttempts) :
    n * p.interval.nanos < p.timeout.nanos := by
  have hpos := interval_pos (Nat.lt_of_le_of_lt (Nat.le_add_left 1 n) h)
  calc n * p.interval.nanos
      < (n + 1) * p.interval.nanos := Nat.mul_lt_mul_of_pos_right (Nat.lt_succ_self n) hpos
    _ ≤ p.timeout.nanos := elapsed_le_timeout h

/-- What a wait has spent when its attempts are used up. -/
def spent (p : PollPolicy) : Duration := ⟨(p.maxAttempts - 1) * p.interval.nanos⟩

end PollPolicy

namespace Poll

variable {σ α : Type} {policy : PollPolicy} {isCancelled : σ → Bool}
  {probe : Nat → σ → Option α × σ} {s : σ} {n : Nat} {v : α}

/-- The state after so many probes, one after the other. -/
def stateAfter (probe : Nat → σ → Option α × σ) (s : σ) : Nat → σ
  | 0 => s
  | n + 1 => (probe (n + 1) (stateAfter probe s n)).2

/-- So many probes are made in vain: the flag is down before each of them, and none yields
anything. -/
def Fruitless (isCancelled : σ → Bool) (probe : Nat → σ → Option α × σ) (s : σ) (n : Nat) : Prop :=
  ∀ k < n, isCancelled (stateAfter probe s k) = false ∧
    (probe (k + 1) (stateAfter probe s k)).1 = none

theorem fruitless_zero : Fruitless isCancelled probe s 0 :=
  fun _ hk => absurd hk (Nat.not_lt_zero _)

theorem Fruitless.le {m : Nat} (h : Fruitless isCancelled probe s n) (hm : m ≤ n) :
    Fruitless isCancelled probe s m := fun k hk => h k (Nat.lt_of_lt_of_le hk hm)

theorem fruitless_succ : Fruitless isCancelled probe s (n + 1) ↔
    Fruitless isCancelled probe s n ∧ isCancelled (stateAfter probe s n) = false ∧
      (probe (n + 1) (stateAfter probe s n)).1 = none := by
  constructor
  · exact fun h => ⟨h.le (Nat.le_succ n), h n (Nat.lt_succ_self n)⟩
  · rintro ⟨h, hlast⟩ k hk
    rcases Nat.lt_succ_iff_lt_or_eq.1 hk with hk | rfl
    · exact h k hk
    · exact hlast

/-- After probes in vain a wait goes on from where they have led. -/
theorem run_eq_runFrom (h : Fruitless isCancelled probe s n) (hn : n < policy.maxAttempts) :
    run policy isCancelled probe s =
      runFrom policy isCancelled probe (policy.maxAttempts - 1 - n) (n + 1)
        ⟨n * policy.interval.nanos⟩ (stateAfter probe s n) := by
  induction n with
  | zero => simp [run, stateAfter, Duration.zero]
  | succ n ih =>
    obtain ⟨hbefore, hcalm, hnone⟩ := fruitless_succ.1 h
    have hleft : policy.maxAttempts - 1 - n = (policy.maxAttempts - 1 - (n + 1)) + 1 := by omega
    have hprobe : probe (n + 1) (stateAfter probe s n) = (none, stateAfter probe s (n + 1)) :=
      Prod.ext hnone rfl
    have htime := Nat.not_le.2 (PollPolicy.elapsed_lt_timeout hn)
    rw [ih hbefore (Nat.lt_of_succ_lt hn), hleft, runFrom]
    simp only [hcalm, hprobe, htime, if_false, Bool.false_eq_true]
    rw [Nat.succ_mul]

theorem run_cancelled (h : Fruitless isCancelled probe s n) (hn : n < policy.maxAttempts)
    (hraised : isCancelled (stateAfter probe s n) = true) :
    run policy isCancelled probe s = (.error .cancelled, stateAfter probe s n) := by
  rw [run_eq_runFrom h hn, runFrom.eq_def]
  simp only [hraised, if_true]

theorem run_ready (h : Fruitless isCancelled probe s n) (hn : n < policy.maxAttempts)
    (hcalm : isCancelled (stateAfter probe s n) = false)
    (hv : (probe (n + 1) (stateAfter probe s n)).1 = some v) :
    run policy isCancelled probe s = (.ok v, stateAfter probe s (n + 1)) := by
  have hprobe : probe (n + 1) (stateAfter probe s n) = (some v, stateAfter probe s (n + 1)) :=
    Prod.ext hv rfl
  rw [run_eq_runFrom h hn, runFrom.eq_def]
  simp only [hcalm, hprobe, Bool.false_eq_true, if_false]

/-- When the attempts are used up, it does not matter whether the flag is up. -/
theorem run_timedOut (h : Fruitless isCancelled probe s policy.maxAttempts) :
    run policy isCancelled probe s =
      (.error (.timedOut policy.spent), stateAfter probe s policy.maxAttempts) := by
  obtain ⟨n, hn⟩ : ∃ n, policy.maxAttempts = n + 1 :=
    Nat.exists_eq_succ_of_ne_zero (Nat.ne_of_gt policy.maxAttempts_pos)
  rw [hn] at h ⊢
  obtain ⟨hbefore, hcalm, hnone⟩ := fruitless_succ.1 h
  have hprobe : probe (n + 1) (stateAfter probe s n) = (none, stateAfter probe s (n + 1)) :=
    Prod.ext hnone rfl
  rw [run_eq_runFrom hbefore (by omega), runFrom.eq_def]
  simp only [PollPolicy.spent, hn, hcalm, hprobe, Nat.add_sub_cancel, Nat.sub_self,
    Bool.false_eq_true, if_false, ite_self]

/-- The ways in which a wait goes: after probes in vain the flag is up or a probe yields something,
or all probes that the policy allows were in vain. -/
inductive Course (policy : PollPolicy) (isCancelled : σ → Bool) (probe : Nat → σ → Option α × σ)
    (s : σ) : Except PollStop α × σ → Prop
  | cancelled {n : Nat} : n < policy.maxAttempts → Fruitless isCancelled probe s n →
    isCancelled (stateAfter probe s n) = true →
    Course policy isCancelled probe s (.error .cancelled, stateAfter probe s n)
  | ready {n : Nat} {v : α} : n < policy.maxAttempts → Fruitless isCancelled probe s n →
    isCancelled (stateAfter probe s n) = false →
    (probe (n + 1) (stateAfter probe s n)).1 = some v →
    Course policy isCancelled probe s (.ok v, stateAfter probe s (n + 1))
  | timedOut : Fruitless isCancelled probe s policy.maxAttempts →
    Course policy isCancelled probe s
      (.error (.timedOut policy.spent), stateAfter probe s policy.maxAttempts)

/-- Of so many probes all are in vain, or one of them comes to something. -/
theorem fruitless_or (isCancelled : σ → Bool) (probe : Nat → σ → Option α × σ) (s : σ) (m : Nat) :
    Fruitless isCancelled probe s m ∨ ∃ n < m, Fruitless isCancelled probe s n ∧
      (isCancelled (stateAfter probe s n) = true ∨
        isCancelled (stateAfter probe s n) = false ∧
          ∃ v, (probe (n + 1) (stateAfter probe s n)).1 = some v) := by
  induction m with
  | zero => exact .inl fruitless_zero
  | succ m ih =>
    rcases ih with h | ⟨n, hn, hend⟩
    · cases hc : isCancelled (stateAfter probe s m) with
      | true => exact .inr ⟨m, Nat.lt_succ_self m, h, .inl hc⟩
      | false =>
        cases hv : (probe (m + 1) (stateAfter probe s m)).1 with
        | none => exact .inl (fruitless_succ.2 ⟨h, hc, hv⟩)
        | some v => exact .inr ⟨m, Nat.lt_succ_self m, h, .inr ⟨hc, v, hv⟩⟩
    · exact .inr ⟨n, Nat.lt_succ_of_lt hn, hend⟩

theorem run_course (policy : PollPolicy) (isCancelled : σ → Bool)
    (probe : Nat → σ → Option α × σ) (s : σ) :
    Course policy isCancelled probe s (run policy isCancelled probe s) := by
  rcases fruitless_or isCancelled probe s policy.maxAttempts with
    h | ⟨n, hn, h, hraised | ⟨hcalm, v, hv⟩⟩
  · rw [run_timedOut h]
    exact .timedOut h
  · rw [run_cancelled h hn hraised]
    exact .cancelled hn h hraised
  · rw [run_ready h hn hcalm hv]
    exact .ready hn h hcalm hv

end Poll

end OpticalTestbed
