import OpticalTestbed.Waiting
import OpticalTestbed.Proofs.Devices
import OpticalTestbed.Proofs.Poll
import OpticalTestbed.Proofs.Traces
import Mathlib.Data.List.Dedup
/-!
How the two waits end, told from the calls that they make. Each probe is a single call, so that a
wait is ready exactly if one of its calls found what it waits for, and a wait that runs out of time
has made as many calls as its policy allows, all of them in vain.
-/
namespace OpticalTestbed

/-- Enough different interfaces are listed that are named like a tap. -/
def Event.ShowsTaps (expected : Nat) (e : Event) : Prop :=
  ∃ output, e = .ran Interfaces.showCall (.ok output) ∧
    expected ≤ ((Interfaces.names output).dedup.filter Interfaces.isTap).length

/-- All the devices of a list are reported as available. -/
def Event.ReportsDevices (ids : List String) (e : Event) : Prop :=
  ∃ report, e = .fetched (.ok report) ∧ ∀ id ∈ ids, report.hasAvailable id = true

/-- Whether the controller is asked for its devices. -/
def Event.isFetch : Event → Bool
  | .fetched _ => true
  | _ => false

theorem KeySet.length_filter_ofList (p : String → Bool) (l : List String) :
    ((KeySet.ofList l).toList.filter p).length = (l.dedup.filter p).length := by
  have hperm : (KeySet.ofList l).toList.Perm l.dedup :=
    (List.perm_ext_iff_of_nodup (Dict.nodup_keys _) l.nodup_dedup).2 fun x => by
      rw [List.mem_dedup]
      exact KeySet.mem_toList_ofList l x
  exact (hperm.filter p).length_eq

theorem DeviceList.isReady_iff {ids : List String} {r : DeviceList} :
    (r.check (KeySet.ofList ids)).isReady = true ↔ ∀ id ∈ ids, r.hasAvailable id = true := by
  simp only [Readiness.isReady_iff, check_eq_ready_iff, KeySet.mem_toList_ofList, hasAvailable_iff]

namespace Poll

variable {α : Type} {probe : Nat → World → Option α × World} {Kind Good : Event → Prop}

/-- Each probe makes one call, of a certain kind, and yields something exactly if it turned out
well. -/
def SingleCall (probe : Nat → World → Option α × World) (Kind Good : Event → Prop) : Prop :=
  ∀ k w, ∃ c, w.Traces (probe k w).2 [c] ∧ Kind c.event ∧
    ((probe k w).1.isSome = true ↔ Good c.event)

/-- So many probes make so many calls, and those made in vain did not turn out well. -/
theorem SingleCall.stateAfter (h : SingleCall probe Kind Good) (w : World) (n : Nat) :
    ∃ trace, w.Traces (stateAfter probe w n) trace ∧ trace.length = n ∧
      (∀ c ∈ trace, Kind c.event) ∧
      (Fruitless (·.cancelled) probe w n → ∀ c ∈ trace, ¬Good c.event) := by
  induction n with
  | zero => exact ⟨[], rfl, rfl, by simp, by simp⟩
  | succ n ih =>
    obtain ⟨trace, htrace, hlength, hkind, hgood⟩ := ih
    obtain ⟨c, hc, hckind, hcgood⟩ := h (n + 1) (Poll.stateAfter probe w n)
    refine ⟨trace ++ [c], htrace.append hc, by simp [hlength], ?_, fun hf => ?_⟩
    · exact List.forall_mem_append.2 ⟨hkind, by simpa using hckind⟩
    · obtain ⟨hbefore, -, hnone⟩ := fruitless_succ.1 hf
      rw [hnone] at hcgood
      exact List.forall_mem_append.2 ⟨hgood hbefore, by simpa using hcgood⟩

end Poll

namespace Waiting

variable {α : Type}

/-- How a wait ends, by the calls that it made. -/
inductive Ends (Good : Event → Prop) (what : String) (policy : PollPolicy)
    (trace : List Occurrence) : Except Failure α → Prop
  | ready {a : α} : trace.length ≤ policy.maxAttempts → (∃ c ∈ trace, Good c.event) →
    Ends Good what policy trace (.ok a)
  | timedOut : trace.length = policy.maxAttempts → (∀ c ∈ trace, ¬Good c.event) →
    Ends Good what policy trace (.error (.reconciliationTimeout what policy.spent))
  | cancelled : trace.length < policy.maxAttempts → (∀ c ∈ trace, ¬Good c.event) →
    Ends Good what policy trace (.error (.cancelled what))

theorem outcome_ends {probe : Nat → World → Option α × World} {Kind Good : Event → Prop}
    (h : Poll.SingleCall probe Kind Good) (what : String) (policy : PollPolicy) (w : World) :
    ∃ trace, w.Traces (outcome what (Poll.run policy (·.cancelled) probe w)).2 trace ∧
      (∀ c ∈ trace, Kind c.event) ∧
      Ends Good what policy trace (outcome what (Poll.run policy (·.cancelled) probe w)).1 := by
  have course := Poll.run_course policy (·.cancelled) probe w
  generalize Poll.run policy (·.cancelled) probe w = result at course
  cases course with
  | @cancelled n hn hf _ =>
    obtain ⟨trace, htrace, rfl, hkind, hgood⟩ := h.stateAfter w n
    exact ⟨trace, htrace, hkind, .cancelled hn (hgood hf)⟩
  | @ready n v hn hf _ hv =>
    obtain ⟨trace, htrace, hlength, hkind, -⟩ := h.stateAfter w n
    obtain ⟨c, hc, hckind, hcgood⟩ := h (n + 1) (Poll.stateAfter probe w n)
    have hgood : Good c.event := hcgood.1 (by rw [hv]; rfl)
    refine ⟨trace ++ [c], htrace.append hc, ?_, .ready ?_ ⟨c, by simp, hgood⟩⟩
    · exact List.forall_mem_append.2 ⟨hkind, by simpa using hckind⟩
    · simpa [hlength] using Nat.succ_le_of_lt hn
  | timedOut hf =>
    obtain ⟨trace, htrace, hlength, hkind, hgood⟩ := h.stateAfter w policy.maxAttempts
    exact ⟨trace, htrace, hkind, .timedOut hlength (hgood hf)⟩

variable (o : Outside)

section Outcomes

variable {o} {policy : PollPolicy} {expected : Nat} {ids : KeySet String} {w : World} {n : Nat}

end Outcomes

theorem countPresent_apply (w : World) :
    Interfaces.countPresent o w = ((o.call Interfaces.showCall w).1.map fun output =>
      ((Interfaces.names output).dedup.filter Interfaces.isTap).length,
        (o.call Interfaces.showCall w).2) := by
  simp only [Interfaces.countPresent, Interfaces.present, Op.bind_apply]
  obtain ⟨answer, w'⟩ := o.call Interfaces.showCall w
  cases answer with
  | error e => rfl
  | ok output =>
    simp only [Op.pure_apply, KeySet.length_filter_ofList]
    rfl

theorem singleCall_tapProbe (expected : Nat) :
    Poll.SingleCall (tapProbe o expected) (Event.Runs (· = Interfaces.showCall))
      (Event.ShowsTaps expected) := by
  intro k w
  refine ⟨⟨.ran Interfaces.showCall (o.call Interfaces.showCall w).1, w.files⟩, ?_⟩
  have hcall := o.traces_call w Interfaces.showCall
  simp only [tapProbe, countPresent_apply, Event.ShowsTaps]
  cases hanswer : (o.call Interfaces.showCall w).1 with
  | error e =>
    rw [hanswer] at hcall
    exact ⟨hcall, rfl, by simp [Except.map]⟩
  | ok output =>
    rw [hanswer] at hcall
    exact ⟨hcall, rfl, by simp [Except.map]⟩

theorem singleCall_deviceProbe (ids : List String) :
    Poll.SingleCall (deviceProbe o (KeySet.ofList ids)) (fun e => e.isFetch = true)
      (Event.ReportsDevices ids) := by
  intro k w
  refine ⟨⟨.fetched (o.fetchDevices w).1, w.files⟩, ?_⟩
  have hcall := o.traces_fetchDevices w
  simp only [deviceProbe, Event.ReportsDevices]
  generalize o.fetchDevices w = result at hcall
  obtain ⟨answer, w'⟩ := result
  cases answer with
  | error e => exact ⟨hcall, rfl, by simp⟩
  | ok reported => exact ⟨hcall, rfl, by simp [DeviceList.isReady_iff]⟩

theorem forTaps_ends (policy : PollPolicy) (expected : Nat) (w : World) :
    ∃ trace, w.Traces (forTaps o policy expected w).2 trace ∧
      (∀ c ∈ trace, c.event.Runs (· = Interfaces.showCall)) ∧
      Ends (Event.ShowsTaps expected) "tap interfaces" policy trace
        (forTaps o policy expected w).1 :=
  outcome_ends (singleCall_tapProbe o expected) _ policy w

theorem forDevices_ends (policy : PollPolicy) (ids : List String) (w : World) :
    ∃ trace, w.Traces (forDevices o policy (KeySet.ofList ids) w).2 trace ∧
      (∀ c ∈ trace, c.event.isFetch = true) ∧
      Ends (Event.ReportsDevices ids) "controller devices" policy trace
        (forDevices o policy (KeySet.ofList ids) w).1 :=
  outcome_ends (singleCall_deviceProbe o ids) _ policy w

end Waiting

end OpticalTestbed
