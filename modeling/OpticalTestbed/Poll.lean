import OpticalTestbed.Failure
import OpticalTestbed.Record.Source
/-!
Bounded, cancellable waiting: a probe is repeated until it yields a value, the budget is used up or
the wait is cancelled. Time is counted in intervals.
-/
namespace OpticalTestbed

structure PollPolicy where
  interval : Duration
  timeout : Duration
  deriving DecidableEq

namespace PollPolicy

/-- Two seconds between probes, for a minute. -/
def standard : PollPolicy := ⟨.ofSeconds 2, .ofSeconds 60⟩

/-- The most probes that the policy allows: one more than intervals fit the timeout. -/
def maxAttempts (p : PollPolicy) : Nat :=
  if p.interval.nanos = 0 then 1
  else
    let steps := p.timeout.nanos / p.interval.nanos
    (if steps ≤ max32 then steps else max32 - 1) + 1

end PollPolicy

/-- Why a wait ended without a value. -/
inductive PollStop where
  | cancelled
  | timedOut (waited : Duration)
  deriving DecidableEq

def PollStop.failure (what : String) : PollStop → Failure
  | cancelled => .cancelled what
  | timedOut waited => .reconciliationTimeout what waited

namespace Poll

variable {σ α : Type}

/-- Probes with `left` further attempts allowed. Cancellation is looked at before every probe, and
every probe that yields nothing costs one interval. -/
def runFrom (policy : PollPolicy) (isCancelled : σ → Bool) (probe : Nat → σ → Option α × σ) :
    (left attempt : Nat) → (elapsed : Duration) → σ → Except PollStop α × σ
  | left, attempt, elapsed, s =>
    if isCancelled s then (.error .cancelled, s)
    else match probe attempt s with
      | (some v, s) => (.ok v, s)
      | (none, s) =>
        if policy.timeout.nanos ≤ elapsed.nanos then (.error (.timedOut elapsed), s)
        else match left with
          | 0 => (.error (.timedOut elapsed), s)
          | left + 1 =>
            runFrom policy isCancelled probe left (attempt + 1)
              ⟨elapsed.nanos + policy.interval.nanos⟩ s

/-- Probes with 1, 2, 3, … until the budget of the policy is used up. -/
def run (policy : PollPolicy) (isCancelled : σ → Bool) (probe : Nat → σ → Option α × σ) (s : σ) :
    Except PollStop α × σ :=
  runFrom policy isCancelled probe (policy.maxAttempts - 1) 1 .zero s

end Poll

section Read

variable {ν : Type} [Source ν]

open Source

/-- A duration in its written form. -/
def Duration.read? (v : ν) : Option Duration := (text? v).bind Duration.ofWritten?

def PollPolicy.read? (v : ν) : Option PollPolicy := do
  let f ← fields? false [⟨"interval", false⟩, ⟨"timeout", false⟩] v
  return {
    interval := ← required f "interval" Duration.read?
    timeout := ← required f "timeout" Duration.read? }

end Read

def PollPolicy.toJson (p : PollPolicy) : Json :=
  .obj [("interval", .str p.interval.written), ("timeout", .str p.timeout.written)]

end OpticalTestbed
