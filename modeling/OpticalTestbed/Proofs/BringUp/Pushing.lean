import OpticalTestbed.Proofs.BringUp.Aborting
import OpticalTestbed.Proofs.Text.Chars
import OpticalTestbed.Proofs.Traces
import Mathlib.Data.List.Forall2
/-!
Pushing the controller document to every controller: one call each, in the order of the controllers,
and nothing to report exactly if every controller accepted it, which it does by printing braces and
blanks.
-/
namespace OpticalTestbed

namespace Push

open Text

/-- What an acceptance looks like: up to two runs of braces, with blanks around and between them.
Whether a brace opens or closes does not matter. -/
def Acceptance (output : String) : Prop :=
  ∃ before first between last after,
    output.toList = before ++ first ++ between ++ last ++ after ∧
    (∀ c ∈ before ++ between ++ after, isBlank c = true) ∧
    ∀ c ∈ first ++ last, c = '\x7b' ∨ c = '\x7d'

variable {output : String}

theorem isBrace_iff {c : Char} : isBrace c = true ↔ c = '\x7b' ∨ c = '\x7d' := by
  simp [isBrace]

theorem isBlank_of_isBrace {c : Char} (h : isBrace c = true) : isBlank c = false := by
  obtain rfl | rfl := isBrace_iff.1 h
  · decide
  · decide

theorem isBrace_of_isBlank {c : Char} (h : isBlank c = true) : isBrace c = false := by
  by_contra hbrace
  rw [isBlank_of_isBrace (Bool.eq_true_of_not_eq_false hbrace)] at h
  cases h

/-- Stripped of blanks, then of braces, an accepted output has blanks left at most. -/
theorem isAccepted_iff_paddedBy : isAccepted output = true ↔
    ∃ core inner, PaddedBy isBlank core output.toList ∧ PaddedBy isBrace inner core ∧
      ∀ c ∈ inner, isBlank c = true := by
  unfold isAccepted
  rw [List.isEmpty_iff, trim_eq_nil_iff]
  constructor
  · exact fun h => ⟨_, _, paddedBy_strip _ _, paddedBy_strip _ _, h⟩
  · rintro ⟨core, inner, hcore, hinner, h⟩
    rwa [trim_eq_iff.2 hcore, strip_eq_iff.2 hinner]

/-- A single run of braces is what the first strip leaves, and the second strip leaves nothing. -/
theorem isAccepted_of_run {before run after : List Char}
    (houter : output.toList = before ++ run ++ after)
    (hblank : ∀ c ∈ before ++ after, isBlank c = true) (hbrace : ∀ c ∈ run, isBrace c = true) :
    isAccepted output = true := by
  refine isAccepted_iff_paddedBy.2 ⟨run, [], ⟨⟨before, after, houter, hblank⟩, ?_, ?_⟩,
    ⟨⟨run, [], by simp, by simpa using hbrace⟩, by simp, by simp⟩, by simp⟩
  · exact fun c hc => isBlank_of_isBrace (hbrace c (List.mem_of_mem_head? hc))
  · exact fun c hc => isBlank_of_isBrace (hbrace c (List.mem_of_mem_getLast? hc))

theorem isAccepted_iff : isAccepted output = true ↔ Acceptance output := by
  constructor
  · intro h
    obtain ⟨core, inner, ⟨⟨before, after, houter, hblank⟩, -, -⟩,
      ⟨⟨first, last, rfl, hbrace⟩, -, -⟩, hinner⟩ := isAccepted_iff_paddedBy.1 h
    refine ⟨before, first, inner, last, after, ?_, ?_, fun c hc => isBrace_iff.1 (hbrace c hc)⟩
    · rw [houter]
      simp only [List.append_assoc]
    · rw [List.forall_mem_append] at hblank
      exact List.forall_mem_append.2 ⟨List.forall_mem_append.2 ⟨hblank.1, hinner⟩, hblank.2⟩
  · rintro ⟨before, first, between, last, after, houter, hblank, hbrace⟩
    replace hbrace : ∀ c ∈ first ++ last, isBrace c = true := fun c hc =>
      isBrace_iff.2 (hbrace c hc)
    cases first with
    | nil => exact isAccepted_of_run (by simpa using houter) hblank hbrace
    | cons b first =>
      obtain rfl | ⟨last, e, rfl⟩ := List.eq_nil_or_concat last
      · have hrun : output.toList = before ++ (b :: first) ++ (between ++ after) := by
          simpa using houter
        exact isAccepted_of_run hrun (by simpa using hblank) (by simpa using hbrace)
      · have hb := isBlank_of_isBrace (hbrace b (by simp))
        have he := isBlank_of_isBrace (hbrace e (by simp))
        have hbetween : ∀ c ∈ between, isBlank c = true := fun c hc => hblank c (by simp [hc])
        refine isAccepted_iff_paddedBy.2 ⟨b :: first ++ between ++ last ++ [e], between,
          ⟨⟨before, after, by simpa using houter, fun c hc => hblank c ?_⟩, by simpa, ?_⟩,
          ⟨⟨b :: first, last ++ [e], by simp, by simpa using hbrace⟩, ?_, ?_⟩, hbetween⟩
        · simp only [List.mem_append] at hc ⊢
          tauto
        · rw [List.getLast?_concat]
          simpa
        · exact fun c hc => isBrace_of_isBlank (hbetween c (List.mem_of_mem_head? hc))
        · exact fun c hc => isBrace_of_isBlank (hbetween c (List.mem_of_mem_getLast? hc))

example : isAccepted "\x7d\x7d \x7b\n" = true := by decide

end Push

namespace BringUp

variable {o : Outside} {t : Testbed} {w : World}

/-- The document was pushed to a controller by a certain call. -/
def Pushed (t : Testbed) (c : Controller) (d : Occurrence) : Prop :=
  ∃ answer, d.event = .ran (pushCall t c.ip networkFile) answer

/-- The document was pushed to a controller, which accepted it. -/
def Accepted (t : Testbed) (c : Controller) (d : Occurrence) : Prop :=
  ∃ output, d.event = .ran (pushCall t c.ip networkFile) (.ok output) ∧ Push.Acceptance output

/-- What is to be reported of an answer. -/
def refusals : Except Failure Unit → List Failure
  | .ok _ => []
  | .error e => [e]

theorem push_apply (controller document : String) :
    push o t controller document w = (match (o.call (pushCall t controller document) w).1 with
      | .error e => .error e
      | .ok output =>
        if Push.isAccepted output then .ok ()
        else .error (.pushRejected controller document (trimmed output)),
      (o.call (pushCall t controller document) w).2) := by
  have hpush : push o t controller document = (o.call (pushCall t controller document) >>=
      fun output => if Push.isAccepted output then (return () : Op Unit)
        else Op.fail (.pushRejected controller document (trimmed output))) := rfl
  rw [hpush, Op.bind_apply]
  obtain ⟨answer, v⟩ := o.call (pushCall t controller document) w
  cases answer with
  | error e => rfl
  | ok output =>
    dsimp only
    split <;> rfl

theorem push_ends (o : Outside) (t : Testbed) (c : Controller) (w : World) :
    ∃ d, w.Traces (push o t c.ip networkFile w).2 [d] ∧ Pushed t c d ∧
      ExplainedBy (refusals (push o t c.ip networkFile w).1) [d] ∧
      (refusals (push o t c.ip networkFile w).1 = [] ↔ Accepted t c d) := by
  refine ⟨⟨.ran (pushCall t c.ip networkFile) (o.call (pushCall t c.ip networkFile) w).1, w.files⟩,
    ?_, ⟨_, rfl⟩, ?_⟩
  · rw [push_apply]
    exact o.traces_call w _
  · rw [push_apply]
    cases (o.call (pushCall t c.ip networkFile) w).1 with
    | error e => exact ⟨⟨by simp [Event.FailsWith, refusals], by simp [Event.FailsWith, refusals]⟩,
        by simp [refusals, Accepted]⟩
    | ok output =>
      dsimp only
      split
      · rename_i haccepted
        exact ⟨⟨by simp [Event.FailsWith], by simp [refusals]⟩,
          by simp [refusals, Accepted, ← Push.isAccepted_iff, haccepted]⟩
      · rename_i hrefused
        exact ⟨⟨by simp [Event.FailsWith], by simp [refusals, Failure.isFatal]⟩,
          by simp [refusals, Accepted, ← Push.isAccepted_iff, hrefused]⟩

/-- How pushing ends, by the calls that it makes. -/
theorem pushAll_ends (o : Outside) (t : Testbed) (controllers : List Controller) (w : World) :
    ∃ trace, w.Traces (pushAll o t controllers w).2 trace ∧
      List.Forall₂ (Pushed t) controllers trace ∧ ExplainedBy (pushAll o t controllers w).1 trace ∧
      ((pushAll o t controllers w).1 = [] ↔ List.Forall₂ (Accepted t) controllers trace) := by
  induction controllers generalizing w with
  | nil => exact ⟨[], World.traces_of_history_eq rfl, .nil, explainedBy_nil, by simp [pushAll]⟩
  | cons c more ih =>
    obtain ⟨d, hd, hpushed, hexplained, hnone⟩ := push_ends o t c w
    obtain ⟨trace, htrace, hall, hrest, hnones⟩ := ih (push o t c.ip networkFile w).2
    have hsplit : (pushAll o t (c :: more) w).1 = refusals (push o t c.ip networkFile w).1 ++
        (pushAll o t more (push o t c.ip networkFile w).2).1 := by
      simp only [pushAll]
      generalize push o t c.ip networkFile w = result
      obtain ⟨answer, v⟩ := result
      cases answer <;> rfl
    refine ⟨d :: trace, hd.append htrace, .cons hpushed hall, ?_, ?_⟩
    · rw [hsplit]
      exact hexplained.append hrest
    · rw [hsplit, List.append_eq_nil_iff, hnone, hnones, List.forall₂_cons]

end BringUp

end OpticalTestbed
