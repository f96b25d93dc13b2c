import OpticalTestbed.Text.Chars
import Mathlib.Data.List.DropRight
import Mathlib.Data.List.TakeWhile
/-!
Characters looked at one by one, and what is left of a text without the blanks around it.
-/
namespace OpticalTestbed

namespace Text

/-- What holds of the code points below a bound, one by one, holds of the characters there. -/
@[elab_as_elim]
theorem forall_below {n : Nat} {motive : Char → Prop} (c : Char) (hc : c.toNat < n)
    (each : ∀ k < n, motive (Char.ofNat k)) : motive c := by
  have h := each c.toNat hc
  rwa [Char.ofNat_toNat] at h

section Padding

/-- A text with characters of some kind around it, and with others at its own ends. -/
structure PaddedBy (p : Char → Bool) (core cs : List Char) : Prop where
  whole : ∃ before after, cs = before ++ core ++ after ∧ ∀ c ∈ before ++ after, p c = true
  front : ∀ c ∈ core.head?, p c = false
  back : ∀ c ∈ core.getLast?, p c = false

variable {p : Char → Bool} {core cs : List Char}

theorem dropTailWhile_append {xs ys : List Char} (hys : ∀ c ∈ ys, p c = true)
    (hxs : ∀ c ∈ xs.getLast?, p c = false) : dropTailWhile p (xs ++ ys) = xs := by
  have hself : xs.rdropWhile p = xs := List.rdropWhile_eq_self_iff.2 fun hne =>
    Bool.eq_false_iff.1 (hxs _ (List.getLast?_eq_some_getLast hne))
  rw [dropTailWhile, List.reverse_append,
    List.dropWhile_append_of_pos fun c hc => hys c (List.mem_reverse.1 hc)]
  exact hself

theorem paddedBy_strip (p : Char → Bool) (cs : List Char) :
    PaddedBy p (dropTailWhile p (cs.dropWhile p)) cs where
  whole := by
    refine ⟨cs.takeWhile p, (cs.dropWhile p).rtakeWhile p, ?_, ?_⟩
    · have hkept : dropTailWhile p (cs.dropWhile p) ++ (cs.dropWhile p).rtakeWhile p =
          cs.dropWhile p := List.rdropWhile_append_rtakeWhile
      rw [List.append_assoc, hkept, List.takeWhile_append_dropWhile]
    · refine List.forall_mem_append.2 ⟨fun c => List.mem_takeWhile_imp, fun c => ?_⟩
      exact List.mem_rtakeWhile_imp
  front := by
    intro c hc
    have hfirst := List.head?_dropWhile_not p cs
    obtain ⟨rest, hrest⟩ := List.rdropWhile_prefix p (cs.dropWhile p)
    have hhead : (cs.dropWhile p).head? = some c := by
      rw [← hrest]
      exact List.mem_head?_append_of_mem_head? hc
    rwa [hhead] at hfirst
  back := by
    intro c hc
    obtain ⟨hne, rfl⟩ := List.mem_getLast?_eq_getLast hc
    exact Bool.eq_false_iff.2 (List.rdropWhile_last_not p _ hne)

/-- What is left of a text when characters of some kind are dropped at both ends. -/
theorem strip_eq_iff : dropTailWhile p (cs.dropWhile p) = core ↔ PaddedBy p core cs := by
  constructor
  · rintro rfl
    exact paddedBy_strip p cs
  · rintro ⟨⟨before, after, rfl, hpad⟩, hfront, hback⟩
    obtain ⟨hbefore, hafter⟩ := List.forall_mem_append.1 hpad
    rw [List.append_assoc, List.dropWhile_append_of_pos hbefore]
    cases core with
    | nil =>
      rw [List.nil_append, List.dropWhile_eq_nil_iff.2 hafter]
      rfl
    | cons c rest =>
      rw [List.cons_append, List.dropWhile_cons_of_neg (by simpa using hfront), ← List.cons_append]
      exact dropTailWhile_append hafter hback

/-- Trimming leaves what stands between blanks. -/
theorem trim_eq_iff : trim cs = core ↔ PaddedBy isBlank core cs := strip_eq_iff

/-- Trimming leaves nothing of blanks, and of nothing else. -/
theorem trim_eq_nil_iff : trim cs = [] ↔ ∀ c ∈ cs, isBlank c = true := by
  rw [trim_eq_iff]
  constructor
  · rintro ⟨⟨before, after, rfl, hpad⟩, -, -⟩
    simpa using hpad
  · exact fun h => ⟨⟨cs, [], by simp, by simpa using h⟩, by simp, by simp⟩

end Padding

end Text

theorem isEmpty_trimmed_iff {s : String} :
    (trimmed s).isEmpty = true ↔ ∀ c ∈ s.toList, Text.isBlank c = true := by
  rw [trimmed, String.isEmpty_iff, ← Text.trim_eq_nil_iff, String.ofList_eq_empty_iff]

end OpticalTestbed
