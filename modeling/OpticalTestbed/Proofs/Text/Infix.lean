import OpticalTestbed.Text.Chars
import Mathlib.Data.List.Infix
/-!
Words inside texts. A word that does not hold a certain character stands on one side of it.
-/
namespace OpticalTestbed.Text

variable {word pat xs ys cs : List Char} {c : Char}

theorem stripFront?_eq_some_iff {rest : List Char} :
    stripFront? pat cs = some rest ↔ cs = pat ++ rest := by
  induction pat generalizing cs with
  | nil => simp [stripFront?, eq_comm]
  | cons p pat ih =>
    cases cs with
    | nil => simp [stripFront?]
    | cons c cs =>
      simp only [stripFront?, List.cons_append, List.cons.injEq]
      split
      · rename_i he
        rw [ih]
        exact ⟨fun h => ⟨he.symm, h⟩, fun h => h.2⟩
      · rename_i hne
        simp [Ne.symm hne]

theorem startsWith_iff : startsWith pat cs = true ↔ pat <+: cs := by
  simp only [startsWith, Option.isSome_iff_exists, stripFront?_eq_some_iff]
  exact ⟨fun ⟨rest, h⟩ => ⟨rest, h.symm⟩, fun ⟨rest, h⟩ => ⟨rest, h.symm⟩⟩

theorem contains_iff : contains pat cs = true ↔ pat <:+: cs := by
  induction cs with
  | nil => simp [contains, startsWith_iff]
  | cons c cs ih =>
    rw [contains, Bool.or_eq_true, startsWith_iff, ih, List.infix_cons_iff]

theorem contains_eq_false_iff : contains pat cs = false ↔ ¬pat <:+: cs := by
  rw [← contains_iff, Bool.not_eq_true]

/-- A word without a character stands before it or after it. -/
theorem infix_of_infix_break (h : word <:+: xs ++ c :: ys) (hc : c ∉ word) :
    word <:+: xs ∨ word <:+: ys := by
  induction xs with
  | nil =>
    rcases List.infix_cons_iff.1 h with hp | hi
    · cases word with
      | nil => exact .inl List.nil_infix
      | cons d word =>
        obtain ⟨rfl, -⟩ := List.cons_prefix_cons.1 hp
        exact absurd List.mem_cons_self hc
    · exact .inr hi
  | cons x xs ih =>
    rw [List.cons_append, List.infix_cons_iff] at h
    rcases h with hp | hi
    · refine .inl (List.infix_cons_iff.2 (.inl ?_))
      -- the word would reach the character if it were longer than what stands before it
      obtain ⟨rest, hrest⟩ := hp
      have hsplit : word ++ rest = (x :: xs) ++ c :: ys := by rw [hrest, List.cons_append]
      rcases List.append_eq_append_iff.1 hsplit with ⟨a, ha, -⟩ | ⟨a, ha, hrest⟩
      · exact ⟨a, ha.symm⟩
      · cases a with
        | nil => exact ⟨[], by simpa using ha⟩
        | cons d a =>
          obtain ⟨rfl, -⟩ := List.cons.inj hrest
          exact absurd (by simp [ha]) hc
    · exact (ih hi).imp_left fun h => h.trans (List.suffix_cons x xs).isInfix

theorem infix_break_iff (hc : c ∉ word) :
    word <:+: xs ++ c :: ys ↔ word <:+: xs ∨ word <:+: ys := by
  refine ⟨fun h => infix_of_infix_break h hc, ?_⟩
  rintro (h | h)
  · exact h.trans (List.prefix_append xs (c :: ys)).isInfix
  · exact h.trans ((List.suffix_cons c ys).trans (List.suffix_append xs (c :: ys))).isInfix

/-- A word that ends in a character it does not hold elsewhere, in a text cut at the first place
where that character stands. -/
theorem infix_concat_break (hw : c ∉ word) (hx : c ∉ xs) (h : word ++ [c] <:+: xs ++ c :: ys) :
    word <:+ xs ∨ word ++ [c] <:+: ys := by
  obtain ⟨s, t, h⟩ := h
  have hsplit : (s ++ word) ++ c :: t = xs ++ c :: ys := by rw [← h]; simp
  rcases List.append_eq_append_iff.1 hsplit with ⟨a, rfl, ha⟩ | ⟨a, ha, hys⟩
  · cases a with
    | nil => exact .inl ⟨s, (List.append_nil _).symm⟩
    | cons d a =>
      obtain ⟨rfl, -⟩ := List.cons.inj ha
      simp at hx
  · cases a with
    | nil => exact .inl ⟨s, by simpa using ha⟩
    | cons d a =>
      obtain ⟨rfl, rfl⟩ := List.cons.inj hys
      -- the character is not in the word, so all of the word stands behind it
      rcases List.append_eq_append_iff.1 ha with ⟨b, -, rfl⟩ | ⟨b, -, hb⟩
      · simp at hw
      · cases b with
        | nil =>
          rw [List.nil_append] at hb
          simp [← hb] at hw
        | cons e b =>
          obtain ⟨rfl, rfl⟩ := List.cons.inj hb
          exact .inr ⟨b, t, by simp⟩

/-- A word does not stand in a text that lacks one of its characters. -/
theorem not_infix_of_not_mem (hw : c ∈ word) (hc : c ∉ cs) : ¬word <:+: cs :=
  fun h => hc (h.subset hw)

end OpticalTestbed.Text
