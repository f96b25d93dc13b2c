import OpticalTestbed.Proofs.SysConfig.Markers
import OpticalTestbed.Proofs.Text.Split
import OpticalTestbed.SysConfig.Controllers
import Mathlib.Data.List.Forall2
/-!
Listing the controllers anew. What is replaced is one stretch of each line, from the first mark of a
list to the end, so a list that was put there is replaced as the generated one was: the last one
stands.
-/
namespace OpticalTestbed.SysConfig

open Text (cutAt? stripFront?)

variable {clause clause' line rest after before : List Char} {controllers a b : List Controller}
  {text : String}

section Lines

/-- What becomes of a line: one without a list of controllers stays, any other has the new list from
where its first one begins. -/
inductive PatchesLine (clause : List Char) : List Char → List Char → Prop
  | kept {line : List Char} : ¬clauseMarker <:+: line → PatchesLine clause line line
  | replaced {line before after : List Char} : Text.CutAt clauseMarker before after line →
    PatchesLine clause line (before ++ clause)

theorem patchLine_patches (clause line : List Char) :
    PatchesLine clause line (patchLine clause line) := by
  unfold patchLine
  split
  · rename_i hcut
    exact .replaced (Text.cutAt?_cutAt hcut)
  · rename_i hnone
    exact .kept (Text.cutAt?_eq_none_iff.1 hnone)

theorem patchLine_of_front (h : stripFront? clauseMarker line = some rest) :
    patchLine clause line = clause := by
  cases line with
  | nil => cases h
  | cons c cs => simp [patchLine, cutAt?, h]

theorem patchLine_cons {c : Char} {cs : List Char} (h : stripFront? clauseMarker (c :: cs) = none) :
    patchLine clause (c :: cs) = c :: patchLine clause cs := by
  simp only [patchLine, cutAt?, h]
  cases cutAt? clauseMarker cs <;> rfl

theorem not_newline_patchLine (hclause : '\n' ∉ clause) (hline : '\n' ∉ line) :
    '\n' ∉ patchLine clause line := by
  unfold patchLine
  split
  · rename_i before after hcut
    rw [Text.cutAt?_eq_some hcut, List.mem_append, not_or] at hline
    rw [List.mem_append, not_or]
    exact ⟨hline.1, hclause⟩
  · exact hline

end Lines

section Scanning

/-- What becomes of a text that is read from its front: wherever a list of controllers begins, all
up to the end of the line is replaced, and reading goes on behind it. -/
inductive Replaces (clause : List Char) : List Char → List Char → Prop
  | done : Replaces clause [] []
  | skip {c : Char} {cs ds : List Char} : ¬clauseMarker <+: c :: cs → Replaces clause cs ds →
    Replaces clause (c :: cs) (c :: ds)
  | replace {after rest ds : List Char} : '\n' ∉ after → (∀ c ∈ rest.head?, c = '\n') →
    Replaces clause rest ds → Replaces clause (clauseMarker ++ (after ++ rest)) (clause ++ ds)

/-- A marker does not go on behind the end of a line. -/
theorem not_marker_of_line (h : stripFront? clauseMarker line = none)
    (hrest : ∀ c ∈ rest.head?, c = '\n') : ¬clauseMarker <+: line ++ rest := by
  have hnone : stripFront? clauseMarker (line ++ rest) = none := by
    cases rest with
    | nil => rwa [List.append_nil]
    | cons c rest =>
      obtain rfl := hrest c rfl
      rw [stripFront?_break (by decide), h, Option.map_none]
  rw [← Text.startsWith_iff, Text.startsWith, hnone]
  simp

theorem replaces_line {ds : List Char} (hline : '\n' ∉ line) (hrest : ∀ c ∈ rest.head?, c = '\n')
    (h : Replaces clause rest ds) :
    Replaces clause (line ++ rest) (patchLine clause line ++ ds) := by
  induction line with
  | nil => exact h
  | cons c cs ih =>
    cases hfront : stripFront? clauseMarker (c :: cs) with
    | some after =>
      rw [patchLine_of_front hfront]
      rw [Text.stripFront?_eq_some_iff] at hfront
      rw [hfront, List.mem_append, not_or] at hline
      rw [hfront, List.append_assoc]
      exact .replace hline.2 hrest h
    | none =>
      rw [List.mem_cons, not_or] at hline
      rw [patchLine_cons hfront]
      exact .skip (not_marker_of_line hfront hrest) (ih hline.2)

/-- Replacing line by line is replacing all over the text. -/
theorem replaces_join {lines : List (List Char)} (h : ∀ line ∈ lines, '\n' ∉ line) :
    Replaces clause (Text.join ['\n'] lines) (Text.join ['\n'] (lines.map (patchLine clause))) := by
  induction lines with
  | nil => exact .done
  | cons line lines ih =>
    obtain ⟨hline, hlines⟩ := List.forall_mem_cons.1 h
    cases lines with
    | nil =>
      have hlast := @replaces_line clause line [] [] hline (by simp) .done
      rwa [List.append_nil, List.append_nil] at hlast
    | cons line' lines =>
      have hnewline : ∀ cs, ¬clauseMarker <+: '\n' :: cs := by simp [clauseMarker]
      rw [List.map_cons, List.map_cons, Text.join_cons_cons, Text.join_cons_cons]
      exact replaces_line hline (by simp) (.skip (hnewline _) (ih hlines))

end Scanning

section Again

/-- A word whose first character it does not repeat does not begin before that character. -/
theorem cutAt?_skip {c : Char} {word xs ys : List Char} (hc : c ∉ word)
    (hx : cutAt? (c :: word) xs = none) : cutAt? (c :: word) (xs ++ c :: ys) =
      (cutAt? (c :: word) (c :: ys)).map fun cut => (xs ++ cut.1, cut.2) := by
  induction xs with
  | nil => simp
  | cons x xs ih =>
    obtain ⟨hfront, hmore⟩ : stripFront? (c :: word) (x :: xs) = none ∧
        cutAt? (c :: word) xs = none := by
      rw [cutAt?] at hx
      split at hx
      · cases hx
      · rename_i hfront
        exact ⟨hfront, Option.map_eq_none_iff.1 hx⟩
    have hskip : stripFront? (c :: word) (x :: (xs ++ c :: ys)) = none := by
      simp only [stripFront?] at hfront ⊢
      split
      · rename_i hcx
        rw [if_pos hcx] at hfront
        rw [stripFront?_break hc, hfront, Option.map_none]
      · rfl
    rw [List.cons_append, cutAt?, hskip, ih hmore, Option.map_map]
    rfl

/-- Only the list itself is read anew in a line that has been given one. -/
theorem patchLine_append (hbefore : ¬clauseMarker <:+: before) :
    patchLine clause' (before ++ '[' :: rest) = before ++ patchLine clause' ('[' :: rest) := by
  have hskip := @cutAt?_skip '[' ('\x7b' :: '"' :: "Switch".toList) before rest (by decide)
    (Text.cutAt?_eq_none_iff.2 hbefore)
  unfold patchLine clauseMarker
  rw [hskip]
  cases cutAt? ('[' :: '\x7b' :: '"' :: "Switch".toList) ('[' :: rest) with
  | none => rfl
  | some cut => exact List.append_assoc _ _ _

/-- The list of some controllers begins as the generated one does. -/
theorem patchLine_controllerClause (hne : a ≠ []) :
    patchLine clause (controllerClause a) = clause := by
  obtain ⟨c, a, rfl⟩ := List.exists_cons_of_ne_nil hne
  cases a <;> exact patchLine_of_front rfl

theorem patchLine_patchLine (line : List Char)
    (h : patchLine (controllerClause b) (controllerClause a) = controllerClause b) :
    patchLine (controllerClause b) (patchLine (controllerClause a) line) =
      patchLine (controllerClause b) line := by
  cases hcut : cutAt? clauseMarker line with
  | none => simp only [patchLine, hcut]
  | some cut =>
    have hbefore := (Text.cutAt?_cutAt hcut).absent_before (List.cons_ne_nil _ _)
    have hline : ∀ clause, patchLine clause line = cut.1 ++ clause := by
      intro clause
      simp only [patchLine, hcut]
    rw [hline, hline]
    nth_rewrite 2 [← h]
    exact patchLine_append hbefore

end Again

section Addresses

/-- Controllers whose addresses stay on their line. -/
def OneLine (controllers : List Controller) : Prop := ∀ c ∈ controllers, '\n' ∉ c.ip.toList

theorem not_newline_entry {k : Nat} {c : Controller} (h : '\n' ∉ c.ip.toList) :
    '\n' ∉ controllerEntry k c := by
  have hdecimal := Numeral.not_mem_decimal (c := '\n') (by decide)
  simp [controllerEntry, hdecimal, h]

theorem not_newline_entries {k : Nat} (h : OneLine controllers) :
    ∀ entry ∈ controllerEntries k controllers, '\n' ∉ entry := by
  induction controllers generalizing k with
  | nil => simp [controllerEntries]
  | cons c controllers ih =>
    obtain ⟨hc, hrest⟩ := List.forall_mem_cons.1 h
    exact List.forall_mem_cons.2 ⟨not_newline_entry hc, ih hrest⟩

theorem not_newline_controllerClause (h : OneLine controllers) :
    '\n' ∉ controllerClause controllers := by
  have hjoin : '\n' ∉ Text.join [','] (controllerEntries 0 controllers) :=
    Text.not_mem_join (by decide) (not_newline_entries h)
  simp [controllerClause, hjoin]

end Addresses

section Whole

theorem toList_patchControllers (text : String) (controllers : List Controller) :
    (patchControllers text controllers).toList = Text.join ['\n']
      ((Text.splitOn '\n' text.toList).map (patchLine (controllerClause controllers))) :=
  String.toList_ofList

/-- A list that stays on its line leaves the lines as they were split. -/
theorem splitOn_patchControllers (h : OneLine controllers) :
    Text.splitOn '\n' (patchControllers text controllers).toList =
      (Text.splitOn '\n' text.toList).map (patchLine (controllerClause controllers)) := by
  have hne := Text.splitOn_ne_nil '\n' text.toList
  rw [toList_patchControllers]
  refine Text.splitOn_join_self (by simpa using hne) fun piece hpiece => ?_
  obtain ⟨line, hline, rfl⟩ := List.mem_map.1 hpiece
  exact not_newline_patchLine (not_newline_controllerClause h) (Text.not_mem_of_mem_splitOn hline)

theorem patchControllers_patchControllers (hline : OneLine a)
    (h : patchLine (controllerClause b) (controllerClause a) = controllerClause b) :
    patchControllers (patchControllers text a) b = patchControllers text b := by
  have hlines : (patchLine (controllerClause b)) ∘ (patchLine (controllerClause a)) =
      patchLine (controllerClause b) := funext fun line => patchLine_patchLine line h
  rw [patchControllers, splitOn_patchControllers hline, List.map_map, hlines]
  rfl

theorem patchControllers_idem (h : OneLine a) :
    patchControllers (patchControllers text a) a = patchControllers text a := by
  refine patchControllers_patchControllers h ?_
  cases a with
  | nil => rfl
  | cons c a => exact patchLine_controllerClause (List.cons_ne_nil c a)

theorem count_patchControllers (h : OneLine a) :
    (patchControllers text a).toList.count '\n' = text.toList.count '\n' := by
  have hlen := congrArg List.length (@splitOn_patchControllers a text h)
  rw [List.length_map, Text.length_splitOn, Text.length_splitOn] at hlen
  exact Nat.succ.inj hlen

theorem replaces_patchControllers (text : String) (b : List Controller) :
    Replaces (controllerClause b) text.toList (patchControllers text b).toList := by
  rw [toList_patchControllers]
  nth_rewrite 1 [← Text.join_splitOn '\n' text.toList]
  exact replaces_join fun line hline => Text.not_mem_of_mem_splitOn hline

/-- The lines of a text, and what the list makes of each of them. -/
structure PatchesLines (b : List Controller) (text patched : String) : Prop where
  whole : Replaces (controllerClause b) text.toList patched.toList
  each : ∃ lines, List.Forall₂ (PatchesLine (controllerClause b)) (Text.splitOn '\n' text.toList)
    lines ∧ patched.toList = Text.join ['\n'] lines

theorem patchesLines (text : String) (b : List Controller) :
    PatchesLines b text (patchControllers text b) where
  whole := replaces_patchControllers text b
  each := by
    refine ⟨_, List.forall₂_map_right_iff.2 ?_, toList_patchControllers text b⟩
    exact List.forall₂_same.2 fun line _ => patchLine_patches _ line

/-- Each line is patched by itself. Another list put in place of the first leaves no trace of it,
unless the first was empty or runs over the end of its line. -/
theorem last_controllers_stand (text : String) :
    (∀ b, PatchesLines b text (patchControllers text b)) ∧
    ∀ a, OneLine a →
      (a ≠ [] → ∀ b, patchControllers (patchControllers text a) b = patchControllers text b) ∧
      patchControllers (patchControllers text a) a = patchControllers text a ∧
      (patchControllers text a).toList.count '\n' = text.toList.count '\n' := by
  refine ⟨patchesLines text, fun a hline => ⟨fun hne b => ?_, patchControllers_idem hline,
    count_patchControllers hline⟩⟩
  exact patchControllers_patchControllers hline (patchLine_controllerClause hne)

/-- A line on which a list of controllers begins. -/
def Sample.listed : String := String.ofList ('c' :: ',' :: clauseMarker)

theorem last_controllers_stand_sample :
    OneLine [⟨"10.0.0.1", 6633⟩] ∧ patchControllers Sample.listed [⟨"h", 1⟩] ≠ Sample.listed ∧
      patchControllers (patchControllers Sample.listed [⟨"10.0.0.1", 6633⟩]) [⟨"h", 1⟩] =
        patchControllers Sample.listed [⟨"h", 1⟩] := by
  have hline : OneLine [⟨"10.0.0.1", 6633⟩] := List.forall_mem_singleton.2 (by decide)
  have hlast := (last_controllers_stand Sample.listed).2 _ hline
  refine ⟨hline, fun he => ?_, hlast.1 (List.cons_ne_nil _ _) [⟨"h", 1⟩]⟩
  rw [patchControllers, Sample.listed, String.toList_ofList, String.ofList_inj] at he
  revert he
  decide +kernel

end Whole

end OpticalTestbed.SysConfig
