import OpticalTestbed.Proofs.SysConfig.Lookup
/-!
The taps of a text, listed once each as they first appear in it. A look-up finds none that is not
listed.
-/
namespace OpticalTestbed.SysConfig

section FirstAppearances

variable {α : Type} {seen l : List α} {a b x : α}

/-- An item stands in a list before any place of another one. -/
def Precedes (l : List α) (a b : α) : Prop := ∃ pre post, l = pre ++ a :: post ∧ b ∉ pre ++ [a]

theorem Precedes.cons (h : Precedes l a b) (hb : b ≠ x) : Precedes (x :: l) a b := by
  obtain ⟨pre, post, rfl, hnot⟩ := h
  refine ⟨x :: pre, post, rfl, ?_⟩
  rw [List.cons_append, List.mem_cons, not_or]
  exact ⟨hb, hnot⟩

theorem Precedes.ne (h : Precedes l a b) : a ≠ b := by
  obtain ⟨pre, post, -, hnot⟩ := h
  rintro rfl
  simp at hnot

variable [DecidableEq α]

theorem mem_firstAppearances : x ∈ firstAppearances seen l ↔ x ∈ l ∧ x ∉ seen := by
  induction l generalizing seen with
  | nil => simp [firstAppearances]
  | cons y l ih =>
    rw [firstAppearances]
    split
    · rename_i hy
      have hne : x ∉ seen → x ≠ y := fun hx he => hx (he ▸ hy)
      rw [ih, List.mem_cons]
      exact and_congr_left fun hx => (or_iff_right (hne hx)).symm
    · rename_i hy
      rw [List.mem_cons, ih, List.mem_cons, List.mem_cons, not_or]
      by_cases hx : x = y
      · simp [hx, hy]
      · simp [hx]

theorem pairwise_firstAppearances (seen l : List α) :
    (firstAppearances seen l).Pairwise (Precedes l) := by
  induction l generalizing seen with
  | nil => exact .nil
  | cons x l ih =>
    have hcons : ∀ seen', x ∈ seen' → (firstAppearances seen' l).Pairwise (Precedes (x :: l)) := by
      intro seen' hx
      refine (ih seen').imp_of_mem fun _ hb h => h.cons fun he => ?_
      exact (mem_firstAppearances.1 hb).2 (he ▸ hx)
    rw [firstAppearances]
    split
    · rename_i hx
      exact hcons seen hx
    · refine .cons (fun b hb => ?_) (hcons _ List.mem_cons_self)
      have hne : b ≠ x := fun he => (mem_firstAppearances.1 hb).2 (he ▸ List.mem_cons_self)
      exact ⟨[], l, rfl, by simpa using hne⟩

end FirstAppearances

section Places

variable {word cs digits : List Char} {pre post : List (List Char)} {name : String} {i : Nat}

/-- The runs of digits are found from left to right. -/
theorem numbersAfter_place (h : numbersAfter word cs = pre ++ digits :: post) :
    ∃ i, RunAt word cs i digits ∧ ∀ j ds, RunAt word cs j ds → j ≤ i → ds ∈ pre ++ [digits] := by
  have hscan := scans_runAt word
  induction cs generalizing pre with
  | nil => simp [numbersAfter] at h
  | cons c cs ih =>
    rw [numbersAfter] at h
    split at h
    · rename_i found hfront
      have hfound : ∀ ds, RunAt word (c :: cs) 0 ds → ds = found := fun ds hrun =>
        Option.some.inj (((hscan.front _ ds).1 hrun).symm.trans hfront)
      cases pre with
      | nil =>
        obtain ⟨rfl, -⟩ := List.cons.inj h
        refine ⟨0, (hscan.front _ _).2 hfront, fun j ds hrun hj => ?_⟩
        obtain rfl := Nat.le_zero.1 hj
        simpa using hfound ds hrun
      | cons d pre =>
        obtain ⟨rfl, hmore⟩ := List.cons.inj h
        obtain ⟨i, hrun, hbefore⟩ := ih hmore
        refine ⟨i + 1, (hscan.rest c cs i _).2 hrun, fun j ds hds hj => ?_⟩
        rw [List.cons_append, List.mem_cons]
        cases j with
        | zero => exact .inl (hfound ds hds)
        | succ j =>
          exact .inr (hbefore j ds ((hscan.rest c cs j ds).1 hds) (Nat.le_of_succ_le_succ hj))
    · rename_i hnone
      obtain ⟨i, hrun, hbefore⟩ := ih h
      refine ⟨i + 1, (hscan.rest c cs i _).2 hrun, fun j ds hds hj => ?_⟩
      cases j with
      | zero =>
        rw [(hscan.front _ ds).1 hds] at hnone
        cases hnone
      | succ j => exact hbefore j ds ((hscan.rest c cs j ds).1 hds) (Nat.le_of_succ_le_succ hj)

/-- At some place of a text stands the name of a tap. -/
def TapAt (cs : List Char) (i : Nat) (name : String) : Prop :=
  ∃ digits, RunAt tapWord cs i digits ∧ name = String.ofList (tapWord ++ digits)

/-- One name stands in a text before any place of another one. -/
def AppearsBefore (cs : List Char) (a b : String) : Prop :=
  ∃ i, TapAt cs i a ∧ ∀ j, TapAt cs j b → i < j

/-- The names of taps in a text, as they first appear. -/
structure ListsTaps (cs : List Char) (names : List String) : Prop where
  nodup : names.Nodup
  mem_iff : ∀ name, name ∈ names ↔ ∃ i, TapAt cs i name
  ordered : names.Pairwise (AppearsBefore cs)

theorem mem_tapNames : name.toList ∈ tapNames cs ↔ ∃ i, TapAt cs i name := by
  rw [tapNames, List.mem_map]
  constructor
  · rintro ⟨digits, hdigits, hname⟩
    obtain ⟨i, hrun⟩ := mem_numbersAfter.1 hdigits
    exact ⟨i, digits, hrun, by rw [hname, String.ofList_toList]⟩
  · rintro ⟨i, digits, hrun, rfl⟩
    exact ⟨digits, mem_numbersAfter.2 ⟨i, hrun⟩, String.toList_ofList.symm⟩

theorem Precedes.appearsBefore {a b : List Char} (h : Precedes (tapNames cs) a b) :
    AppearsBefore cs (String.ofList a) (String.ofList b) := by
  obtain ⟨pre, post, hnames, hnot⟩ := h
  obtain ⟨numbers, more, hnumbers, rfl, hmore⟩ := List.map_eq_append_iff.1 hnames
  obtain ⟨digits, others, rfl, rfl, -⟩ := List.map_eq_cons_iff.1 hmore
  obtain ⟨i, hrun, hbefore⟩ := numbersAfter_place hnumbers
  refine ⟨i, ⟨digits, hrun, rfl⟩, fun j hj => ?_⟩
  obtain ⟨ds, hds, hname⟩ := hj
  by_contra hle
  have hmem := List.mem_map_of_mem (f := (tapWord ++ ·)) (hbefore j ds hds (Nat.le_of_not_lt hle))
  rw [List.map_append, ← String.ofList_inj.1 hname] at hmem
  exact hnot hmem

theorem listsTaps_taps (text : String) : ListsTaps text.toList (taps text) where
  nodup := by
    refine List.pairwise_map.2 ((pairwise_firstAppearances _ _).imp fun h he => ?_)
    exact h.ne (String.ofList_inj.1 he)
  mem_iff name := by
    rw [← mem_tapNames, taps, List.mem_map]
    simp only [mem_firstAppearances, List.not_mem_nil, not_false_eq_true, and_true]
    constructor
    · rintro ⟨cs, hcs, rfl⟩
      rwa [String.toList_ofList]
    · exact fun h => ⟨name.toList, h, String.ofList_toList⟩
  ordered := List.pairwise_map.2 ((pairwise_firstAppearances _ _).imp Precedes.appearsBefore)

end Places

section Found

variable {lines : List (List Char)} {stage : Stage} {index : Nat} {line : List Char}
  {text dpid tap : String} {port : Nat}

/-- The names of a text are those of its lines. -/
theorem tapNames_lines (cs : List Char) : tapNames cs = (Text.lines cs).flatMap tapNames := by
  have hlines := (reduces_lines cs).taps
  rw [← numbersAfter_join, Text.join_splitOn] at hlines
  simp only [tapNames, hlines, List.map_flatMap]
  rfl

theorem tapOn?_mem {name : List Char} (h : tapOn? index line = some name) :
    name ∈ tapNames line := by
  rw [tapOn?] at h
  split at h
  · exact List.mem_of_mem_head? h
  · cases h

theorem Stage.report_ok (h : stage.report lines = .ok tap) :
    ∃ line ∈ lines, tap.toList ∈ tapNames line := by
  cases stage with
  | before => cases h
  | inside => cases h
  | after => cases h
  | found line =>
    simp only [Stage.report] at h
    split at h
    · cases h
    · rename_i index _
      split at h
      · rename_i name hname
        cases h
        rw [tapOfIndex?_filter] at hname
        obtain ⟨shown, hshown, hon⟩ := List.exists_of_findSome?_eq_some hname
        rw [String.toList_ofList]
        exact ⟨shown, hshown, tapOn?_mem hon⟩
      · cases h

/-- A tap that is found is one of those listed. -/
theorem tapOf_mem_taps (h : tapOf text dpid port = .ok tap) : tap ∈ taps text := by
  rw [tapOf_eq] at h
  obtain ⟨line, hline, hname⟩ := Stage.report_ok h
  refine ((listsTaps_taps text).mem_iff tap).2 (mem_tapNames.1 ?_)
  rw [tapNames_lines, List.mem_flatMap]
  exact ⟨line, hline, hname⟩

end Found

end OpticalTestbed.SysConfig
