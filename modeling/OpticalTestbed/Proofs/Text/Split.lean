import OpticalTestbed.Proofs.Text.Infix
import Mathlib.Data.List.TakeWhile
/-!
Texts split at a separator, or at the first place of a word.
-/
namespace OpticalTestbed.Text

theorem splitOn_ne_nil (sep : Char) (cs : List Char) : splitOn sep cs ≠ [] := by
  cases cs with
  | nil => simp [splitOn]
  | cons c cs =>
    simp only [splitOn]
    split
    · simp
    · split <;> simp

/-- Texts on both sides of a separator are split one by one. -/
theorem splitOn_append (sep : Char) (cs ds : List Char) :
    splitOn sep (cs ++ sep :: ds) = splitOn sep cs ++ splitOn sep ds := by
  induction cs with
  | nil => simp [splitOn]
  | cons c cs ih =>
    simp only [List.cons_append, splitOn, ih]
    split
    · rfl
    · have hne := splitOn_ne_nil sep cs
      cases hs : splitOn sep cs with
      | nil => exact absurd hs hne
      | cons piece pieces => rfl

/-- There is one piece more than there are separators. -/
theorem length_splitOn (sep : Char) (cs : List Char) :
    (splitOn sep cs).length = cs.count sep + 1 := by
  induction cs with
  | nil => rfl
  | cons c cs ih =>
    rw [splitOn, List.count_cons]
    by_cases hc : c = sep
    · simp [hc, ih]
    · have hne := splitOn_ne_nil sep cs
      cases hs : splitOn sep cs with
      | nil => exact absurd hs hne
      | cons piece pieces => simpa [hc, hs] using ih

/-- Text in front changes the first piece at most, and may add pieces before it. -/
theorem tail_splitOn_suffix (sep : Char) (cs ds : List Char) :
    (splitOn sep ds).tail <:+ (splitOn sep (cs ++ ds)).tail := by
  induction cs with
  | nil => exact List.suffix_refl _
  | cons c cs ih =>
    rw [List.cons_append, splitOn]
    split
    · exact ih.trans (List.tail_suffix _)
    · cases hs : splitOn sep (cs ++ ds) with
      | nil => exact absurd hs (splitOn_ne_nil sep _)
      | cons piece pieces => rwa [hs] at ih

/-- A text without the separator is one piece. -/
theorem splitOn_eq_self {sep : Char} {cs : List Char} (h : sep ∉ cs) : splitOn sep cs = [cs] := by
  induction cs with
  | nil => rfl
  | cons c cs ih =>
    rw [List.mem_cons, not_or] at h
    rw [splitOn, if_neg (Ne.symm h.1), ih h.2]

theorem not_mem_of_mem_splitOn {sep : Char} {cs piece : List Char} (h : piece ∈ splitOn sep cs) :
    sep ∉ piece := by
  induction cs generalizing piece with
  | nil =>
    rw [splitOn, List.mem_singleton] at h
    simp [h]
  | cons c cs ih =>
    simp only [splitOn] at h
    split at h
    · rcases List.mem_cons.1 h with rfl | h
      · exact List.not_mem_nil
      · exact ih h
    · rename_i hc
      split at h
      · rename_i hnil
        exact absurd hnil (splitOn_ne_nil sep cs)
      · rename_i first more hsplit
        rw [hsplit] at ih
        rcases List.mem_cons.1 h with rfl | h
        · rw [List.mem_cons, not_or]
          exact ⟨Ne.symm hc, ih List.mem_cons_self⟩
        · exact ih (List.mem_cons_of_mem _ h)

/-- Text in front that lacks the separator belongs to the first piece. -/
theorem splitOn_prefix {sep : Char} {xs ys piece : List Char} {pieces : List (List Char)}
    (hx : sep ∉ xs) (hy : splitOn sep ys = piece :: pieces) :
    splitOn sep (xs ++ ys) = (xs ++ piece) :: pieces := by
  induction xs with
  | nil => exact hy
  | cons x xs ih =>
    rw [List.mem_cons, not_or] at hx
    rw [List.cons_append, splitOn, if_neg (Ne.symm hx.1), ih hx.2]
    rfl

/-- A run of characters ends at one that is not of its kind. -/
theorem takeWhile_break {q : Char → Bool} {c : Char} {xs ys : List Char} (hc : q c = false) :
    (xs ++ c :: ys).takeWhile q = xs.takeWhile q := by
  induction xs with
  | nil => simp [hc]
  | cons x xs ih => simp only [List.cons_append, List.takeWhile_cons, ih]

theorem takeWhile_ne_eq_iff {c : Char} {cs xs : List Char} :
    cs.takeWhile (· ≠ c) = xs ↔ c ∉ xs ∧ (cs = xs ∨ ∃ ys, cs = xs ++ c :: ys) := by
  constructor
  · rintro rfl
    refine ⟨fun hc => by simpa using List.mem_takeWhile_imp hc, ?_⟩
    have hwhole := List.takeWhile_append_dropWhile (p := (· ≠ c)) (l := cs)
    have hstop := List.head?_dropWhile_not (· ≠ c) cs
    cases hrest : cs.dropWhile (· ≠ c) with
    | nil =>
      rw [hrest, List.append_nil] at hwhole
      exact .inl hwhole.symm
    | cons d ys =>
      rw [hrest] at hwhole hstop
      obtain rfl : d = c := by simpa using hstop
      exact .inr ⟨ys, hwhole.symm⟩
  · rintro ⟨hc, hcs⟩
    have hself : xs.takeWhile (· ≠ c) = xs := List.takeWhile_eq_self_iff.2 fun d hd =>
      decide_eq_true fun he : d = c => hc (he ▸ hd)
    rcases hcs with rfl | ⟨ys, rfl⟩
    · exact hself
    · rw [takeWhile_break (by simp), hself]

theorem join_cons_cons (sep : Char) (piece piece' : List Char) (pieces : List (List Char)) :
    join [sep] (piece :: piece' :: pieces) = piece ++ sep :: join [sep] (piece' :: pieces) := by
  simp [join]

theorem not_mem_join {sep c : Char} {pieces : List (List Char)} (hc : c ≠ sep)
    (h : ∀ piece ∈ pieces, c ∉ piece) : c ∉ join [sep] pieces := by
  induction pieces with
  | nil => exact List.not_mem_nil
  | cons piece pieces ih =>
    obtain ⟨hpiece, hrest⟩ := List.forall_mem_cons.1 h
    cases pieces with
    | nil => exact hpiece
    | cons piece' pieces =>
      rw [join_cons_cons, List.mem_append, List.mem_cons, not_or, not_or]
      exact ⟨hpiece, hc, ih hrest⟩

/-- A test that the separator fails looks at the pieces only. -/
theorem filter_join {sep : Char} {q : Char → Bool} (hq : q sep = false)
    (pieces : List (List Char)) : (join [sep] pieces).filter q = pieces.flatten.filter q := by
  induction pieces with
  | nil => rfl
  | cons piece pieces ih =>
    cases pieces with
    | nil => simp [join]
    | cons piece' pieces =>
      rw [join_cons_cons, List.filter_append, List.filter_cons_of_neg (by simp [hq]), ih,
        ← List.filter_append]
      rfl

theorem join_splitOn (sep : Char) (cs : List Char) : join [sep] (splitOn sep cs) = cs := by
  induction cs with
  | nil => rfl
  | cons c cs ih =>
    rw [splitOn]
    obtain ⟨piece, pieces, hsplit⟩ := List.exists_cons_of_ne_nil (splitOn_ne_nil sep cs)
    rw [hsplit] at ih ⊢
    split
    · rename_i hc
      rw [hc, ← ih]
      rfl
    · rw [← ih]
      cases pieces <;> rfl

/-- The second piece stands between the first separator and the next one, or the end. -/
theorem exists_splitOn_iff {sep : Char} {first second cs : List Char} :
    (∃ more, splitOn sep cs = first :: second :: more) ↔ sep ∉ first ∧ sep ∉ second ∧
      ∃ rest, cs = first ++ sep :: (second ++ rest) ∧ (rest = [] ∨ ∃ more, rest = sep :: more) := by
  constructor
  · rintro ⟨more, hsplit⟩
    have hpiece : ∀ piece ∈ first :: second :: more, sep ∉ piece := fun piece h =>
      not_mem_of_mem_splitOn (hsplit ▸ h)
    obtain ⟨hfirst, hrest⟩ := List.forall_mem_cons.1 hpiece
    refine ⟨hfirst, (List.forall_mem_cons.1 hrest).1, ?_⟩
    have hjoin := join_splitOn sep cs
    rw [hsplit, join_cons_cons] at hjoin
    cases more with
    | nil => exact ⟨[], by rw [← hjoin, List.append_nil]; rfl, .inl rfl⟩
    | cons third more =>
      rw [join_cons_cons] at hjoin
      exact ⟨_, hjoin.symm, .inr ⟨_, rfl⟩⟩
  · rintro ⟨hfirst, hsecond, rest, rfl, rfl | ⟨more, rfl⟩⟩
    · rw [List.append_nil, splitOn_append, splitOn_eq_self hfirst, splitOn_eq_self hsecond]
      exact ⟨[], rfl⟩
    · rw [splitOn_append, splitOn_append, splitOn_eq_self hfirst, splitOn_eq_self hsecond]
      exact ⟨_, rfl⟩

theorem infix_join {sep : Char} {piece : List Char} {pieces : List (List Char)}
    (h : piece ∈ pieces) : piece <:+: join [sep] pieces := by
  induction pieces with
  | nil => cases h
  | cons first pieces ih =>
    cases pieces with
    | nil =>
      rw [List.mem_singleton.1 h]
      exact List.infix_refl _
    | cons second pieces =>
      rw [join_cons_cons]
      rcases List.mem_cons.1 h with rfl | h
      · exact (List.prefix_append _ _).isInfix
      · exact (ih h).trans ((List.suffix_cons _ _).trans (List.suffix_append _ _)).isInfix

theorem splitOn_join {sep : Char} {pieces : List (List Char)} (h : pieces ≠ []) :
    splitOn sep (join [sep] pieces) = pieces.flatMap (splitOn sep) := by
  induction pieces with
  | nil => exact absurd rfl h
  | cons piece pieces ih =>
    cases pieces with
    | nil => simp [join]
    | cons piece' pieces =>
      rw [join_cons_cons, splitOn_append, ih (List.cons_ne_nil _ _)]
      exact List.flatMap_cons.symm

/-- Pieces without the separator are got back. -/
theorem splitOn_join_self {sep : Char} {pieces : List (List Char)} (hne : pieces ≠ [])
    (h : ∀ piece ∈ pieces, sep ∉ piece) : splitOn sep (join [sep] pieces) = pieces := by
  rw [splitOn_join hne, List.flatMap_congr fun piece hpiece => splitOn_eq_self (h piece hpiece)]
  exact List.flatMap_singleton' pieces

theorem cutAt?_eq_some {pat cs before after : List Char}
    (h : cutAt? pat cs = some (before, after)) : cs = before ++ (pat ++ after) := by
  induction cs generalizing before with
  | nil =>
    obtain ⟨rest, hrest, he⟩ := Option.map_eq_some_iff.1 h
    cases he
    rw [List.nil_append]
    exact stripFront?_eq_some_iff.1 hrest
  | cons c cs ih =>
    rw [cutAt?] at h
    split at h
    · rename_i rest hrest
      cases h
      rw [List.nil_append]
      exact stripFront?_eq_some_iff.1 hrest
    · obtain ⟨⟨before', after'⟩, hcut, he⟩ := Option.map_eq_some_iff.1 h
      cases he
      rw [ih hcut, List.cons_append]

theorem cutAt?_eq_none_iff {pat cs : List Char} : cutAt? pat cs = none ↔ ¬pat <:+: cs := by
  induction cs with
  | nil =>
    rw [← contains_eq_false_iff]
    simp [cutAt?, contains, startsWith]
  | cons c cs ih =>
    rw [List.infix_cons_iff, not_or, ← ih, ← startsWith_iff, startsWith, cutAt?]
    cases stripFront? pat (c :: cs) <;> simp

/-- A text parted at the first place of a word. -/
structure CutAt (pat before after cs : List Char) : Prop where
  whole : cs = before ++ (pat ++ after)
  first : ∀ b a, cs = b ++ (pat ++ a) → before.length ≤ b.length

theorem cutAt?_cutAt {pat cs before after : List Char} (h : cutAt? pat cs = some (before, after)) :
    CutAt pat before after cs := by
  refine ⟨cutAt?_eq_some h, fun b a hcs => ?_⟩
  induction cs generalizing before b with
  | nil =>
    have hnil := cutAt?_eq_some h
    rw [List.nil_eq, List.append_eq_nil_iff] at hnil
    simp [hnil.1]
  | cons c cs ih =>
    rw [cutAt?] at h
    split at h
    · cases h
      exact Nat.zero_le _
    · rename_i hnone
      obtain ⟨cut, hcut, he⟩ := Option.map_eq_some_iff.1 h
      cases he
      cases b with
      | nil =>
        rw [List.nil_append, ← stripFront?_eq_some_iff, hnone] at hcs
        cases hcs
      | cons d b => exact Nat.succ_le_succ (ih hcut b (List.cons.inj hcs).2)

/-- A word does not stand before its first place. -/
theorem CutAt.absent_before {pat cs before after : List Char} (h : CutAt pat before after cs)
    (hpat : pat ≠ []) : ¬pat <:+: before := by
  rintro ⟨b, a, hbefore⟩
  have hfirst := h.first b (a ++ (pat ++ after)) (by rw [h.whole, ← hbefore]; simp)
  have hlen := congrArg List.length hbefore
  have hpos := List.length_pos_of_ne_nil hpat
  simp only [List.length_append] at hlen
  omega

/-- A text is cut at its first separator. -/
theorem cutAt?_append {sep : Char} {xs : List Char} (h : sep ∉ xs) (ys : List Char) :
    cutAt? [sep] (xs ++ sep :: ys) = some (xs, ys) := by
  induction xs with
  | nil => simp [cutAt?, stripFront?]
  | cons x xs ih =>
    rw [List.mem_cons, not_or] at h
    simp [cutAt?, stripFront?, h.1, ih h.2]

/-- What stands before the first separator is determined, and so is what follows it. -/
theorem append_cons_inj {sep : Char} {xs xs' ys ys' : List Char} (hx : sep ∉ xs) (hx' : sep ∉ xs')
    (h : xs ++ sep :: ys = xs' ++ sep :: ys') : xs = xs' ∧ ys = ys' := by
  have hcut := cutAt?_append hx ys
  rw [h, cutAt?_append hx'] at hcut
  obtain ⟨hfront, hrest⟩ := Prod.mk.inj (Option.some.inj hcut)
  exact ⟨hfront.symm, hrest.symm⟩

end OpticalTestbed.Text
