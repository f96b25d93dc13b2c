import OpticalTestbed.SysConfig.Taps
/-!
The search for a tap, without its bookkeeping: line by line it is before the block, inside it, after
it, or done with the line of the port. The taps that it looks through in the end are those of all
lines.
-/
namespace OpticalTestbed.SysConfig

/-- Where a search stands. -/
inductive Stage where
  | before
  | inside
  | after
  | found (line : List Char)

/-- Where a search stands after one more line. -/
def Stage.next (id marker : List Char) : Stage → List Char → Stage
  | .before, line => if namesDevice id line then .inside else .before
  | .inside, line =>
    if Text.contains marker line then .found line
    else if Text.contains switchWord line then .after
    else .inside
  | .after, _ => .after
  | .found line, _ => .found line

def Search.At (s : Search) : Stage → Prop
  | .before => s.blockSeen = false ∧ s.insideBlock = false ∧ s.portLine = none
  | .inside => s.blockSeen = true ∧ s.insideBlock = true ∧ s.portLine = none
  | .after => s.blockSeen = true ∧ s.insideBlock = false ∧ s.portLine = none
  | .found line => s.blockSeen = true ∧ s.portLine = some line

variable {id marker line : List Char} {lines : List (List Char)} {s : Search} {stage : Stage}

theorem Search.step_at (h : s.At stage) :
    (s.step id marker line).At (stage.next id marker line) := by
  cases stage with
  | before =>
    obtain ⟨hseen, hinside, hport⟩ := h
    by_cases hn : namesDevice id line = true <;> by_cases ht : Text.contains tapWord line = true <;>
      simp [Search.step, Search.At, Stage.next, hseen, hinside, hport, hn, ht]
  | inside =>
    obtain ⟨hseen, hinside, hport⟩ := h
    by_cases hm : Text.contains marker line = true <;>
      by_cases hw : Text.contains switchWord line = true <;>
        by_cases ht : Text.contains tapWord line = true <;>
          simp [Search.step, Search.At, Stage.next, hseen, hinside, hport, hm, hw, ht]
  | after =>
    obtain ⟨hseen, hinside, hport⟩ := h
    by_cases ht : Text.contains tapWord line = true <;>
      simp [Search.step, Search.At, Stage.next, hseen, hinside, hport, ht]
  | found shown =>
    obtain ⟨hseen, hport⟩ := h
    by_cases ht : Text.contains tapWord line = true <;>
      simp [Search.step, Search.At, Stage.next, hseen, hport, ht]

theorem Search.foldl_at (h : s.At stage) : (lines.foldl (Search.step id marker) s).At
    (lines.foldl (Stage.next id marker) stage) := by
  induction lines generalizing s stage with
  | nil => exact h
  | cons line lines ih => exact ih (Search.step_at h)

theorem Search.step_tapLines : (s.step id marker line).tapLines =
    if Text.contains tapWord line then line :: s.tapLines else s.tapLines := by
  cases ht : Text.contains tapWord line <;>
    simp only [Search.step, ht, if_true, Bool.false_eq_true, if_false]
  all_goals
    split
    · rfl
    · split
      · rfl
      · split <;> rfl

theorem Search.foldl_tapLines : (lines.foldl (Search.step id marker) s).tapLines.reverse =
    s.tapLines.reverse ++ lines.filter (Text.contains tapWord) := by
  induction lines generalizing s with
  | nil => simp
  | cons line lines ih =>
    rw [List.foldl_cons, ih, Search.step_tapLines, List.filter_cons]
    split <;> simp

/-- What is reported when a search of some lines ends. -/
def Stage.report (lines : List (List Char)) : Stage → Except Miss String
  | .before => .error .noDeviceBlock
  | .inside => .error .noPortLine
  | .after => .error .noPortLine
  | .found line =>
    match (numbersAfter portWord line).head?.bind indexOf? with
    | none => .error .noPortIndex
    | some index =>
      match tapOfIndex? index (lines.filter (Text.contains tapWord)) with
      | some tap => .ok (String.ofList tap)
      | none => .error (.noTap index)

theorem tapOf_eq (text dpid : String) (port : Nat) : tapOf text dpid port =
    ((Text.lines text.toList).foldl (Stage.next (compactId dpid.toList) (portMarker port))
      .before).report (Text.lines text.toList) := by
  have hat := @Search.foldl_at (compactId dpid.toList) (portMarker port)
    (Text.lines text.toList) Search.start .before ⟨rfl, rfl, rfl⟩
  have htaps : ((Text.lines text.toList).foldl (Search.step (compactId dpid.toList)
      (portMarker port)) Search.start).tapLines.reverse =
      (Text.lines text.toList).filter (Text.contains tapWord) := Search.foldl_tapLines
  generalize (Text.lines text.toList).foldl (Stage.next _ _) .before = stage at hat ⊢
  rw [tapOf]
  cases stage with
  | before =>
    obtain ⟨hseen, -, -⟩ := hat
    simp [hseen, Stage.report]
  | inside =>
    obtain ⟨hseen, -, hport⟩ := hat
    simp [hseen, hport, Stage.report]
  | after =>
    obtain ⟨hseen, -, hport⟩ := hat
    simp [hseen, hport, Stage.report]
  | found line =>
    obtain ⟨hseen, hport⟩ := hat
    simp only [hseen, hport, htaps, Bool.not_true, Bool.false_eq_true, if_false]
    rfl

section Runs

variable (id marker)

theorem foldl_before (h : ∀ line ∈ lines, namesDevice id line = false) :
    lines.foldl (Stage.next id marker) .before = .before := by
  induction lines with
  | nil => rfl
  | cons line lines ih =>
    obtain ⟨hline, hlines⟩ := List.forall_mem_cons.1 h
    simp only [List.foldl_cons, Stage.next, hline, Bool.false_eq_true, if_false]
    exact ih hlines

theorem foldl_inside (h : ∀ line ∈ lines, Text.contains marker line = false ∧
    Text.contains switchWord line = false) :
    lines.foldl (Stage.next id marker) .inside = .inside := by
  induction lines with
  | nil => rfl
  | cons line lines ih =>
    obtain ⟨⟨hmarker, hswitch⟩, hlines⟩ := List.forall_mem_cons.1 h
    simp only [List.foldl_cons, Stage.next, hmarker, hswitch, Bool.false_eq_true, if_false]
    exact ih hlines

theorem foldl_after : lines.foldl (Stage.next id marker) .after = .after := by
  induction lines with
  | nil => rfl
  | cons line lines ih => exact ih

theorem foldl_found : lines.foldl (Stage.next id marker) (.found line) = .found line := by
  induction lines with
  | nil => rfl
  | cons _ lines ih => exact ih

end Runs

end OpticalTestbed.SysConfig
