import OpticalTestbed.Proofs.SysConfig.Search
import OpticalTestbed.Proofs.SysConfig.Terms
import OpticalTestbed.Proofs.Text.Split
import OpticalTestbed.SysConfig.SwitchIds
/-!
What the readers of `sys.config` take from a line. Lines from which they take the same are alike, and
a line from which they take nothing may as well be left out.
-/
namespace OpticalTestbed.SysConfig

variable {xs ys cs line line' : List Char} {c : Char}

/-- Text from which no reader takes anything. -/
@[mk_iff]
structure Inert (cs : List Char) : Prop where
  octets : delimitedOctets? cs = none
  ids : ∀ w, ¬IdAt w cs
  taps : numbersAfter tapWord cs = []
  indices : numbersAfter portWord cs = []
  ports : ∀ p, ¬portMarker p <:+: cs
  switches : ¬switchWord <:+: cs

/-- Lines from which the readers take the same. -/
structure Alike (line line' : List Char) : Prop where
  octets : delimitedOctets? line = delimitedOctets? line'
  names : ∀ d : Dpid, namesDevice d.digits line = namesDevice d.digits line'
  taps : numbersAfter tapWord line = numbersAfter tapWord line'
  indices : numbersAfter portWord line = numbersAfter portWord line'
  ports : ∀ p, Text.contains (portMarker p) line = Text.contains (portMarker p) line'
  switches : Text.contains switchWord line = Text.contains switchWord line'

theorem Alike.refl (line : List Char) : Alike line line :=
  ⟨rfl, fun _ => rfl, rfl, rfl, fun _ => rfl, rfl⟩

theorem Quiet.inert (h : Quiet cs) : Inert cs where
  octets := h.no_octets
  ids := h.ids
  taps := numbersAfter_eq_nil h.not_tapWord
  indices := numbersAfter_eq_nil h.not_portWord
  ports _ := not_portMarker (h.words _ (by decide))
  switches := h.words _ (by decide)

section Breaks

/-- Whether a character can stand in nothing that a reader looks for. -/
def isBreak (c : Char) : Bool :=
  isForeign c && !Text.isDecimalDigit c && c ∉ tapWord ++ portWord ++ portNoWord ++ switchWord ++
    ['\x7d']

structure Break (c : Char) : Prop where
  foreign : isForeign c = true
  digit : Text.isDecimalDigit c = false
  tap : c ∉ tapWord
  port : c ∉ portWord
  marker : ∀ p, c ∉ portMarker p
  switch : c ∉ switchWord

theorem break_of_isBreak (h : isBreak c = true) : Break c := by
  simp only [isBreak, Bool.and_eq_true, Bool.not_eq_true', decide_eq_true_eq, List.mem_append,
    not_or] at h
  obtain ⟨⟨hforeign, hdigit⟩, ⟨⟨⟨htap, hport⟩, hmarker⟩, hswitch⟩, hclose⟩ := h
  refine ⟨hforeign, hdigit, htap, hport, fun p => ?_, hswitch⟩
  rw [portMarker_eq, List.mem_append, List.mem_append]
  rintro ((hmem | hmem) | hmem)
  · exact hmarker hmem
  · have hascii := Numeral.isAsciiDigit_of_mem_decimal p c hmem
    rw [Text.isDecimalDigit_of_ascii hascii] at hdigit
    cases hdigit
  · exact hclose hmem

/-- Text is inert when it is on both sides of a break. -/
theorem inert_break (h : Break c) : Inert (xs ++ c :: ys) ↔ Inert xs ∧ Inert ys := by
  simp only [inert_iff, delimitedOctets?_break h.foreign, Option.or_eq_none_iff,
    idAt_break h.foreign, numbersAfter_break (by decide : tapWord ≠ []) h.tap h.digit,
    numbersAfter_break (by decide : portWord ≠ []) h.port h.digit, List.append_eq_nil_iff,
    Text.infix_break_iff (h.marker _), Text.infix_break_iff h.switch, not_or, forall_and]
  tauto

/-- What is inert behind a break may be cut off. -/
theorem alike_cut (h : Break c) (hy : Inert ys) : Alike (xs ++ c :: ys) xs := by
  have hcontains : ∀ {word}, c ∉ word → ¬word <:+: ys →
      Text.contains word (xs ++ c :: ys) = Text.contains word xs := by
    intro word hword hnot
    rw [Bool.eq_iff_iff, Text.contains_iff, Text.contains_iff, Text.infix_break_iff hword]
    exact or_iff_left hnot
  constructor
  · rw [delimitedOctets?_break h.foreign, hy.octets, Option.or_none]
  · intro d
    rw [Bool.eq_iff_iff, namesDevice_iff d.wellFormed, namesDevice_iff d.wellFormed]
    simp only [idAt_break h.foreign, hy.ids, or_false]
  · rw [numbersAfter_break (by decide) h.tap h.digit, hy.taps, List.append_nil]
  · rw [numbersAfter_break (by decide) h.port h.digit, hy.indices, List.append_nil]
  · exact fun p => hcontains (h.marker p) (hy.ports p)
  · exact hcontains h.switch hy.switches

end Breaks

section Reduces

/-- Some lines with inert ones left out and others replaced by alike ones. -/
inductive Reduces : List (List Char) → List (List Char) → Prop
  | nil : Reduces [] []
  | keep {line line' lines lines'} : Alike line line' → Reduces lines lines' →
      Reduces (line :: lines) (line' :: lines')
  | drop {line lines lines'} : Inert line → Reduces lines lines' → Reduces (line :: lines) lines'

variable {lines lines' more more' : List (List Char)}

theorem Reduces.append (h : Reduces lines lines') (h' : Reduces more more') :
    Reduces (lines ++ more) (lines' ++ more') := by
  induction h with
  | nil => exact h'
  | keep ha _ ih => exact .keep ha ih
  | drop hi _ ih => exact .drop hi ih

theorem reduces_of_inert (h : ∀ line ∈ lines, Inert line) : Reduces lines [] := by
  induction lines with
  | nil => exact .nil
  | cons line lines ih =>
    obtain ⟨hline, hlines⟩ := List.forall_mem_cons.1 h
    exact .drop hline (ih hlines)

theorem reduces_map {g : List Char → List Char} (h : ∀ line ∈ lines, Alike line (g line)) :
    Reduces lines (lines.map g) := by
  induction lines with
  | nil => exact .nil
  | cons line lines ih =>
    obtain ⟨hline, hlines⟩ := List.forall_mem_cons.1 h
    exact .keep hline (ih hlines)

theorem reduces_flatMap {f : List Char → List (List Char)} {g : List Char → List Char}
    (h : ∀ line ∈ lines, Reduces (f line) [g line]) : Reduces (lines.flatMap f) (lines.map g) := by
  induction lines with
  | nil => exact .nil
  | cons line lines ih =>
    obtain ⟨hline, hlines⟩ := List.forall_mem_cons.1 h
    exact hline.append (ih hlines)

theorem Reduces.idsOfLines (h : Reduces lines lines') :
    SwitchIds.idsOfLines lines = SwitchIds.idsOfLines lines' := by
  induction h with
  | nil => rfl
  | keep ha _ ih => simp only [SwitchIds.idsOfLines, List.filterMap_cons, ha.octets] at ih ⊢; rw [ih]
  | drop hi _ ih => simpa [SwitchIds.idsOfLines, hi.octets] using ih

theorem Reduces.taps (h : Reduces lines lines') :
    lines.flatMap (numbersAfter tapWord) = lines'.flatMap (numbersAfter tapWord) := by
  induction h with
  | nil => rfl
  | keep ha _ ih => rw [List.flatMap_cons, List.flatMap_cons, ha.taps, ih]
  | drop hi _ ih => rw [List.flatMap_cons, hi.taps, ih, List.nil_append]

section Search

variable {d : Dpid} {p index : Nat} {stage stage' : Stage}

/-- Searches that stand at the same place, done with alike lines if they are. -/
inductive Stage.Alike : Stage → Stage → Prop
  | before : Alike .before .before
  | inside : Alike .inside .inside
  | after : Alike .after .after
  | found {l l'} : SysConfig.Alike l l' → Alike (.found l) (.found l')

theorem Stage.Alike.next (h : stage.Alike stage') (ha : SysConfig.Alike line line') :
    (stage.next d.digits (portMarker p) line).Alike (stage'.next d.digits (portMarker p) line') := by
  cases h with
  | before =>
    simp only [Stage.next, ha.names]
    split
    · exact .inside
    · exact .before
  | inside =>
    simp only [Stage.next, ha.ports, ha.switches]
    split
    · exact .found ha
    · split
      · exact .after
      · exact .inside
  | after => exact .after
  | found hl => exact .found hl

/-- An inert line leaves a search where it stands. -/
theorem Inert.next (h : Inert line) : stage.next d.digits (portMarker p) line = stage := by
  have hnames : namesDevice d.digits line = false := by
    rw [Bool.eq_false_iff, ne_eq, namesDevice_iff d.wellFormed]
    rintro ⟨w, hat, -⟩
    exact h.ids w hat
  have hport := Text.contains_eq_false_iff.2 (h.ports p)
  have hswitch := Text.contains_eq_false_iff.2 h.switches
  cases stage <;> simp [Stage.next, hnames, hport, hswitch]

theorem Reduces.search (h : Reduces lines lines') (hs : stage.Alike stage') :
    (lines.foldl (Stage.next d.digits (portMarker p)) stage).Alike
      (lines'.foldl (Stage.next d.digits (portMarker p)) stage') := by
  induction h generalizing stage stage' with
  | nil => exact hs
  | keep ha _ ih => exact ih (hs.next ha)
  | drop hi _ ih =>
    rw [List.foldl_cons, hi.next]
    exact ih hs

/-- The tap that a line names for an internal port index. -/
def tapOn? (index : Nat) (line : List Char) : Option (List Char) :=
  if (numbersAfter portWord line).any (indexOf? · = some index) then (tapNames line).head? else none

theorem tapOn?_eq_none (h : numbersAfter tapWord line = []) : tapOn? index line = none := by
  simp [tapOn?, tapNames, h]

theorem Alike.tapOn?_eq (h : Alike line line') : tapOn? index line = tapOn? index line' := by
  rw [tapOn?, tapOn?, tapNames, tapNames, h.indices, h.taps]

/-- Lines that do not mention taps have none to name. -/
theorem tapOfIndex?_filter (index : Nat) (lines : List (List Char)) :
    tapOfIndex? index (lines.filter (Text.contains tapWord)) = lines.findSome? (tapOn? index) := by
  induction lines with
  | nil => rfl
  | cons line lines ih =>
    have hline : tapOfIndex? index (line :: lines.filter (Text.contains tapWord)) =
        (line :: lines).findSome? (tapOn? index) := by
      rw [List.findSome?_cons, ← ih, tapOfIndex?, tapOfIndex?, tapOn?, List.filter_cons]
      split <;> simp [List.findSome?_cons]
    rw [List.filter_cons]
    split
    · exact hline
    · rename_i hnot
      have hnone := numbersAfter_eq_nil fun hin => hnot (Text.contains_iff.2 hin)
      rw [ih, List.findSome?_cons, tapOn?_eq_none hnone]

theorem Reduces.tapOfIndex? (h : Reduces lines lines') (index : Nat) :
    tapOfIndex? index (lines.filter (Text.contains tapWord)) =
      tapOfIndex? index (lines'.filter (Text.contains tapWord)) := by
  rw [tapOfIndex?_filter, tapOfIndex?_filter]
  induction h with
  | nil => rfl
  | keep ha _ ih => simp only [List.findSome?_cons, ha.tapOn?_eq, ih]
  | drop hi _ ih => rw [List.findSome?_cons, tapOn?_eq_none hi.taps, ih]

theorem Reduces.report (h : Reduces lines lines') (hs : stage.Alike stage') :
    stage.report lines = stage'.report lines' := by
  cases hs with
  | before => rfl
  | inside => rfl
  | after => rfl
  | found ha => simp only [Stage.report, ha.indices, h.tapOfIndex?]

end Search

end Reduces

section Texts

variable {kept : List (List Char)} {text : String}

theorem inert_nil : Inert [] :=
  (Quiet.inert (quiet_of_punctuation rfl))

theorem alike_dropCarriageReturn (cs : List Char) : Alike cs (Text.dropCarriageReturn cs) := by
  rw [Text.dropCarriageReturn]
  split
  · rename_i hlast
    have hcs := List.dropLast_append_getLast? _ hlast
    have hcut := @alike_cut cs.dropLast [] '\r' (break_of_isBreak (by decide)) inert_nil
    rwa [hcs] at hcut
  · exact .refl cs

/-- The lines of a text are what its newlines part, but for carriage returns and an empty end. -/
theorem reduces_lines (cs : List Char) : Reduces (Text.splitOn '\n' cs) (Text.lines cs) := by
  rw [Text.lines]
  generalize Text.splitOn '\n' cs = pieces
  fun_induction Text.lines.go pieces with
  | case1 => exact .nil
  | case2 last he =>
    rw [List.isEmpty_iff.1 he]
    exact .drop inert_nil .nil
  | case3 last => exact .keep (.refl last) .nil
  | case4 piece pieces _ ih => exact .keep (alike_dropCarriageReturn piece) ih

theorem Reduces.ofText (h : Reduces (Text.splitOn '\n' text.toList) kept) :
    SwitchIds.ofText text = ⟨SwitchIds.number Dict.empty 1 (SwitchIds.idsOfLines kept)⟩ := by
  rw [SwitchIds.ofText, ← (reduces_lines text.toList).idsOfLines, h.idsOfLines]

theorem numbersAfter_join (pieces : List (List Char)) :
    numbersAfter tapWord (Text.join ['\n'] pieces) = pieces.flatMap (numbersAfter tapWord) := by
  induction pieces with
  | nil => rfl
  | cons piece pieces ih =>
    cases pieces with
    | nil => simp [Text.join]
    | cons piece' pieces =>
      rw [Text.join_cons_cons, numbersAfter_break (by decide) (by decide) (by decide), ih]
      exact List.flatMap_cons.symm

theorem Reduces.taps_text (h : Reduces (Text.splitOn '\n' text.toList) kept) :
    SysConfig.taps text = (firstAppearances [] ((kept.flatMap (numbersAfter tapWord)).map
      (tapWord ++ ·))).map String.ofList := by
  rw [SysConfig.taps, tapNames, ← Text.join_splitOn '\n' text.toList, numbersAfter_join, h.taps]

theorem Reduces.tapOf {d : Dpid} {dpid : String} (hid : compactId dpid.toList = d.digits) (p : Nat)
    (h : Reduces (Text.splitOn '\n' text.toList) kept) : tapOf text dpid p =
      (kept.foldl (Stage.next d.digits (portMarker p)) .before).report kept := by
  have hlines := reduces_lines text.toList
  rw [tapOf_eq, hid, ← hlines.report (hlines.search .before), h.report (h.search .before)]

end Texts

end OpticalTestbed.SysConfig
