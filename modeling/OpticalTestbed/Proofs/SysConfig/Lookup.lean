import OpticalTestbed.Proofs.SysConfig.Alike
import Mathlib.Data.Nat.Digits.Defs
/-!
What the look-up of a tap means, told from the places of lines and digits in the text: where the
block of the device begins and ends, which line in it declares the port, which index that line
gives, and which line of the text shows a tap of that index. The search in one pass comes to just
this.
-/
namespace OpticalTestbed.SysConfig

open Text (isAsciiDigit isDecimalDigit stripFront?_eq_some_iff)

section Runs

variable {word cs digits : List Char} {c : Char} {i n : Nat}

/-- At some place of a text stands a word with digits right behind it. No digit is left out. -/
structure RunAt (word cs : List Char) (i : Nat) (digits : List Char) : Prop where
  found : word ++ digits <+: cs.drop i
  nonempty : digits ≠ []
  decimal : ∀ d ∈ digits, isDecimalDigit d = true
  whole : ∀ d, word ++ digits ++ [d] <+: cs.drop i → isDecimalDigit d = false

/-- The digits behind the first of the words that have any. -/
def FirstRun (word cs digits : List Char) : Prop :=
  ∃ i, RunAt word cs i digits ∧ ∀ j ds, RunAt word cs j ds → i ≤ j

theorem takeWhile_whole {q : Char → Bool} {rest : List Char} {d : Char}
    (h : rest.takeWhile q ++ [d] <+: rest) : q d = false := by
  induction rest with
  | nil => simp at h
  | cons x rest ih =>
    cases hx : q x with
    | true =>
      rw [List.takeWhile_cons_of_pos hx, List.cons_append, List.cons_prefix_cons] at h
      exact ih h.2
    | false =>
      rw [List.takeWhile_cons_of_neg (by simp [hx]), List.nil_append, List.cons_prefix_cons] at h
      rw [h.1, hx]

theorem digitsAfter?_eq_some_iff : digitsAfter? word cs = some digits ↔ RunAt word cs 0 digits := by
  constructor
  · intro h
    simp only [digitsAfter?] at h
    split at h
    · rename_i rest hstrip
      obtain rfl := stripFront?_eq_some_iff.1 hstrip
      split at h
      · cases h
      · rename_i hne
        cases h
        refine ⟨?_, hne, fun d hd => List.mem_takeWhile_imp hd, fun d hd => ?_⟩
        · rw [List.drop_zero, List.prefix_append_right_inj]
          exact List.takeWhile_prefix _
        · rw [List.drop_zero, List.append_assoc, List.prefix_append_right_inj] at hd
          exact takeWhile_whole hd
    · cases h
  · rintro ⟨⟨after, hfound⟩, hne, hdecimal, hwhole⟩
    rw [List.drop_zero] at hfound hwhole
    subst hfound
    have hafter : after.takeWhile isDecimalDigit = [] := by
      cases after with
      | nil => rfl
      | cons d after =>
        have hd : isDecimalDigit d = false := hwhole d ⟨after, by simp⟩
        rw [List.takeWhile_cons_of_neg (by simp [hd])]
    have hstrip := stripFront?_eq_some_iff.2 (List.append_assoc word digits after)
    have htake : (digits ++ after).takeWhile isDecimalDigit = digits := by
      rw [List.takeWhile_append_of_pos hdecimal, hafter, List.append_nil]
    simp only [digitsAfter?, hstrip, htake]

theorem scans_runAt (word : List Char) : Scans (RunAt word) (digitsAfter? word) where
  nil i digits hrun := by
    have hnil := hrun.found
    rw [List.drop_nil, List.prefix_nil, List.append_eq_nil_iff] at hnil
    exact hrun.nonempty hnil.2
  front _ _ := digitsAfter?_eq_some_iff.symm
  rest _ _ _ _ := ⟨fun ⟨h₁, h₂, h₃, h₄⟩ => ⟨h₁, h₂, h₃, h₄⟩, fun ⟨h₁, h₂, h₃, h₄⟩ => ⟨h₁, h₂, h₃, h₄⟩⟩

theorem mem_numbersAfter : digits ∈ numbersAfter word cs ↔ ∃ i, RunAt word cs i digits := by
  induction cs with
  | nil => simp [numbersAfter, (scans_runAt word).nil]
  | cons c cs ih =>
    rw [(scans_runAt word).exists_cons, ← ih, numbersAfter]
    cases hfront : digitsAfter? word (c :: cs) with
    | some found => simp [eq_comm]
    | none => simp

theorem head?_numbersAfter :
    (numbersAfter word cs).head? = some digits ↔ FirstRun word cs digits := by
  change _ ↔ Leftmost (RunAt word) cs digits
  induction cs with
  | nil => simp [numbersAfter, Leftmost, (scans_runAt word).nil]
  | cons c cs ih =>
    rw [numbersAfter]
    split
    · rename_i found hfront
      rw [(scans_runAt word).leftmost_of_some hfront, List.head?_cons, Option.some_inj]
    · rename_i hnone
      rw [(scans_runAt word).leftmost_of_none hnone, ih]

/-- The number that ASCII digits denote, if it is 32 bits wide. -/
structure Denotes (digits : List Char) (n : Nat) : Prop where
  ascii : ∀ d ∈ digits, isAsciiDigit d = true
  value : Nat.ofDigits 10 (digits.reverse.map fun d => d.toNat - '0'.toNat) = n
  fits : n ≤ max32

/-- The value of a character as a decimal digit. -/
theorem hexValue?_lt_iff {d : Char} {v : Nat} :
    Text.hexValue? d = some v ∧ v < 10 ↔ isAsciiDigit d = true ∧ d.toNat - '0'.toNat = v := by
  have hdigit : isAsciiDigit d = true ↔ 48 ≤ d.toNat ∧ d.toNat ≤ 57 := by
    simp only [isAsciiDigit, Bool.and_eq_true, decide_eq_true_eq]
    rfl
  have hfrom : ∀ {x : Char}, x ≤ d → x.toNat ≤ d.toNat := fun h => h
  rw [hdigit, show '0'.toNat = 48 from rfl, Text.hexValue?]
  split
  · rename_i h
    have hlow := hfrom h.1
    have hhigh : d.toNat ≤ '9'.toNat := h.2
    simp only [Option.some.injEq, Char.reduceToNat] at hlow hhigh ⊢
    omega
  · rename_i h
    have hnot : ¬(48 ≤ d.toNat ∧ d.toNat ≤ 57) := h
    refine iff_of_false ?_ fun h' => hnot h'.1
    split
    · rename_i ha
      have hlow := hfrom ha.1
      simp only [Option.some.injEq, Char.reduceToNat] at hlow ⊢
      omega
    · split
      · rename_i ha
        have hlow := hfrom ha.1
        simp only [Option.some.injEq, Char.reduceToNat] at hlow ⊢
        omega
      · simp

theorem valueFrom_eq_some_iff {acc : Nat} : Numeral.valueFrom 10 acc digits = some n ↔
    (∀ d ∈ digits, isAsciiDigit d = true) ∧
      digits.foldl (fun v d => d.toNat - '0'.toNat + 10 * v) acc = n := by
  induction digits generalizing acc with
  | nil => simp [Numeral.valueFrom]
  | cons d digits ih =>
    have hcons : Numeral.valueFrom 10 acc (d :: digits) = some n ↔ ∃ v,
        (Text.hexValue? d = some v ∧ v < 10) ∧
          Numeral.valueFrom 10 (acc * 10 + v) digits = some n := by
      rw [Numeral.valueFrom]
      cases Text.hexValue? d with
      | none => simp
      | some v =>
        by_cases hv : v < 10
        · simp [hv]
        · simp [hv]
    simp only [hcons, hexValue?_lt_iff, ih, List.forall_mem_cons, List.foldl_cons, and_assoc]
    constructor
    · rintro ⟨v, hd, rfl, hall, rfl⟩
      refine ⟨hd, hall, ?_⟩
      rw [Nat.mul_comm acc 10, Nat.add_comm]
    · rintro ⟨hd, hall, rfl⟩
      refine ⟨_, hd, rfl, hall, ?_⟩
      rw [Nat.mul_comm acc 10, Nat.add_comm]

/-- What is read of a run as a number is what its digits denote. -/
theorem indexOf?_eq_some_iff (h : RunAt word cs i digits) :
    indexOf? digits = some n ↔ Denotes digits n := by
  have hplus : ∀ rest, digits ≠ '+' :: rest := by
    rintro rest rfl
    exact absurd (h.decimal '+' List.mem_cons_self) (by decide)
  have hvalue : Numeral.value? 10 digits = Numeral.valueFrom 10 0 digits := by
    rw [Numeral.value?, if_neg (by simpa using h.nonempty)]
  have hindex : indexOf? digits = some n ↔
      Numeral.valueFrom 10 0 digits = some n ∧ n ≤ max32 := by
    unfold indexOf? Numeral.bounded?
    split
    · rename_i rest
      exact absurd rfl (hplus rest)
    · simp only [hvalue]
      cases Numeral.valueFrom 10 0 digits with
      | none => simp
      | some m =>
        by_cases hm : m ≤ max32
        · simp only [hm, if_true, Option.some.injEq]
          exact ⟨fun he => ⟨he, he ▸ hm⟩, fun he => he.1⟩
        · simp only [hm, if_false, Option.some.injEq, reduceCtorEq, false_iff]
          rintro ⟨rfl, hn⟩
          exact hm hn
  have hdigits : Nat.ofDigits 10 (digits.reverse.map fun d => d.toNat - '0'.toNat) =
      digits.foldl (fun v d => d.toNat - '0'.toNat + 10 * v) 0 := by
    rw [Nat.ofDigits_eq_foldr, List.foldr_map, List.foldr_reverse]
    rfl
  rw [hindex, valueFrom_eq_some_iff]
  constructor
  · rintro ⟨⟨hascii, hn⟩, hfits⟩
    exact ⟨hascii, hdigits.trans hn, hfits⟩
  · rintro ⟨hascii, hn, hfits⟩
    exact ⟨⟨hascii, hdigits.symm.trans hn⟩, hfits⟩

end Runs

section Places

variable {lines : List (List Char)} {P : Nat → List Char → Prop} {line : List Char} {i : Nat}

/-- The first line with a property, which may depend on the place of the line, and its place. -/
structure FirstLine (lines : List (List Char)) (P : Nat → List Char → Prop) (i : Nat)
    (line : List Char) : Prop where
  found : lines[i]? = some line
  holds : P i line
  first : ∀ j l, lines[j]? = some l → P j l → i ≤ j

theorem exists_firstLine (h : ∃ j l, lines[j]? = some l ∧ P j l) :
    ∃ i line, FirstLine lines P i line := by
  classical
  obtain ⟨line, hfound, hholds⟩ := Nat.find_spec h
  exact ⟨Nat.find h, line, hfound, hholds, fun j l hj hp => Nat.find_min' h ⟨l, hj, hp⟩⟩

/-- The lines from one place up to another one. -/
def between (lines : List (List Char)) (i j : Nat) : List (List Char) := (lines.drop i).take (j - i)

theorem mem_between {j : Nat} (h : line ∈ between lines i j) :
    ∃ k, i ≤ k ∧ k < j ∧ lines[k]? = some line := by
  obtain ⟨m, hm⟩ := List.mem_iff_getElem?.1 h
  rw [between, List.getElem?_take] at hm
  split at hm
  · rw [List.getElem?_drop] at hm
    exact ⟨i + m, by omega, by omega, hm⟩
  · cases hm

/-- The lines from a place on, cut at a later line. -/
theorem drop_eq_between {j : Nat} (hij : i ≤ j) (h : lines[j]? = some line) :
    lines.drop i = between lines i j ++ line :: lines.drop (j + 1) := by
  obtain ⟨hlt, rfl⟩ := List.getElem?_eq_some_iff.1 h
  have hrest : (lines.drop i).drop (j - i) = lines[j] :: lines.drop (j + 1) := by
    rw [List.drop_drop, Nat.add_sub_cancel' hij, List.drop_eq_getElem_cons hlt]
  rw [between, ← hrest, List.take_append_drop]

theorem eq_between (h : lines[i]? = some line) :
    lines = between lines 0 i ++ line :: lines.drop (i + 1) := drop_eq_between (Nat.zero_le i) h

end Places

section Lookups

/-- The first line whose text in small letters, colons left out, holds the id of a device. -/
def BlockBegins (lines : List (List Char)) (id : List Char) (b : Nat) : Prop :=
  ∃ line, FirstLine lines (fun _ l => id <:+: Text.lowercase (l.filter (· ≠ ':'))) b line

/-- The next line that mentions a switch, or the last line of the text if there is none. -/
def BlockEnds (lines : List (List Char)) (b e : Nat) : Prop :=
  (∃ line, FirstLine lines (fun i l => b < i ∧ switchWord <:+: l) e line) ∨
    (∀ i l, lines[i]? = some l → b < i → ¬switchWord <:+: l) ∧ e + 1 = lines.length

/-- The first line of a block, behind the one that begins it, that declares a port. -/
def Declares (lines : List (List Char)) (port b e : Nat) : Nat → List Char → Prop :=
  FirstLine lines fun i l => b < i ∧ i ≤ e ∧ portMarker port <:+: l

/-- A line that has a tap name and somewhere the index. -/
def ShowsTap (n : Nat) (line : List Char) : Prop :=
  (∃ i digits, RunAt tapWord line i digits) ∧
    ∃ i digits, RunAt portWord line i digits ∧ Denotes digits n

/-- What a look-up in some lines comes to. -/
inductive Lookup (lines : List (List Char)) (id : List Char) (port : Nat) :
    Except Miss String → Prop
  | noDeviceBlock : (∀ b, ¬BlockBegins lines id b) → Lookup lines id port (.error .noDeviceBlock)
  | noPortLine {b e : Nat} : BlockBegins lines id b → BlockEnds lines b e →
    (∀ q line, ¬Declares lines port b e q line) → Lookup lines id port (.error .noPortLine)
  | noPortIndex {b e q : Nat} {line : List Char} : BlockBegins lines id b → BlockEnds lines b e →
    Declares lines port b e q line →
    (∀ digits n, FirstRun portWord line digits → ¬Denotes digits n) →
    Lookup lines id port (.error .noPortIndex)
  | tap {b e q n i : Nat} {line digits shown name : List Char} : BlockBegins lines id b →
    BlockEnds lines b e → Declares lines port b e q line → FirstRun portWord line digits →
    Denotes digits n → FirstLine lines (fun _ l => ShowsTap n l) i shown →
    FirstRun tapWord shown name → Lookup lines id port (.ok (String.ofList (tapWord ++ name)))
  | noTap {b e q n : Nat} {line digits : List Char} : BlockBegins lines id b →
    BlockEnds lines b e → Declares lines port b e q line → FirstRun portWord line digits →
    Denotes digits n → (∀ l ∈ lines, ¬ShowsTap n l) → Lookup lines id port (.error (.noTap n))

variable {lines : List (List Char)} {id line digits : List Char} {port b e q n : Nat}

section Search

variable (marker : List Char)

theorem BlockBegins.foldl (h : BlockBegins lines id b) :
    lines.foldl (Stage.next id marker) .before =
      (lines.drop (b + 1)).foldl (Stage.next id marker) .inside := by
  obtain ⟨line, hfound, hnames, hfirst⟩ := h
  have hbefore : ∀ l ∈ between lines 0 b, namesDevice id l = false := by
    intro l hl
    obtain ⟨k, -, hk, hget⟩ := mem_between hl
    exact Text.contains_eq_false_iff.2 fun hn => absurd (hfirst k l hget hn) (by omega)
  have hline : namesDevice id line = true := Text.contains_iff.2 hnames
  conv_lhs => rw [eq_between hfound]
  rw [List.foldl_append, foldl_before id marker hbefore, List.foldl_cons, Stage.next, if_pos hline]

/-- A line that names the device makes a block. -/
theorem exists_blockBegins (h : line ∈ lines) (hnames : namesDevice id line = true) :
    ∃ b, BlockBegins lines id b := by
  obtain ⟨i, hi⟩ := List.mem_iff_getElem?.1 h
  have hsome : ∃ (i : Nat) (l : List Char), lines[i]? = some l ∧
      id <:+: Text.lowercase (l.filter (· ≠ ':')) := ⟨i, line, hi, Text.contains_iff.1 hnames⟩
  exact exists_firstLine hsome

theorem foldl_none (h : ∀ b, ¬BlockBegins lines id b) :
    lines.foldl (Stage.next id marker) .before = .before := by
  refine foldl_before id marker fun l hl => ?_
  by_contra hnames
  obtain ⟨b, hb⟩ := exists_blockBegins hl ((Bool.not_eq_false _).mp hnames)
  exact h b hb

/-- No line strictly inside a block mentions a switch. -/
theorem BlockEnds.not_switch (h : BlockEnds lines b e) {k : Nat} (hbk : b < k) (hke : k < e)
    (hget : lines[k]? = some line) : ¬switchWord <:+: line := by
  intro hswitch
  rcases h with ⟨last, -, -, hfirst⟩ | ⟨hnone, -⟩
  · exact absurd (hfirst k line hget ⟨hbk, hswitch⟩) (by omega)
  · exact hnone k line hget hbk hswitch

theorem Declares.foldl (hb : BlockBegins lines id b) (he : BlockEnds lines b e)
    (hq : Declares lines port b e q line) :
    lines.foldl (Stage.next id (portMarker port)) .before = .found line := by
  obtain ⟨hfound, ⟨hbq, hqe, hmarker⟩, hfirst⟩ := hq
  have hinside : ∀ l ∈ between lines (b + 1) q, Text.contains (portMarker port) l = false ∧
      Text.contains switchWord l = false := by
    intro l hl
    obtain ⟨k, hbk, hkq, hget⟩ := mem_between hl
    rw [Text.contains_eq_false_iff, Text.contains_eq_false_iff]
    refine ⟨fun hm => ?_, he.not_switch hbk (by omega) hget⟩
    exact absurd (hfirst k l hget ⟨hbk, by omega, hm⟩) (by omega)
  rw [hb.foldl, drop_eq_between hbq hfound, List.foldl_append, foldl_inside _ _ hinside,
    List.foldl_cons, Stage.next, if_pos (Text.contains_iff.2 hmarker), foldl_found]

theorem foldl_undeclared (hb : BlockBegins lines id b) (he : BlockEnds lines b e)
    (hnone : ∀ q line, ¬Declares lines port b e q line) :
    lines.foldl (Stage.next id (portMarker port)) .before = .inside ∨
      lines.foldl (Stage.next id (portMarker port)) .before = .after := by
  have hundeclared : ∀ k l, lines[k]? = some l → b < k → k ≤ e → ¬portMarker port <:+: l := by
    intro k l hget hbk hke hm
    have hsome : ∃ (i : Nat) (l : List Char), lines[i]? = some l ∧
        b < i ∧ i ≤ e ∧ portMarker port <:+: l := ⟨k, l, hget, hbk, hke, hm⟩
    obtain ⟨q, line, hq⟩ := exists_firstLine hsome
    exact hnone q line hq
  rw [hb.foldl]
  rcases he with ⟨last, hlast⟩ | ⟨hswitches, hend⟩
  · -- the block is left at a line that mentions a switch
    have ⟨hfound, ⟨hbe, hswitch⟩, _⟩ := hlast
    have hinside : ∀ l ∈ between lines (b + 1) e, Text.contains (portMarker port) l = false ∧
        Text.contains switchWord l = false := by
      intro l hl
      obtain ⟨k, hbk, hke, hget⟩ := mem_between hl
      rw [Text.contains_eq_false_iff, Text.contains_eq_false_iff]
      exact ⟨hundeclared k l hget hbk (by omega),
        BlockEnds.not_switch (.inl ⟨last, hlast⟩) hbk hke hget⟩
    have hmarker := Text.contains_eq_false_iff.2 (hundeclared e last hfound hbe le_rfl)
    rw [drop_eq_between hbe hfound, List.foldl_append, foldl_inside _ _ hinside, List.foldl_cons,
      Stage.next, if_neg (by simp [hmarker]), if_pos (Text.contains_iff.2 hswitch), foldl_after]
    exact .inr rfl
  · refine .inl (foldl_inside _ _ fun l hl => ?_)
    obtain ⟨m, hm⟩ := List.mem_iff_getElem?.1 hl
    rw [List.getElem?_drop] at hm
    have hlt := (List.getElem?_eq_some_iff.1 hm).1
    rw [Text.contains_eq_false_iff, Text.contains_eq_false_iff]
    exact ⟨hundeclared _ l hm (by omega) (by omega), hswitches _ l hm (by omega)⟩

end Search

section Taps

variable {name : List Char} {i : Nat}

theorem any_indexOf? : (numbersAfter portWord line).any (indexOf? · = some n) = true ↔
    ∃ i digits, RunAt portWord line i digits ∧ Denotes digits n := by
  simp only [List.any_eq_true, decide_eq_true_eq, mem_numbersAfter]
  constructor
  · rintro ⟨digits, ⟨i, hrun⟩, hn⟩
    exact ⟨i, digits, hrun, (indexOf?_eq_some_iff hrun).1 hn⟩
  · rintro ⟨i, digits, hrun, hn⟩
    exact ⟨digits, ⟨i, hrun⟩, (indexOf?_eq_some_iff hrun).2 hn⟩

theorem tapOn?_of_firstRun (h : ShowsTap n line) (hname : FirstRun tapWord line name) :
    tapOn? n line = some (tapWord ++ name) := by
  rw [tapOn?, if_pos (any_indexOf?.2 h.2), tapNames, List.head?_map, head?_numbersAfter.2 hname]
  rfl

theorem tapOn?_eq_none_of_not (h : ¬ShowsTap n line) : tapOn? n line = none := by
  rw [tapOn?]
  split
  · rename_i hindex
    have hnone : numbersAfter tapWord line = [] := by
      rw [List.eq_nil_iff_forall_not_mem]
      intro digits hdigits
      obtain ⟨i, hrun⟩ := mem_numbersAfter.1 hdigits
      exact h ⟨⟨i, digits, hrun⟩, any_indexOf?.1 hindex⟩
    simp [tapNames, hnone]
  · rfl

theorem tapOfIndex?_of_firstLine (h : FirstLine lines (fun _ l => ShowsTap n l) i line)
    (hname : FirstRun tapWord line name) :
    tapOfIndex? n (lines.filter (Text.contains tapWord)) = some (tapWord ++ name) := by
  obtain ⟨hfound, hshows, hfirst⟩ := h
  have hbefore : (between lines 0 i).findSome? (tapOn? n) = none := by
    refine List.findSome?_eq_none_iff.2 fun l hl => tapOn?_eq_none_of_not fun hs => ?_
    obtain ⟨k, -, hk, hget⟩ := mem_between hl
    exact absurd (hfirst k l hget hs) (by omega)
  rw [tapOfIndex?_filter, eq_between hfound, List.findSome?_append, hbefore, Option.none_or,
    List.findSome?_cons, tapOn?_of_firstRun hshows hname]

theorem tapOfIndex?_of_not (h : ∀ l ∈ lines, ¬ShowsTap n l) :
    tapOfIndex? n (lines.filter (Text.contains tapWord)) = none := by
  rw [tapOfIndex?_filter]
  exact List.findSome?_eq_none_iff.2 fun l hl => tapOn?_eq_none_of_not (h l hl)

end Taps

/-- The index that a line gives for a port. -/
theorem index_eq_some_iff : (numbersAfter portWord line).head?.bind indexOf? = some n ↔
    ∃ digits, FirstRun portWord line digits ∧ Denotes digits n := by
  simp only [Option.bind_eq_some_iff, head?_numbersAfter]
  refine exists_congr fun digits => and_congr_right fun hfirst => ?_
  obtain ⟨i, hrun, -⟩ := hfirst
  exact indexOf?_eq_some_iff hrun

variable {r : Except Miss String}

theorem Lookup.report_eq (h : Lookup lines id port r) :
    (lines.foldl (Stage.next id (portMarker port)) .before).report lines = r := by
  cases h with
  | noDeviceBlock hnone =>
    rw [foldl_none _ hnone]
    rfl
  | noPortLine hb he hnone =>
    rcases foldl_undeclared hb he hnone with hstage | hstage <;> rw [hstage] <;> rfl
  | noPortIndex hb he hq hnone =>
    rw [hq.foldl hb he, Stage.report]
    split
    · rfl
    · rename_i n hindex
      obtain ⟨digits, hdigits, hn⟩ := index_eq_some_iff.1 hindex
      exact absurd hn (hnone digits n hdigits)
  | tap hb he hq hdigits hn hshown hname =>
    simp only [hq.foldl hb he, Stage.report, index_eq_some_iff.2 ⟨_, hdigits, hn⟩,
      tapOfIndex?_of_firstLine hshown hname]
  | noTap hb he hq hdigits hn hnone =>
    simp only [hq.foldl hb he, Stage.report, index_eq_some_iff.2 ⟨_, hdigits, hn⟩,
      tapOfIndex?_of_not hnone]

theorem exists_blockEnds (hb : BlockBegins lines id b) : ∃ e, BlockEnds lines b e := by
  obtain ⟨line, hfound, -⟩ := hb
  have hlt := (List.getElem?_eq_some_iff.1 hfound).1
  by_cases hswitch : ∃ (i : Nat) (l : List Char), lines[i]? = some l ∧ b < i ∧ switchWord <:+: l
  · obtain ⟨e, last, hlast⟩ := exists_firstLine hswitch
    exact ⟨e, .inl ⟨last, hlast⟩⟩
  · refine ⟨lines.length - 1, .inr ⟨fun i l hi hbi hs => hswitch ⟨i, l, hi, hbi, hs⟩, ?_⟩⟩
    omega

theorem exists_firstRun {word cs : List Char} (h : ∃ i digits, RunAt word cs i digits) :
    ∃ digits, FirstRun word cs digits := by
  classical
  obtain ⟨digits, hrun⟩ := Nat.find_spec h
  exact ⟨digits, Nat.find h, hrun, fun j ds hj => Nat.find_min' h ⟨ds, hj⟩⟩

/-- A look-up always comes to something. -/
theorem exists_lookup (lines : List (List Char)) (id : List Char) (port : Nat) :
    ∃ r, Lookup lines id port r := by
  by_cases hb : ∃ b, BlockBegins lines id b
  · obtain ⟨b, hb⟩ := hb
    obtain ⟨e, he⟩ := exists_blockEnds hb
    by_cases hq : ∃ q line, Declares lines port b e q line
    · obtain ⟨q, line, hq⟩ := hq
      by_cases hindex : ∃ digits n, FirstRun portWord line digits ∧ Denotes digits n
      · obtain ⟨digits, n, hdigits, hn⟩ := hindex
        by_cases hshown : ∃ (i : Nat) (l : List Char), lines[i]? = some l ∧ ShowsTap n l
        · obtain ⟨i, shown, hshown⟩ := exists_firstLine hshown
          obtain ⟨name, hname⟩ := exists_firstRun hshown.holds.1
          exact ⟨_, .tap hb he hq hdigits hn hshown hname⟩
        · refine ⟨_, .noTap hb he hq hdigits hn fun l hl hs => ?_⟩
          obtain ⟨i, hi⟩ := List.mem_iff_getElem?.1 hl
          exact hshown ⟨i, l, hi, hs⟩
      · exact ⟨_, .noPortIndex hb he hq fun digits n hdigits hn => hindex ⟨digits, n, hdigits, hn⟩⟩
    · exact ⟨_, .noPortLine hb he fun q line h => hq ⟨q, line, h⟩⟩
  · exact ⟨_, .noDeviceBlock fun b h => hb ⟨b, h⟩⟩

/-- The search in one pass finds what the look-up means, for every text, id and port, and nothing
else. -/
theorem tapOf_eq_iff_lookup (text dpid : String) (port : Nat) (r : Except Miss String) :
    tapOf text dpid port = r ↔
      Lookup (Text.lines text.toList) (compactId dpid.toList) port r := by
  have hsound : ∀ {r}, Lookup (Text.lines text.toList) (compactId dpid.toList) port r →
      tapOf text dpid port = r := fun h => (tapOf_eq text dpid port).trans h.report_eq
  constructor
  · rintro rfl
    obtain ⟨r, hr⟩ := exists_lookup (Text.lines text.toList) (compactId dpid.toList) port
    rwa [hsound hr]
  · exact hsound

end Lookups

end OpticalTestbed.SysConfig
