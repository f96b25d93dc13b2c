import OpticalTestbed.Proofs.Text.Lowercase
import OpticalTestbed.Proofs.Text.Numeral
import OpticalTestbed.SysConfig.Taps
/-!
The readers of a line look at its parts one by one: a character that can stand in no match cuts the
line in two, and what is found is what is found in the two parts.
-/
namespace OpticalTestbed.SysConfig

open Text (isDecimalDigit isHexDigit stripFront? stripFront?_eq_some_iff takeWhile_break)

variable {word xs ys cs rest : List Char} {c p : Char}

section Numbers

theorem stripFront?_break (hc : c ∉ word) :
    stripFront? word (xs ++ c :: ys) = (stripFront? word xs).map (· ++ c :: ys) := by
  induction word generalizing xs with
  | nil => simp [stripFront?]
  | cons d word ih =>
    rw [List.mem_cons, not_or] at hc
    cases xs with
    | nil => simp [stripFront?, Ne.symm hc.1]
    | cons x xs =>
      simp only [List.cons_append, stripFront?]
      split
      · exact ih hc.2
      · rfl

theorem digitsAfter?_break (hc : c ∉ word) (hd : isDecimalDigit c = false) :
    digitsAfter? word (xs ++ c :: ys) = digitsAfter? word xs := by
  simp only [digitsAfter?, stripFront?_break hc]
  cases stripFront? word xs with
  | none => rfl
  | some rest => simp only [Option.map_some, takeWhile_break hd]

theorem digitsAfter?_other (hc : c ≠ p) : digitsAfter? (p :: word) (c :: cs) = none := by
  simp [digitsAfter?, stripFront?, Ne.symm hc]

/-- Numbers are read on each side of a character that is neither in the word nor a digit. -/
theorem numbersAfter_break (hne : word ≠ []) (hc : c ∉ word) (hd : isDecimalDigit c = false) :
    numbersAfter word (xs ++ c :: ys) = numbersAfter word xs ++ numbersAfter word ys := by
  induction xs with
  | nil =>
    obtain ⟨p, word, rfl⟩ := List.exists_cons_of_ne_nil hne
    have hp : c ≠ p := fun h => hc (h ▸ List.mem_cons_self)
    simp [numbersAfter, digitsAfter?_other hp]
  | cons x xs ih =>
    have hx : digitsAfter? word (x :: (xs ++ c :: ys)) = digitsAfter? word (x :: xs) := by
      rw [← List.cons_append, digitsAfter?_break hc hd]
    simp only [List.cons_append, numbersAfter, hx]
    split
    · rw [ih, List.cons_append]
    · exact ih

theorem numbersAfter_eq_nil (h : ¬word <:+: cs) : numbersAfter word cs = [] := by
  induction cs with
  | nil => rfl
  | cons c cs ih =>
    rw [List.infix_cons_iff, not_or] at h
    have hnone : stripFront? word (c :: cs) = none := by
      by_contra hsome
      obtain ⟨rest, hrest⟩ := Option.ne_none_iff_exists'.1 hsome
      exact h.1 ⟨rest, (stripFront?_eq_some_iff.1 hrest).symm⟩
    simp [numbersAfter, digitsAfter?, hnone, ih h.2]

theorem numbersAfter_skip (h : p ∉ xs) :
    numbersAfter (p :: word) (xs ++ ys) = numbersAfter (p :: word) ys := by
  induction xs with
  | nil => rfl
  | cons x xs ih =>
    rw [List.mem_cons, not_or] at h
    rw [List.cons_append, numbersAfter, digitsAfter?_other (Ne.symm h.1)]
    exact ih h.2

/-- The number right after a word that starts with a character it does not repeat. -/
theorem numbersAfter_word (n : Nat) (hw : p ∉ word) (hp : isDecimalDigit p = false)
    (hd : isDecimalDigit c = false) :
    numbersAfter (p :: word) (p :: word ++ (Numeral.decimal n ++ c :: ys)) =
      Numeral.decimal n :: numbersAfter (p :: word) (c :: ys) := by
  have hdigits : ∀ d ∈ Numeral.decimal n, isDecimalDigit d = true := fun d hd =>
    Text.isDecimalDigit_of_ascii (Numeral.isAsciiDigit_of_mem_decimal n d hd)
  have hfront : digitsAfter? (p :: word) (p :: word ++ (Numeral.decimal n ++ c :: ys)) =
      some (Numeral.decimal n) := by
    have hstrip := stripFront?_eq_some_iff.2
      (rfl : p :: word ++ (Numeral.decimal n ++ c :: ys) = p :: word ++ _)
    have htake : (Numeral.decimal n ++ c :: ys).takeWhile isDecimalDigit = Numeral.decimal n := by
      rw [takeWhile_break hd, List.takeWhile_eq_self_iff]
      exact hdigits
    simp only [digitsAfter?, hstrip, htake]
    split
    · rename_i he
      exact absurd he (Numeral.decimal_ne_nil n)
    · rfl
  have hskip : p ∉ word ++ Numeral.decimal n := by
    rw [List.mem_append, not_or]
    refine ⟨hw, fun hmem => ?_⟩
    rw [hdigits p hmem] at hp
    cases hp
  rw [List.cons_append] at hfront ⊢
  rw [numbersAfter, hfront, ← List.append_assoc, numbersAfter_skip hskip]

end Numbers

section Leftmost

variable {α : Type} {At : List Char → Nat → α → Prop} {front? : List Char → Option α} {x y : α}
  {i : Nat}

/-- Something is found at the leftmost place of a text where anything is. -/
def Leftmost (At : List Char → Nat → α → Prop) (cs : List Char) (x : α) : Prop :=
  ∃ i, At cs i x ∧ ∀ j y, At cs j y → i ≤ j

/-- What is found at a place is what a reader finds at the front of the text from there on. -/
structure Scans (At : List Char → Nat → α → Prop) (front? : List Char → Option α) : Prop where
  nil : ∀ i x, ¬At [] i x
  front : ∀ cs x, At cs 0 x ↔ front? cs = some x
  rest : ∀ c cs i x, At (c :: cs) (i + 1) x ↔ At cs i x

namespace Scans

theorem exists_cons (h : Scans At front?) :
    (∃ i, At (c :: cs) i x) ↔ front? (c :: cs) = some x ∨ ∃ i, At cs i x := by
  constructor
  · rintro ⟨i, hat⟩
    cases i with
    | zero => exact .inl ((h.front _ x).1 hat)
    | succ i => exact .inr ⟨i, (h.rest c cs i x).1 hat⟩
  · rintro (hfront | ⟨i, hat⟩)
    · exact ⟨0, (h.front _ x).2 hfront⟩
    · exact ⟨i + 1, (h.rest c cs i x).2 hat⟩

theorem leftmost_of_some (h : Scans At front?) (hfront : front? cs = some y) :
    Leftmost At cs x ↔ y = x := by
  have hat := (h.front cs y).2 hfront
  constructor
  · rintro ⟨i, hx, hleast⟩
    obtain rfl := Nat.le_zero.1 (hleast 0 y hat)
    exact Option.some.inj (hfront.symm.trans ((h.front cs x).1 hx))
  · rintro rfl
    exact ⟨0, hat, fun _ _ _ => Nat.zero_le _⟩

theorem leftmost_of_none (h : Scans At front?) (hnone : front? (c :: cs) = none) :
    Leftmost At (c :: cs) x ↔ Leftmost At cs x := by
  have hfront : ∀ y, ¬At (c :: cs) 0 y := by
    intro y hy
    rw [(h.front _ y).1 hy] at hnone
    cases hnone
  constructor
  · rintro ⟨i, hx, hleast⟩
    cases i with
    | zero => exact absurd hx (hfront x)
    | succ i =>
      refine ⟨i, (h.rest c cs i x).1 hx, fun j y hy => ?_⟩
      exact Nat.le_of_succ_le_succ (hleast (j + 1) y ((h.rest c cs j y).2 hy))
  · rintro ⟨i, hx, hleast⟩
    refine ⟨i + 1, (h.rest c cs i x).2 hx, fun j y hy => ?_⟩
    cases j with
    | zero => exact absurd hy (hfront y)
    | succ j => exact Nat.succ_le_succ (hleast j y ((h.rest c cs j y).1 hy))

end Scans

end Leftmost

section Octets

/-- `n` octets of two hexadecimal digits, each followed by a separator, and one more. -/
inductive Octets : Nat → List Char → Prop
  | last {a b} : isHexDigit a = true → isHexDigit b = true → Octets 0 [a, b]
  | more {n a b d rest} : isHexDigit a = true → isHexDigit b = true → isOctetSeparator d = true →
      Octets n rest → Octets (n + 1) (a :: b :: d :: rest)

theorem octetsAtFront?_eq_some_iff {n : Nat} :
    octetsAtFront? n cs = some xs ↔ Octets n xs ∧ xs <+: cs := by
  induction n generalizing cs xs with
  | zero =>
    constructor
    · intro h
      obtain _ | ⟨a, _ | ⟨b, rest⟩⟩ := cs
      · cases h
      · cases h
      · simp only [octetsAtFront?, Bool.and_eq_true] at h
        split at h
        · rename_i hhex
          cases h
          exact ⟨.last hhex.1 hhex.2, rest, rfl⟩
        · cases h
    · rintro ⟨hx, rest, rfl⟩
      cases hx with
      | last ha hb => simp [octetsAtFront?, ha, hb]
  | succ n ih =>
    constructor
    · intro h
      obtain _ | ⟨a, _ | ⟨b, _ | ⟨d, rest⟩⟩⟩ := cs
      · cases h
      · cases h
      · cases h
      · simp only [octetsAtFront?, Bool.and_eq_true] at h
        split at h
        · rename_i hhex
          obtain ⟨tail, htail, rfl⟩ := Option.map_eq_some_iff.1 h
          obtain ⟨htail, hstart⟩ := ih.1 htail
          have hsep : isOctetSeparator d = true := by simpa [isOctetSeparator] using hhex.2
          refine ⟨.more hhex.1.1 hhex.1.2 hsep htail, ?_⟩
          exact List.cons_prefix_cons.2 ⟨rfl, List.cons_prefix_cons.2
            ⟨rfl, List.cons_prefix_cons.2 ⟨rfl, hstart⟩⟩⟩
        · cases h
    · rintro ⟨hx, rest, rfl⟩
      cases hx with
      | @more _ a b d tail ha hb hd htail =>
        have hrest := ih.2 ⟨htail, List.prefix_append tail rest⟩
        have hsep : d = ':' ∨ d = '-' := by simpa [isOctetSeparator] using hd
        simp [octetsAtFront?, ha, hb, hsep, hrest]

/-- A line has no delimited id for the readers exactly if there is none in it. -/
theorem delimitedOctets?_eq_none_iff :
    delimitedOctets? cs = none ↔ ∀ xs, xs <:+: cs → ¬Octets 7 xs := by
  induction cs with
  | nil =>
    refine iff_of_true rfl fun xs hx ho => ?_
    rw [List.infix_nil] at hx
    subst hx
    cases ho
  | cons c cs ih =>
    have hfront : octetsAtFront? 7 (c :: cs) = none ↔ ∀ xs, xs <+: c :: cs → ¬Octets 7 xs := by
      rw [Option.eq_none_iff_forall_ne_some]
      simp only [ne_eq, octetsAtFront?_eq_some_iff, not_and']
    rw [delimitedOctets?]
    cases hat : octetsAtFront? 7 (c :: cs) with
    | some xs =>
      obtain ⟨ho, hstart⟩ := octetsAtFront?_eq_some_iff.1 hat
      exact iff_of_false (by simp) fun hnone => hnone xs hstart.isInfix ho
    | none =>
      simp only [ih, List.infix_cons_iff, or_imp, forall_and]
      exact ⟨fun h => ⟨hfront.1 hat, h⟩, fun h => h.2⟩

/-- A character that can stand in no delimited id. -/
def isForeign (c : Char) : Bool := !isHexDigit c && !isOctetSeparator c

theorem isForeign_iff :
    isForeign c = true ↔ isHexDigit c = false ∧ c ≠ ':' ∧ c ≠ '-' := by
  simp [isForeign, isOctetSeparator]

theorem octetsAtFront?_break (hc : isForeign c = true) (n : Nat) :
    octetsAtFront? n (xs ++ c :: ys) = octetsAtFront? n xs := by
  obtain ⟨hhex, hcolon, hdash⟩ := isForeign_iff.1 hc
  induction n generalizing xs with
  | zero =>
    obtain _ | ⟨a, _ | ⟨b, xs⟩⟩ := xs
    · cases ys <;> simp [octetsAtFront?, hhex]
    · simp [octetsAtFront?, hhex]
    · simp [octetsAtFront?]
  | succ n ih =>
    obtain _ | ⟨a, _ | ⟨b, _ | ⟨d, xs⟩⟩⟩ := xs
    · obtain _ | ⟨a, _ | ⟨b, ys⟩⟩ := ys <;> simp [octetsAtFront?, hhex]
    · cases ys <;> simp [octetsAtFront?, hhex]
    · simp [octetsAtFront?, hcolon, hdash]
    · simp only [List.cons_append, octetsAtFront?, ih]

/-- A delimited id is looked for on each side of a character that can stand in none. -/
theorem delimitedOctets?_break (hc : isForeign c = true) :
    delimitedOctets? (xs ++ c :: ys) = (delimitedOctets? xs).or (delimitedOctets? ys) := by
  induction xs with
  | nil =>
    have hnone : octetsAtFront? 7 ([] ++ c :: ys) = none := octetsAtFront?_break hc 7
    rw [List.nil_append] at hnone
    simp [delimitedOctets?, hnone]
  | cons x xs ih =>
    have hx : octetsAtFront? 7 (x :: (xs ++ c :: ys)) = octetsAtFront? 7 (x :: xs) := by
      rw [← List.cons_append, octetsAtFront?_break hc]
    simp only [List.cons_append, delimitedOctets?, hx]
    split
    · rfl
    · exact ih

theorem delimitedOctets?_eq_none (h : cs.all (fun c => !isOctetSeparator c) = true) :
    delimitedOctets? cs = none := by
  induction cs with
  | nil => rfl
  | cons c cs ih =>
    have hnone : octetsAtFront? 7 (c :: cs) = none := by
      obtain _ | ⟨b, _ | ⟨d, cs⟩⟩ := cs
      · rfl
      · rfl
      · have hd := List.all_eq_true.1 h d (by simp)
        simp only [isOctetSeparator, Bool.not_eq_true', Bool.or_eq_false_iff,
          decide_eq_false_iff_not] at hd
        simp [octetsAtFront?, hd.1, hd.2]
    rw [List.all_cons, Bool.and_eq_true] at h
    rw [delimitedOctets?, hnone]
    exact ih h.2

theorem Octets.length {n : Nat} (h : Octets n xs) : xs.length = 3 * n + 2 := by
  induction h with
  | last => rfl
  | more _ _ _ _ ih => simp only [List.length_cons, ih]; omega

/-- At some place of a line stand eight delimited octets. -/
structure OctetsAt (line : List Char) (i : Nat) (xs : List Char) : Prop where
  found : xs <+: line.drop i
  octets : Octets 7 xs

/-- The leftmost eight delimited octets of a line. -/
def FirstOctets (line xs : List Char) : Prop := Leftmost OctetsAt line xs

theorem scans_octetsAt : Scans OctetsAt (octetsAtFront? 7) where
  nil i xs hat := by
    have hnil := hat.found
    rw [List.drop_nil, List.prefix_nil] at hnil
    have hlen := hat.octets.length
    simp [hnil] at hlen
  front cs xs := by
    rw [octetsAtFront?_eq_some_iff]
    exact ⟨fun hat => ⟨hat.octets, hat.found⟩, fun hat => ⟨hat.2, hat.1⟩⟩
  rest _ _ _ _ := ⟨fun hat => ⟨hat.found, hat.octets⟩, fun hat => ⟨hat.found, hat.octets⟩⟩

/-- The reader of a line stops at the leftmost octets. -/
theorem delimitedOctets?_eq_some_iff : delimitedOctets? cs = some xs ↔ FirstOctets cs xs := by
  unfold FirstOctets
  induction cs with
  | nil => simp [delimitedOctets?, Leftmost, scans_octetsAt.nil]
  | cons c cs ih =>
    rw [delimitedOctets?]
    split
    · rename_i found hfront
      rw [scans_octetsAt.leftmost_of_some hfront, Option.some_inj]
    · rename_i hnone
      rw [scans_octetsAt.leftmost_of_none hnone, ih]

theorem delimitedOctets?_of_length (h : cs.length < 23) : delimitedOctets? cs = none := by
  refine delimitedOctets?_eq_none_iff.2 fun xs hx ho => ?_
  have hle := hx.length_le
  have hlen := ho.length
  omega

theorem hexDigit_facts (h : isHexDigit c = true) :
    isOctetSeparator c = false ∧ isLowerHex (Text.lowerAscii c) = true := by
  refine ⟨?_, by rw [Text.isLowerHex_lowerAscii, h]⟩
  have hn := Text.isHexDigit_ascii h
  revert h
  exact Text.forall_below c hn (by decide)

/-- What is left of delimited octets without their separators. -/
theorem Octets.hex {n : Nat} (h : Octets n xs) :
    (xs.filter fun c => !isOctetSeparator c).all isHexDigit = true := by
  induction h with
  | last ha hb => simp [(hexDigit_facts ha).1, (hexDigit_facts hb).1, ha, hb]
  | more ha hb hd _ ih => simpa [(hexDigit_facts ha).1, (hexDigit_facts hb).1, ha, hb, hd] using ih

/-- Octets without their separators are two small digits each. -/
theorem Octets.compact {n : Nat} (h : Octets n xs) :
    (compactId xs).length = 2 * (n + 1) ∧ (compactId xs).all isLowerHex = true := by
  induction h with
  | last ha hb =>
    obtain ⟨hasep, halow⟩ := hexDigit_facts ha
    obtain ⟨hbsep, hblow⟩ := hexDigit_facts hb
    simp [compactId, hasep, hbsep, halow, hblow]
  | @more n a b d rest ha hb hd _ ih =>
    obtain ⟨hasep, halow⟩ := hexDigit_facts ha
    obtain ⟨hbsep, hblow⟩ := hexDigit_facts hb
    have hcons : compactId (a :: b :: d :: rest) =
        Text.lowerAscii a :: Text.lowerAscii b :: compactId rest := by
      simp [compactId, hasep, hbsep, hd]
    rw [hcons]
    simp only [List.length_cons, List.all_cons, halow, hblow, ih.1, ih.2, Bool.and_true, and_true]
    omega

theorem octetsAtFront?_join_pairs (n : Nat) (hlen : cs.length = 2 * (n + 1))
    (h : cs.all isLowerHex = true) :
    octetsAtFront? n (Text.join [':'] (pairs cs)) = some (Text.join [':'] (pairs cs)) := by
  induction n generalizing cs with
  | zero =>
    obtain ⟨a, b, rfl⟩ := List.length_eq_two.1 hlen
    simp only [List.all_cons, Bool.and_eq_true] at h
    simp [pairs, Text.join, octetsAtFront?, (isLowerHex_facts h.1).1, (isLowerHex_facts h.2.1).1]
  | succ n ih =>
    obtain _ | ⟨a, _ | ⟨b, cs⟩⟩ := cs
    · simp at hlen
    · simp only [List.length_cons, List.length_nil] at hlen
      omega
    · simp only [List.length_cons] at hlen
      simp only [List.all_cons, Bool.and_eq_true] at h
      have hrest := ih (by omega) h.2.2
      obtain ⟨piece, pieces, hp⟩ : ∃ piece pieces, pairs cs = piece :: pieces := by
        obtain _ | ⟨a', _ | ⟨b', cs⟩⟩ := cs
        · simp at hlen
        · simp only [List.length_cons, List.length_nil] at hlen
          omega
        · exact ⟨_, _, rfl⟩
      rw [hp] at hrest
      simp [pairs, hp, Text.join, octetsAtFront?, (isLowerHex_facts h.1).1,
        (isLowerHex_facts h.2.1).1, hrest]

theorem delimitedOctets?_delimited (d : Dpid) :
    delimitedOctets? d.delimited.toList = some d.delimited.toList := by
  have hfront := octetsAtFront?_join_pairs 7 d.wellFormed.1 d.wellFormed.2
  rw [← d.toList_delimited] at hfront
  cases hd : d.delimited.toList with
  | nil =>
    rw [hd] at hfront
    cases hfront
  | cons c cs =>
    rw [hd] at hfront
    rw [delimitedOctets?, hfront]

end Octets

section Ids

variable {w id : List Char}

/-- Sixteen hexadecimal digits that stand in a text once colons are left out. -/
structure IdAt (w cs : List Char) : Prop where
  found : w <:+: cs.filter (· ≠ ':')
  length : w.length = 16
  hex : w.all isHexDigit = true

theorem idAt_cut (hhex : isHexDigit c = false) (hcolon : c ≠ ':') :
    IdAt w (xs ++ c :: ys) ↔ IdAt w xs ∨ IdAt w ys := by
  have hbreak (hw : w.all isHexDigit = true) : w <:+: (xs ++ c :: ys).filter (· ≠ ':') ↔
      w <:+: xs.filter (· ≠ ':') ∨ w <:+: ys.filter (· ≠ ':') := by
    have hmem : c ∉ w := by
      intro hmem
      rw [List.all_eq_true.1 hw c hmem] at hhex
      cases hhex
    rw [List.filter_append, List.filter_cons_of_pos (by simpa using hcolon)]
    exact Text.infix_break_iff hmem
  constructor
  · rintro ⟨hfound, hlen, hhex⟩
    exact ((hbreak hhex).1 hfound).imp (⟨·, hlen, hhex⟩) (⟨·, hlen, hhex⟩)
  · rintro (⟨hfound, hlen, hhex⟩ | ⟨hfound, hlen, hhex⟩)
    · exact ⟨(hbreak hhex).2 (.inl hfound), hlen, hhex⟩
    · exact ⟨(hbreak hhex).2 (.inr hfound), hlen, hhex⟩

theorem idAt_break (hc : isForeign c = true) :
    IdAt w (xs ++ c :: ys) ↔ IdAt w xs ∨ IdAt w ys :=
  idAt_cut (isForeign_iff.1 hc).1 (isForeign_iff.1 hc).2.1

theorem not_idAt_of_length (h : cs.length < 16) : ¬IdAt w cs := by
  intro hat
  have hle := hat.found.length_le
  have hfilter := List.length_filter_le (· ≠ ':') cs
  have hlen := hat.length
  omega

/-- The only id in a delimited id is the compact form of it. -/
theorem idAt_delimited_iff {d : Dpid} : IdAt w d.delimited.toList ↔ w = d.digits := by
  constructor
  · intro hat
    have hfound := hat.found
    rw [d.filter_delimited] at hfound
    exact hfound.eq_of_length (hat.length.trans d.wellFormed.1.symm)
  · rintro rfl
    refine ⟨d.filter_delimited ▸ List.infix_rfl, d.wellFormed.1, ?_⟩
    exact List.all_eq_true.2 fun c hc => (isLowerHex_facts (d.isLowerHex_of_mem hc)).1

/-- A line that names a device holds its digits, in small or capital letters. -/
theorem exists_idAt_of_namesDevice (hid : IsCompactDpid id) (h : namesDevice id cs = true) :
    ∃ w, IdAt w cs ∧ w.map Text.lowerAscii = id := by
  obtain ⟨w, hw, hat⟩ := Text.hexAt_of_contains hid.2 h
  have hlen : w.length = 16 := by rw [← hid.1, ← hat.lower, List.length_map]
  exact ⟨w, ⟨hw, hlen, hat.hex⟩, hat.lower⟩

theorem namesDevice_of_idAt (hid : IsCompactDpid id) (h : IdAt id cs) :
    namesDevice id cs = true :=
  Text.contains_lowercase ⟨h.hex, map_lowerAscii_eq_self hid.2⟩ h.found

/-- A line names a device exactly if the digits of the device stand in it. -/
theorem namesDevice_iff (hid : IsCompactDpid id) :
    namesDevice id cs = true ↔ ∃ w, IdAt w cs ∧ w.map Text.lowerAscii = id := by
  refine ⟨exists_idAt_of_namesDevice hid, ?_⟩
  rintro ⟨w, hat, hlower⟩
  exact Text.contains_lowercase ⟨hat.hex, hlower⟩ hat.found

end Ids

end OpticalTestbed.SysConfig
