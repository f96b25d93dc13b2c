import OpticalTestbed.Proofs.Dpid
import OpticalTestbed.Text.Lowercase
/-!
Hexadecimal digits come from nothing else when a text is put in small letters.
-/
namespace OpticalTestbed.Text

/-- Capitals beyond ASCII have small letters beyond the hexadecimal digits. -/
theorem capitalRuns_above : ∀ r ∈ capitalRuns, r.2.1 < 128 ∨ (102 : Int) < r.1 + r.2.2.2 := by
  decide +kernel

theorem smallLetter_ascii {c : Char} (hc : c.toNat < 128) : isLowerHex (smallLetter c) = true →
    isHexDigit c = true ∧ smallLetter c = lowerAscii c :=
  forall_below c hc (by decide)

theorem ofNat_not_lowerHex {n : Nat} (h : 102 < n) : isLowerHex (Char.ofNat n) = false := by
  have hn : (Char.ofNat n).toNat = n ∨ (Char.ofNat n).toNat = 0 := by
    by_cases hv : n.isValidChar
    · rw [Char.ofNat, dif_pos hv]
      exact .inl rfl
    · rw [Char.ofNat, dif_neg hv]
      exact .inr rfl
  rw [Bool.eq_false_iff, ne_eq, isLowerHex_iff]
  omega

/-- A digit in small letters comes from that digit, small or capital. -/
theorem smallLetter_hex {c : Char} (h : isLowerHex (smallLetter c) = true) :
    isHexDigit c = true ∧ smallLetter c = lowerAscii c := by
  by_cases hc : c.toNat < 128
  · exact smallLetter_ascii hc h
  · exfalso
    unfold smallLetter at h
    simp only [hc, if_false] at h
    split at h
    · rename_i r hr
      have hmem := List.mem_of_find?_eq_some hr
      have hrun := List.find?_some hr
      simp only [Bool.and_eq_true, decide_eq_true_eq] at hrun
      rcases capitalRuns_above r hmem with hlow | habove
      · omega
      · rw [ofNat_not_lowerHex (by omega)] at h
        cases h
    · rw [isLowerHex_iff] at h
      omega

/-- What one character becomes. -/
theorem lowercaseFrom_cons (before : List Char) (c : Char) (cs : List Char) :
    (∃ d, isLowerHex d = false ∧ (lowercaseFrom before (c :: cs) =
        d :: lowercaseFrom (c :: before) cs ∨
      ∃ d', isLowerHex d' = false ∧
        lowercaseFrom before (c :: cs) = d :: d' :: lowercaseFrom (c :: before) cs)) ∨
    lowercaseFrom before (c :: cs) = smallLetter c :: lowercaseFrom (c :: before) cs := by
  simp only [lowercaseFrom]
  split
  · split
    · exact .inl ⟨'ς', by decide, .inl rfl⟩
    · exact .inl ⟨'σ', by decide, .inl rfl⟩
  · split
    · exact .inl ⟨'i', by decide, .inr ⟨Char.ofNat 0x307, by decide, rfl⟩⟩
    · exact .inr rfl

/-- Digits of some word that are found in a text are the small letters of digits there. -/
structure HexAt (id w : List Char) : Prop where
  hex : w.all isHexDigit = true
  lower : w.map lowerAscii = id

variable {id cs before : List Char}

theorem hexAt_of_prefix (hid : id.all isLowerHex = true) (h : id <+: lowercaseFrom before cs) :
    ∃ w, w <+: cs ∧ HexAt id w := by
  induction id generalizing before cs with
  | nil => exact ⟨[], List.nil_prefix, rfl, rfl⟩
  | cons d id ih =>
    simp only [List.all_cons, Bool.and_eq_true] at hid
    cases cs with
    | nil => simp [lowercaseFrom] at h
    | cons c cs =>
      rcases lowercaseFrom_cons before c cs with ⟨x, hx, he | ⟨y, -, he⟩⟩ | he <;> rw [he] at h <;>
        obtain ⟨rfl, hrest⟩ := List.cons_prefix_cons.1 h
      · rw [hid.1] at hx
        cases hx
      · rw [hid.1] at hx
        cases hx
      · obtain ⟨hhex, hlower⟩ := smallLetter_hex hid.1
        obtain ⟨w, hw, hat⟩ := ih hid.2 hrest
        refine ⟨c :: w, List.cons_prefix_cons.2 ⟨rfl, hw⟩, ?_, ?_⟩
        · simp [hhex, hat.hex]
        · rw [List.map_cons, hat.lower, hlower]

theorem not_prefix_of_not_hex {d : Char} (hd : isLowerHex d = false)
    (hid : id.all isLowerHex = true) (hne : id ≠ []) : ¬id <+: d :: cs := by
  intro h
  cases id with
  | nil => exact hne rfl
  | cons x id =>
    obtain ⟨rfl, -⟩ := List.cons_prefix_cons.1 h
    simp [hd] at hid

theorem hexAt_of_infix (hid : id.all isLowerHex = true) (h : id <:+: lowercaseFrom before cs) :
    ∃ w, w <:+: cs ∧ HexAt id w := by
  by_cases hne : id = []
  · exact ⟨[], List.nil_infix, rfl, hne.symm⟩
  · induction cs generalizing before with
    | nil =>
      simp only [lowercaseFrom, List.infix_nil] at h
      exact absurd h hne
    | cons c cs ih =>
      have hrest : id <:+: lowercaseFrom (c :: before) cs → ∃ w, w <:+: c :: cs ∧ HexAt id w := by
        intro h
        obtain ⟨w, hw, hat⟩ := ih h
        exact ⟨w, hw.trans (List.suffix_cons c cs).isInfix, hat⟩
      rcases lowercaseFrom_cons before c cs with ⟨x, hx, he | ⟨y, hy, he⟩⟩ | he
      · rw [he] at h
        exact hrest ((List.infix_cons_iff.1 h).resolve_left (not_prefix_of_not_hex hx hid hne))
      · rw [he] at h
        have h := (List.infix_cons_iff.1 h).resolve_left (not_prefix_of_not_hex hx hid hne)
        exact hrest ((List.infix_cons_iff.1 h).resolve_left (not_prefix_of_not_hex hy hid hne))
      · have h' := h
        rw [he] at h'
        rcases List.infix_cons_iff.1 h' with hp | hi
        · rw [← he] at hp
          obtain ⟨w, hw, hat⟩ := hexAt_of_prefix hid hp
          exact ⟨w, hw.isInfix, hat⟩
        · exact hrest hi

/-- A text holds some digits in small letters only where it holds them in one way or other. -/
theorem hexAt_of_contains (hid : id.all isLowerHex = true)
    (h : contains id (lowercase cs) = true) : ∃ w, w <:+: cs ∧ HexAt id w :=
  hexAt_of_infix hid (contains_iff.1 h)

theorem isHexDigit_ascii {d : Char} (h : isHexDigit d = true) : d.toNat < 103 := by
  simp only [isHexDigit, hexValue?, Option.isSome_iff_exists] at h
  obtain ⟨n, h⟩ := h
  have below : ∀ {x : Char}, d ≤ x → x.toNat < 103 → d.toNat < 103 := fun hd hx => by
    have hle : d.toNat ≤ _ := hd
    exact Nat.lt_of_le_of_lt hle hx
  split at h
  · rename_i hd
    exact below hd.2 (by decide)
  · split at h
    · rename_i hd
      exact below hd.2 (by decide)
    · split at h
      · rename_i hd
        exact below hd.2 (by decide)
      · cases h

theorem smallLetter_hexDigit {d : Char} (h : isHexDigit d = true) :
    smallLetter d = lowerAscii d := by
  have hn := isHexDigit_ascii h
  revert h
  exact forall_below d hn (by decide)

/-- A hexadecimal digit is what becomes a small one in small letters. -/
theorem isLowerHex_lowerAscii (c : Char) : isLowerHex (lowerAscii c) = isHexDigit c := by
  by_cases hc : c.toNat < 128
  · exact forall_below c hc (by decide)
  · have hbeyond : ¬('A' ≤ c ∧ c ≤ 'Z') := by
      rintro ⟨-, hz⟩
      have hle : c.toNat ≤ 90 := hz
      omega
    have hhex : isHexDigit c = false := by
      rw [Bool.eq_false_iff]
      intro h
      have hlt := isHexDigit_ascii h
      omega
    rw [lowerAscii, if_neg hbeyond, hhex, Bool.eq_false_iff, ne_eq, isLowerHex_iff]
    omega

theorem lowercaseFrom_hex {d : Char} (hd : isHexDigit d = true) :
    lowercaseFrom before (d :: cs) = lowerAscii d :: lowercaseFrom (d :: before) cs := by
  have hn := isHexDigit_ascii hd
  have hsigma : d ≠ 'Σ' := by
    rintro rfl
    exact absurd hd (by decide)
  have hdotted : d.toNat ≠ 0x130 := by omega
  simp [lowercaseFrom, hsigma, hdotted, smallLetter_hexDigit hd]

theorem lowercaseFrom_append (xs : List Char) :
    ∃ p, lowercaseFrom before (xs ++ cs) = p ++ lowercaseFrom (xs.reverse ++ before) cs := by
  induction xs generalizing before with
  | nil => exact ⟨[], rfl⟩
  | cons x xs ih =>
    obtain ⟨p, hp⟩ := @ih (x :: before)
    simp only [List.cons_append, lowercaseFrom, List.reverse_cons, List.append_assoc,
      List.nil_append]
    exact ⟨_ ++ p, by rw [hp, List.append_assoc]⟩

/-- Digits stay where they are, in small letters. -/
theorem contains_lowercase {w : List Char} (hw : HexAt id w) (h : w <:+: cs) :
    contains id (lowercase cs) = true := by
  have hkeep : ∀ {w before ys}, w.all isHexDigit = true →
      w.map lowerAscii <+: lowercaseFrom before (w ++ ys) := by
    intro w
    induction w with
    | nil => exact fun _ => List.nil_prefix
    | cons d w ih =>
      intro before ys hw
      simp only [List.all_cons, Bool.and_eq_true] at hw
      rw [List.cons_append, List.map_cons, lowercaseFrom_hex hw.1]
      exact List.cons_prefix_cons.2 ⟨rfl, ih hw.2⟩
  obtain ⟨xs, ys, rfl⟩ := h
  obtain ⟨p, hp⟩ := @lowercaseFrom_append (w ++ ys) [] xs
  rw [contains_iff, lowercase, List.append_assoc, hp, ← hw.lower]
  exact (hkeep hw.hex).isInfix.trans (List.suffix_append p _).isInfix

end OpticalTestbed.Text
