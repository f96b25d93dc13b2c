import OpticalTestbed.Json.Parser
import OpticalTestbed.Json.Printer
import OpticalTestbed.Proofs.Text.Numeral
/-!
The tokens of JSON texts are read back as they were written: quoted texts, whole numbers, and the
number zero with a fraction.
-/
namespace OpticalTestbed

namespace Json

open Numeral (decimal valueFrom)

section Numbers

/-- The text does not go on with a number that stands in front of it. -/
def Ends : List Char → Prop
  | [] => True
  | c :: _ => Text.isAsciiDigit c = false ∧ c ≠ '.' ∧ c ≠ 'e' ∧ c ≠ 'E'

variable {rest : List Char}

theorem hexValue?_of_isAsciiDigit {c : Char} (h : Text.isAsciiDigit c = true) :
    Text.hexValue? c = some (c.toNat - 48) := by
  rw [Text.isAsciiDigit, Bool.and_eq_true, decide_eq_true_eq, decide_eq_true_eq] at h
  rw [Text.hexValue?, if_pos h]

/-- A run of digits is taken as a whole, if its value fits. -/
theorem takeDigits_append {acc m : Nat} {ds : List Char}
    (hds : ∀ c ∈ ds, Text.isAsciiDigit c = true) (hv : valueFrom 10 acc ds = some m)
    (hm : m ≤ max64) (hrest : Ends rest) :
    takeDigits acc (ds ++ rest) = (m, ds.length, 0, rest) := by
  induction ds generalizing acc with
  | nil =>
    cases Option.some.inj hv
    cases rest with
    | nil => rfl
    | cons c rest => simp [takeDigits, hrest.1]
  | cons c ds ih =>
    rw [List.forall_mem_cons] at hds
    simp only [valueFrom, hexValue?_of_isAsciiDigit hds.1] at hv
    split at hv
    · have hfits : acc * 10 + (c.toNat - 48) ≤ max64 := (Numeral.le_of_valueFrom hv).trans hm
      simp [takeDigits, hds.1, hfits, ih hds.2 hv]
    · cases hv

theorem takeDigits_decimal {n : Nat} (h : n ≤ max64) (hrest : Ends rest) :
    takeDigits 0 (decimal n ++ rest) = (n, (decimal n).length, 0, rest) :=
  takeDigits_append (Numeral.isAsciiDigit_of_mem_decimal n) (Numeral.valueFrom_decimal n) h hrest

theorem unsigned?_decimal {n : Nat} (h : n ≤ max64) (hrest : Ends rest) :
    unsigned? false (decimal n ++ rest) = some (nat n, rest) := by
  rcases Nat.eq_zero_or_pos n with rfl | hpos
  · rw [Numeral.decimal_lt (by decide)]
    cases rest with
    | nil => rfl
    | cons c rest =>
      obtain ⟨hdigit, hpoint, he, hE⟩ := hrest
      simp [unsigned?, Text.hexDigit, hdigit, hpoint, he, hE, nat]
  · obtain ⟨c, cs, hcs, hne, hdigit⟩ := Numeral.decimal_head hpos
    have htake := takeDigits_decimal h hrest
    rw [hcs, List.cons_append] at htake ⊢
    simp only [unsigned?, htake, hdigit, if_true]
    cases rest with
    | nil => simp [nat]
    | cons c rest =>
      obtain ⟨-, hpoint, he, hE⟩ := hrest
      simp [hpoint, he, hE, nat]

theorem unsigned?_decimal_negative {n : Nat} (hpos : 0 < n) (h : n ≤ Nat.pow 2 63)
    (hrest : Ends rest) : unsigned? true (decimal n ++ rest) = some (int (-n), rest) := by
  obtain ⟨c, cs, hcs, hne, hdigit⟩ := Numeral.decimal_head hpos
  have htake := takeDigits_decimal (h.trans (by decide)) hrest
  have hrange : 0 < n ∧ n ≤ Nat.pow 2 63 := ⟨hpos, h⟩
  rw [hcs, List.cons_append] at htake ⊢
  simp only [unsigned?, htake, hdigit, if_true, if_pos hrange]
  cases rest with
  | nil => simp
  | cons c rest =>
    obtain ⟨-, hpoint, he, hE⟩ := hrest
    simp [hpoint, he, hE]

theorem unsigned?_zero (hrest : Ends rest) :
    unsigned? false ((Binary64.zero false).text ++ rest) =
      some (real (Binary64.zero false), rest) := by
  have htake : takeDigits 0 ('0' :: rest) = (0, 1, 0, rest) :=
    takeDigits_append (List.forall_mem_singleton.2 rfl) rfl (Nat.zero_le _) hrest
  have htext : (Binary64.zero false).text = ['0', '.', '0'] := rfl
  have hpoint : Text.isAsciiDigit '.' = false := by decide
  simp only [htext, List.cons_append, List.nil_append, unsigned?, hpoint, htake]
  cases rest with
  | nil => rfl
  | cons c rest =>
    obtain ⟨-, -, he, hE⟩ := hrest
    simp [scaled?, he, hE]

end Numbers

section Texts

theorem hex4?_hexPadded {k : Nat} (h : k < 32) (more : List Char) :
    hex4? (Numeral.hexPadded 4 k ++ more) = some (k, more) := by
  have hzero : Text.hexValue? '0' = some 0 := by decide
  have hhigh := Numeral.hexValue?_hexDigit_sixteen (k / 16) (by omega)
  have hlow := Numeral.hexValue?_hexDigit_sixteen (k % 16) (by omega)
  have hvalue : k / 16 * 16 + k % 16 = k := by omega
  have hlt : k / 16 < 16 := by omega
  have hlt' : k % 16 < 16 := by omega
  simp [Numeral.hexPadded_control h, hex4?, Numeral.value?, valueFrom, hzero, hhigh, hlow, hvalue,
    hlt, hlt']

theorem unicodeEscape?_control {c : Char} (h : c.toNat < 32) (more : List Char) :
    unicodeEscape? (Numeral.hexPadded 4 c.toNat ++ more) = some (c, more) := by
  simp only [unicodeEscape?, hex4?_hexPadded h]
  rw [if_neg (by omega), if_neg (by omega), Char.ofNat_toNat]

/-- One character of a quoted text. -/
theorem chars?_escape (n : Nat) (c : Char) (more acc : List Char) :
    chars? (n + 1) (escape c ++ more) acc = chars? n more (c :: acc) := by
  have hchar : ∀ k, c.toNat = k → Char.ofNat k = c := by
    rintro k rfl
    exact Char.ofNat_toNat c
  unfold escape
  split_ifs with hquote hback h8 h9 h10 h12 h13 hcontrol
  · subst hquote
    rfl
  · subst hback
    rfl
  · rw [← hchar 8 h8]
    rfl
  · rw [← hchar 9 h9]
    rfl
  · rw [← hchar 10 h10]
    rfl
  · rw [← hchar 12 h12]
    rfl
  · rw [← hchar 13 h13]
    rfl
  · simp only [List.cons_append, chars?, unicodeEscape?_control hcontrol]
  · rw [List.singleton_append, chars?]
    · rw [if_neg hcontrol]
    · exact hquote
    · exact fun _ h _ => hback h
    · exact fun _ _ h _ => hback h

theorem escape_length_pos (c : Char) : 0 < (escape c).length := by
  unfold escape
  split_ifs <;> simp

/-- The inside of a quoted text, up to the closing quote. -/
theorem chars?_escaped {n : Nat} {cs : List Char} (h : (cs.flatMap escape).length < n)
    (rest acc : List Char) :
    chars? n (cs.flatMap escape ++ '"' :: rest) acc =
      some (String.ofList (acc.reverse ++ cs), rest) := by
  induction cs generalizing n acc with
  | nil =>
    obtain ⟨n, rfl⟩ := Nat.exists_eq_add_of_lt h
    simp [chars?]
  | cons c cs ih =>
    rw [List.flatMap_cons, List.length_append] at h
    have hpos := escape_length_pos c
    obtain ⟨n, rfl⟩ : ∃ m, n = m + 1 := ⟨n - 1, by omega⟩
    rw [List.flatMap_cons, List.append_assoc, chars?_escape, ih (by omega)]
    simp

theorem quoted_read (s : String) (rest : List Char) :
    ∃ inside, quoted s ++ rest = '"' :: inside ∧
      chars? (inside.length + 1) inside [] = some (s, rest) := by
  refine ⟨s.toList.flatMap escape ++ '"' :: rest, by simp [quoted], ?_⟩
  rw [chars?_escaped (by rw [List.length_append]; omega), List.reverse_nil, List.nil_append,
    String.ofList_toList]

end Texts

end Json

end OpticalTestbed
