import OpticalTestbed.Text.DecimalDigit
import OpticalTestbed.Text.Numeral
import Mathlib.Tactic.Ring
/-!
Decimal numbers are read back as they were written.
-/
namespace OpticalTestbed.Numeral

theorem digitsOnto_lt {n : Nat} (h : n < 10) (tail : List Char) :
    digitsOnto 10 n tail = Text.hexDigit n :: tail := by
  rw [digitsOnto, dif_pos (.inr h)]

theorem digitsOnto_ge {n : Nat} (h : 10 ≤ n) (tail : List Char) :
    digitsOnto 10 n tail = digitsOnto 10 (n / 10) (Text.hexDigit (n % 10) :: tail) := by
  rw [digitsOnto, dif_neg (by omega)]

theorem digitsOnto_append (n : Nat) (tail more : List Char) :
    digitsOnto 10 n (tail ++ more) = digitsOnto 10 n tail ++ more := by
  induction n using Nat.strongRecOn generalizing tail with
  | ind n ih =>
    by_cases h : n < 10
    · rw [digitsOnto_lt h, digitsOnto_lt h, List.cons_append]
    · have hge : 10 ≤ n := by omega
      rw [digitsOnto_ge hge, digitsOnto_ge hge, ← List.cons_append, ih (n / 10) (by omega)]

theorem decimal_lt {n : Nat} (h : n < 10) : decimal n = [Text.hexDigit n] := digitsOnto_lt h []

theorem decimal_ge {n : Nat} (h : 10 ≤ n) :
    decimal n = decimal (n / 10) ++ [Text.hexDigit (n % 10)] := by
  rw [decimal, digitsOnto_ge h, decimal, ← digitsOnto_append, List.nil_append]

theorem decimal_ne_nil (n : Nat) : decimal n ≠ [] := by
  by_cases h : n < 10
  · simp [decimal_lt h]
  · simp [decimal_ge (by omega : 10 ≤ n)]

theorem isAsciiDigit_hexDigit : ∀ n < 10, Text.isAsciiDigit (Text.hexDigit n) = true := by decide

theorem hexValue?_hexDigit : ∀ n < 10, Text.hexValue? (Text.hexDigit n) = some n := by decide

/-- A decimal text holds nothing but digits. -/
theorem isAsciiDigit_of_mem_decimal (n : Nat) : ∀ c ∈ decimal n, Text.isAsciiDigit c = true := by
  induction n using Nat.strongRecOn with
  | ind n ih =>
    intro c hc
    by_cases h : n < 10
    · rw [decimal_lt h, List.mem_singleton] at hc
      rw [hc]
      exact isAsciiDigit_hexDigit n h
    · rw [decimal_ge (by omega : 10 ≤ n), List.mem_append, List.mem_singleton] at hc
      rcases hc with hc | rfl
      · exact ih (n / 10) (by omega) c hc
      · exact isAsciiDigit_hexDigit _ (by omega)

theorem not_mem_decimal {c : Char} (hc : Text.isAsciiDigit c = false) (n : Nat) :
    c ∉ decimal n := by
  intro hmem
  rw [isAsciiDigit_of_mem_decimal n c hmem] at hc
  cases hc

theorem length_decimal (k n : Nat) (h : n < 10 ^ (k + 1)) : (decimal n).length ≤ k + 1 := by
  induction k generalizing n with
  | zero => simp [decimal_lt (by simpa using h)]
  | succ k ih =>
    by_cases hn : n < 10
    · simp [decimal_lt hn]
    · have hlt : n / 10 < 10 ^ (k + 1) := by
        rw [Nat.div_lt_iff_lt_mul (by decide)]
        calc n < 10 ^ (k + 1 + 1) := h
          _ = 10 ^ (k + 1) * 10 := by ring
      have hd := ih (n / 10) hlt
      rw [decimal_ge (by omega : 10 ≤ n)]
      simpa using hd

theorem valueFrom_append (acc : Nat) (xs ys : List Char) :
    valueFrom 10 acc (xs ++ ys) = (valueFrom 10 acc xs).bind (valueFrom 10 · ys) := by
  induction xs generalizing acc with
  | nil => rfl
  | cons c xs ih =>
    simp only [List.cons_append, valueFrom]
    split
    · split
      · exact ih _
      · rfl
    · rfl

theorem valueFrom_decimal (n : Nat) : valueFrom 10 0 (decimal n) = some n := by
  induction n using Nat.strongRecOn with
  | ind n ih =>
    by_cases h : n < 10
    · simp [decimal_lt h, valueFrom, hexValue?_hexDigit n h, h]
    · have hmod : n % 10 < 10 := by omega
      rw [decimal_ge (by omega : 10 ≤ n), valueFrom_append, ih (n / 10) (by omega)]
      simp only [Option.bind_some, valueFrom, hexValue?_hexDigit _ hmod, hmod, if_true]
      congr 1
      omega

theorem bounded?_decimal {limit n : Nat} (h : n ≤ limit) : bounded? limit (decimal n) = some n := by
  have hplus : ∀ rest, decimal n ≠ '+' :: rest := by
    intro rest he
    have hd := isAsciiDigit_of_mem_decimal n '+' (he ▸ List.mem_cons_self)
    exact absurd hd (by decide)
  have hne : (decimal n).isEmpty = false := by simpa using decimal_ne_nil n
  unfold bounded?
  split
  · rename_i he
    exact absurd he (hplus _)
  · simp [value?, hne, valueFrom_decimal, h]

theorem hexValue?_hexDigit_sixteen : ∀ n < 16, Text.hexValue? (Text.hexDigit n) = some n := by
  decide

/-- Control characters have two hexadecimal digits at most. -/
theorem hexPadded_control {k : Nat} (h : k < 32) :
    hexPadded 4 k = ['0', '0', Text.hexDigit (k / 16), Text.hexDigit (k % 16)] := by
  by_cases hk : k < 16
  · have hdigits : digitsOnto 16 k [] = [Text.hexDigit k] := by
      rw [digitsOnto, dif_pos (.inr hk)]
    rw [hexPadded, hdigits, Nat.div_eq_of_lt hk, Nat.mod_eq_of_lt hk]
    rfl
  · have hdigits : digitsOnto 16 k [] = [Text.hexDigit (k / 16), Text.hexDigit (k % 16)] := by
      rw [digitsOnto, dif_neg (by omega), digitsOnto, dif_pos (.inr (by omega))]
    rw [hexPadded, hdigits]
    rfl

/-- Only zero begins with the digit zero. -/
theorem decimal_head {n : Nat} (h : 0 < n) :
    ∃ c cs, decimal n = c :: cs ∧ c ≠ '0' ∧ Text.isAsciiDigit c = true := by
  induction n using Nat.strongRecOn with
  | ind n ih =>
    by_cases hn : n < 10
    · have hdigit : ∀ n < 10, 0 < n → Text.hexDigit n ≠ '0' := by decide
      exact ⟨_, _, decimal_lt hn, hdigit n hn h, isAsciiDigit_hexDigit n hn⟩
    · obtain ⟨c, cs, hcs, hne, hdigit⟩ := ih (n / 10) (by omega) (by omega)
      refine ⟨c, cs ++ [Text.hexDigit (n % 10)], ?_, hne, hdigit⟩
      rw [decimal_ge (by omega), hcs, List.cons_append]

theorem le_of_valueFrom {acc m : Nat} {ds : List Char} (h : valueFrom 10 acc ds = some m) :
    acc ≤ m := by
  induction ds generalizing acc with
  | nil => exact Nat.le_of_eq (Option.some.inj h)
  | cons c ds ih =>
    simp only [valueFrom] at h
    split at h
    · split at h
      · have hle := ih h
        omega
      · cases h
    · cases h

theorem bounded?_le {bound n : Nat} {cs : List Char} (h : bounded? bound cs = some n) :
    n ≤ bound := by
  simp only [bounded?] at h
  split at h
  · split at h
    · rename_i hle
      obtain rfl := Option.some.inj h
      exact hle
    · cases h
  · cases h

/-- Different numbers have different texts. -/
theorem decimal_injective {m n : Nat} (h : decimal m = decimal n) : m = n := by
  have hm := valueFrom_decimal m
  rw [h, valueFrom_decimal] at hm
  exact (Option.some.inj hm).symm

end OpticalTestbed.Numeral

namespace OpticalTestbed.Text

theorem isDecimalDigit_of_ascii {c : Char} (h : isAsciiDigit c = true) :
    isDecimalDigit c = true := by
  have hn : 48 ≤ c.toNat ∧ c.toNat ≤ 57 := by
    simp only [isAsciiDigit, Bool.and_eq_true, decide_eq_true_eq] at h
    exact h
  simp [isDecimalDigit, inRuns, decimalDigitRuns, hn.1, hn.2]

end OpticalTestbed.Text
