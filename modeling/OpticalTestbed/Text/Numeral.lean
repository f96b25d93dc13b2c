import OpticalTestbed.Text.Chars
/-!
Numbers in positional notation: decimal and hexadecimal digits, written and read.
-/
namespace OpticalTestbed.Numeral

/-- The digits of `n` in the given base, most significant first, before the digits in `tail`. -/
def digitsOnto (base : Nat) (n : Nat) (tail : List Char) : List Char :=
  if _h : base ≤ 1 ∨ n < base then Text.hexDigit n :: tail
  else digitsOnto base (n / base) (Text.hexDigit (n % base) :: tail)
termination_by n
decreasing_by exact Nat.div_lt_self (by omega) (by omega)

/-- The decimal text of a number, without leading zeros. -/
def decimal (n : Nat) : List Char := digitsOnto 10 n []

/-- The hexadecimal text of a number, at least `width` digits wide. -/
def hexPadded (width n : Nat) : List Char :=
  let digits := digitsOnto 16 n []
  List.replicate (width - digits.length) '0' ++ digits

/-- The value of a digit sequence in the given base, or nothing if a character is no such digit. -/
def valueFrom (base : Nat) : Nat → List Char → Option Nat
  | acc, [] => some acc
  | acc, c :: cs =>
    match Text.hexValue? c with
    | some d => if d < base then valueFrom base (acc * base + d) cs else none
    | none => none

/-- Reads at least one digit in the given base. -/
def value? (base : Nat) (cs : List Char) : Option Nat :=
  if cs.isEmpty then none else valueFrom base 0 cs

/-- Reads a decimal number of at most `limit`. A plus sign may stand in front. -/
def bounded? (limit : Nat) (cs : List Char) : Option Nat :=
  let digits := match cs with
    | '+' :: rest => rest
    | _ => cs
  match value? 10 digits with
  | some n => if n ≤ limit then some n else none
  | none => none

end OpticalTestbed.Numeral

namespace OpticalTestbed

/-- The decimal text of a number. -/
def decimalText (n : Nat) : String := String.ofList (Numeral.decimal n)

/-- The largest 16-bit, 32-bit and 64-bit numbers. -/
def max16 : Nat := 65535
def max32 : Nat := 4294967295
def max64 : Nat := 18446744073709551615

end OpticalTestbed
