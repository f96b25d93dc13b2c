import OpticalTestbed.Text.Numeral
/-!
Finite binary64 numbers: rounding of fractions to the nearest one (ties to even), and the fewest
decimal digits that read back as a given one. All arithmetic is on natural numbers and integers.
-/
namespace OpticalTestbed

/-- The number `± mantissa · 2 ^ exponent`. A normal form has a mantissa below `2 ^ 53` and an
exponent from `-1074`, with a mantissa of at least `2 ^ 52` unless the exponent is the least. -/
structure Binary64 where
  negative : Bool
  mantissa : Nat
  exponent : Int
  deriving DecidableEq

namespace Binary64

def leastExponent : Int := -1074

def greatestExponent : Int := 971

def zero (negative : Bool) : Binary64 := ⟨negative, 0, leastExponent⟩

/-- The fraction `num / den` scaled by a power of two. -/
def scale (num den : Nat) (e : Int) : Nat × Nat :=
  if 0 ≤ e then (num * Nat.pow 2 e.toNat, den) else (num, den * Nat.pow 2 (-e).toNat)

/-- The integer nearest to `num / den`, the even one of two that are equally near. -/
def nearest (num den : Nat) : Nat :=
  let q := num / den
  let r := num % den
  if 2 * r < den then q
  else if den < 2 * r then q + 1
  else if q % 2 = 0 then q else q + 1

/-- The exponent for which `num / den / 2 ^ exponent` has 53 binary digits, not below the least. -/
def exponentOf (num den : Nat) : Int :=
  let guess : Int := (Nat.log2 num : Int) - (Nat.log2 den : Int) - 52
  let s := scale num den (-guess)
  let e := if s.1 / s.2 < Nat.pow 2 52 then guess - 1 else guess
  if e < leastExponent then leastExponent else e

/-- The binary64 number nearest to `num / den`; nothing if it is too large. -/
def ofFraction? (negative : Bool) (num den : Nat) : Option Binary64 :=
  if num = 0 then some (zero negative)
  else
    let e := exponentOf num den
    let s := scale num den (-e)
    let m := nearest s.1 s.2
    let x : Binary64 :=
      if m = Nat.pow 2 53 then ⟨negative, Nat.pow 2 52, e + 1⟩ else ⟨negative, m, e⟩
    if greatestExponent < x.exponent then none else some x

/-- The absolute value as a fraction. -/
def fraction (x : Binary64) : Nat × Nat := scale x.mantissa 1 x.exponent

def ofNat? (n : Nat) : Option Binary64 := ofFraction? false n 1

/-- The power of ten, rounded. -/
def tenTo? (k : Nat) : Option Binary64 := ofNat? (Nat.pow 10 k)

/-- The rounded product. -/
def mul? (x y : Binary64) : Option Binary64 :=
  let a := x.fraction
  let b := y.fraction
  ofFraction? (x.negative != y.negative) (a.1 * b.1) (a.2 * b.2)

/-- The rounded quotient by a number other than zero. -/
def div? (x y : Binary64) : Option Binary64 :=
  let a := x.fraction
  let b := y.fraction
  ofFraction? (x.negative != y.negative) (a.1 * b.2) (a.2 * b.1)

/-- Reads `digits · 10 ^ exponent`, rounding once. -/
def ofDecimal? (negative : Bool) (digits : Nat) (exponent : Int) : Option Binary64 :=
  if 0 ≤ exponent then ofFraction? negative (digits * Nat.pow 10 exponent.toNat) 1
  else ofFraction? negative digits (Nat.pow 10 (-exponent).toNat)

/-- Digits `d` and exponent `k` of a decimal `d · 10 ^ k`. -/
structure Digits where
  digits : Nat
  exponent : Int

/-- Whether the decimal reads back as the number `x`, up to sign. -/
def readsBackAs (x : Binary64) (d : Digits) : Bool :=
  ofDecimal? x.negative d.digits d.exponent = some x

/-- The two neighbours of `|x|` among the multiples of `10 ^ k`, the nearer one first. -/
def neighbours (x : Binary64) (k : Int) : List Digits :=
  let f := x.fraction
  let s := if 0 ≤ k then (f.1, f.2 * Nat.pow 10 k.toNat) else (f.1 * Nat.pow 10 (-k).toNat, f.2)
  let q := s.1 / s.2
  let r := s.1 % s.2
  if 2 * r < s.2 ∨ (2 * r = s.2 ∧ q % 2 = 0) then [⟨q, k⟩, ⟨q + 1, k⟩] else [⟨q + 1, k⟩, ⟨q, k⟩]

/-- The number of decimal digits of a natural number. -/
def digitCount (n : Nat) : Nat := (Numeral.decimal n).length

/-- The decimal exponent of the leading digit of `|x|`, for `x` other than zero. -/
def leadingExponent (x : Binary64) : Int :=
  let f := x.fraction
  if f.2 ≤ f.1 then (digitCount (f.1 / f.2) : Int) - 1
  else
    let k := digitCount (f.2 / f.1)
    if f.1 * Nat.pow 10 k < f.2 then -(k : Int) - 1
    else if f.2 ≤ f.1 * Nat.pow 10 (k - 1) then -(k : Int) + 1 else -(k : Int)

/-- Searches grids with more and more digits for a decimal that reads back. -/
def shortestFrom (x : Binary64) (lead : Int) (width : Nat) : Nat → Digits
  | 0 => ⟨x.mantissa, 0⟩
  | more + 1 =>
    match (neighbours x (lead - width + 1)).find? (readsBackAs x) with
    | some d => d
    | none => shortestFrom x lead (width + 1) more

/-- Strips trailing zeros from the digits. -/
def stripZeros (d : Digits) : Nat → Digits
  | 0 => d
  | n + 1 => if d.digits % 10 = 0 then stripZeros ⟨d.digits / 10, d.exponent + 1⟩ n else d

/-- The decimal with the fewest digits that reads back as `x`; seventeen always suffice. -/
def shortest (x : Binary64) : Digits :=
  stripZeros (shortestFrom x x.leadingExponent 1 17) 17

/-- Numbers from `10 ^ -5` up to `10 ^ 16` are written positionally, others with an exponent whose
sign always stands; a point or an exponent tells the text from an integer's. -/
def text (x : Binary64) : List Char :=
  let sign := if x.negative then ['-'] else []
  if x.mantissa = 0 then sign ++ ['0', '.', '0']
  else
    let d := x.shortest
    let ds := Numeral.decimal d.digits
    let e : Int := d.exponent + ds.length - 1
    if -5 ≤ e ∧ e < 16 then
      if 0 ≤ d.exponent then sign ++ ds ++ List.replicate d.exponent.toNat '0' ++ ['.', '0']
      else if 0 ≤ e then sign ++ ds.take (e.toNat + 1) ++ '.' :: ds.drop (e.toNat + 1)
      else sign ++ '0' :: '.' :: List.replicate ((-e).toNat - 1) '0' ++ ds
    else
      let tail := match ds.drop 1 with
        | [] => []
        | more => '.' :: more
      let power :=
        if 0 ≤ e then '+' :: Numeral.decimal e.toNat else '-' :: Numeral.decimal (-e).toNat
      sign ++ ds.take 1 ++ tail ++ 'e' :: power

end Binary64

end OpticalTestbed
