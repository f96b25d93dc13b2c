import OpticalTestbed.Text.Chars
/-!
Labels outside ASCII are written in ASCII as their ASCII characters, a hyphen, and digits that say
which other characters stand where. The digits are numbers without marks between them: a digit
below a threshold ends a number, and the thresholds follow the size of the numbers read so far.
-/
namespace OpticalTestbed.HostName.Punycode

/-- The value of a small letter or a digit in base 36. -/
def digitValue? (c : Char) : Option Nat :=
  if 'a' ≤ c ∧ c ≤ 'z' then some (c.toNat - 97)
  else if Text.isAsciiDigit c then some (c.toNat - 22)
  else none

/-- A digit below the threshold is the last of its number. -/
def threshold (bias column : Nat) : Nat := max 1 (min 26 (36 * column - bias))

/-- The thresholds' bias after numbers of a given size. -/
def biasOf (size : Nat) : Nat :=
  if size ≤ 455 then 36 * size / (size + 38) else 36 + biasOf (size / 35)
termination_by size

/-- The bias after a number, when so many characters are in place. The first number is large as a
rule and counts less. -/
def adapted (number count : Nat) (isFirst : Bool) : Nat :=
  let size := if isFirst then number / 700 else number / 2
  biasOf (size + size / count)

/-- What is known between two digits: the characters in place, the code point and the place that
the next number counts from, the bias, and of the number itself its value so far and the weight and
column of its next digit. -/
structure Decoder where
  letters : List Char
  code : Nat
  place : Nat
  bias : Nat
  number : Nat
  weight : Nat
  column : Nat

/-- The start, with the ASCII characters in place. -/
def Decoder.start (letters : List Char) : Decoder := ⟨letters, 128, 0, 72, 0, 1, 1⟩

/-- Ends a number. It counts places in the text, each round of places for the next code point. -/
def Decoder.insert? (d : Decoder) : Option Decoder :=
  let count := d.letters.length + 1
  let total := d.place + d.number
  let code := d.code + total / count
  let place := total % count
  if code.isValidChar then
    some ⟨d.letters.take place ++ Char.ofNat code :: d.letters.drop place, code, place + 1,
      adapted d.number count (d.place = 0), 0, 1, 1⟩
  else none

/-- Reads one digit. -/
def Decoder.read? (d : Decoder) (c : Char) : Option Decoder :=
  match digitValue? c with
  | none => none
  | some digit =>
    let limit := threshold d.bias d.column
    let next := { d with number := d.number + digit * d.weight }
    if digit < limit then next.insert?
    else some { next with weight := d.weight * (36 - limit), column := d.column + 1 }

/-- The ASCII characters and the digits: what is on either side of the last hyphen. A hyphen in
front separates nothing. -/
def divided (cs : List Char) : List Char × List Char :=
  let digits := (cs.reverse.takeWhile (· ≠ '-')).reverse
  let letters := cs.take (cs.length - digits.length - 1)
  if letters.isEmpty then ([], cs) else (letters, digits)

/-- The label that a text in small letters writes in ASCII. -/
def decode? (cs : List Char) : Option (List Char) :=
  let (letters, digits) := divided cs
  match digits.foldlM Decoder.read? (Decoder.start letters) with
  | some d => if d.column = 1 then some d.letters else none
  | none => none

end OpticalTestbed.HostName.Punycode
