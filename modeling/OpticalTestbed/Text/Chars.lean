/-!
Character classes and splitting of text: blanks, ASCII letters and digits, lines, trimming and
substring tests. Everything is stated on lists of characters.
-/
namespace OpticalTestbed.Text

/-- The characters that count as blank: those with the Unicode property `White_Space`. -/
def isBlank (c : Char) : Bool :=
  let n := c.toNat
  (9 ≤ n && n ≤ 13) || n == 0x20 || n == 0x85 || n == 0xA0 || n == 0x1680 ||
    (0x2000 ≤ n && n ≤ 0x200A) || n == 0x2028 || n == 0x2029 || n == 0x202F || n == 0x205F ||
    n == 0x3000

/-- Maps `A` to `Z` to small letters and leaves every other character alone. -/
def lowerAscii (c : Char) : Char :=
  if 'A' ≤ c ∧ c ≤ 'Z' then Char.ofNat (c.toNat + 32) else c

/-- The value of an ASCII hexadecimal digit. -/
def hexValue? (c : Char) : Option Nat :=
  if '0' ≤ c ∧ c ≤ '9' then some (c.toNat - 48)
  else if 'a' ≤ c ∧ c ≤ 'f' then some (c.toNat - 87)
  else if 'A' ≤ c ∧ c ≤ 'F' then some (c.toNat - 55)
  else none

def isHexDigit (c : Char) : Bool := (hexValue? c).isSome

/-- The hexadecimal digit of a value below 16, in small letters. -/
def hexDigit (n : Nat) : Char :=
  if n < 10 then Char.ofNat (48 + n) else Char.ofNat (87 + n)

def isAsciiDigit (c : Char) : Bool := '0' ≤ c && c ≤ '9'

/-- Drops blanks at the front. -/
def trimStart (cs : List Char) : List Char := cs.dropWhile isBlank

/-- Drops the longest tail whose members all pass the test. -/
def dropTailWhile {α : Type} (p : α → Bool) (xs : List α) : List α :=
  (xs.reverse.dropWhile p).reverse

/-- Drops blanks at both ends. -/
def trim (cs : List Char) : List Char := dropTailWhile isBlank (trimStart cs)

/-- What follows `pat` when the text starts with it. -/
def stripFront? : List Char → List Char → Option (List Char)
  | [], cs => some cs
  | _ :: _, [] => none
  | p :: ps, c :: cs => if p = c then stripFront? ps cs else none

def startsWith (pat cs : List Char) : Bool := (stripFront? pat cs).isSome

/-- Splits at the first occurrence of `pat`: what stands before it and what follows it. -/
def cutAt? (pat : List Char) : List Char → Option (List Char × List Char)
  | [] => (stripFront? pat []).map ([], ·)
  | c :: cs =>
    match stripFront? pat (c :: cs) with
    | some rest => some ([], rest)
    | none => (cutAt? pat cs).map (fun e => (c :: e.1, e.2))

/-- Whether `pat` occurs in the text. -/
def contains (pat : List Char) : List Char → Bool
  | [] => startsWith pat []
  | c :: cs => startsWith pat (c :: cs) || contains pat cs

/-- The pieces between the occurrences of a separator; there is always at least one. -/
def splitOn (sep : Char) : List Char → List (List Char)
  | [] => [[]]
  | c :: cs =>
    if c = sep then [] :: splitOn sep cs
    else match splitOn sep cs with
      | [] => [[c]]
      | piece :: pieces => (c :: piece) :: pieces

/-- Drops one carriage return at the end. -/
def dropCarriageReturn (cs : List Char) : List Char :=
  if cs.getLast? = some '\r' then cs.dropLast else cs

/-- The lines of a text. A line ends at a newline, together with a carriage return right before
it; text after the last newline is a line too, kept as it is. -/
def lines (cs : List Char) : List (List Char) :=
  go (splitOn '\n' cs)
where
  go : List (List Char) → List (List Char)
    | [] => []
    | [last] => if last.isEmpty then [] else [last]
    | piece :: pieces => dropCarriageReturn piece :: go pieces

/-- Joins pieces with a separator between them. -/
def join (sep : List Char) : List (List Char) → List Char
  | [] => []
  | [piece] => piece
  | piece :: pieces => piece ++ sep ++ join sep pieces

end OpticalTestbed.Text

namespace OpticalTestbed

/-- A text without the blanks at its ends. -/
def trimmed (s : String) : String := String.ofList (Text.trim s.toList)

/-- Joins texts with a separator between them. -/
def joined (sep : String) (parts : List String) : String :=
  String.ofList (Text.join sep.toList (parts.map String.toList))

end OpticalTestbed
