import OpticalTestbed.Text.Chars
import OpticalTestbed.Text.DecimalDigit
/-!
What the readers of `sys.config` look for in a line: eight octets with delimiters, and a word
followed by a run of digits.
-/
namespace OpticalTestbed.SysConfig

/-- `n` octets at the front of a text, each followed by a delimiter, and one more. The delimiters
are part of what is returned. -/
def octetsAtFront? : Nat → List Char → Option (List Char)
  | 0, a :: b :: _ => if Text.isHexDigit a && Text.isHexDigit b then some [a, b] else none
  | n + 1, a :: b :: d :: rest =>
    if Text.isHexDigit a && Text.isHexDigit b && (d = ':' || d = '-') then
      (octetsAtFront? n rest).map (fun tail => a :: b :: d :: tail)
    else none
  | _, _ => none

/-- The leftmost eight delimited octets of a line. -/
def delimitedOctets? : List Char → Option (List Char)
  | [] => none
  | c :: cs =>
    match octetsAtFront? 7 (c :: cs) with
    | some found => some found
    | none => delimitedOctets? cs

/-- The run of decimal digits that follows `word` at the front of a text. -/
def digitsAfter? (word cs : List Char) : Option (List Char) :=
  match Text.stripFront? word cs with
  | some rest =>
    match rest.takeWhile Text.isDecimalDigit with
    | [] => none
    | digits => some digits
  | none => none

/-- The digit runs of all the places where `word` is followed by digits, from left to right. -/
def numbersAfter (word : List Char) : List Char → List (List Char)
  | [] => []
  | c :: cs =>
    match digitsAfter? word (c :: cs) with
    | some digits => digits :: numbersAfter word cs
    | none => numbersAfter word cs

/-- The word that taps are named with. -/
def tapWord : List Char := ['t', 'a', 'p']

/-- The word in front of an internal port index. -/
def portWord : List Char := ['p', 'o', 'r', 't', ',']

/-- The word that begins the block of a logical switch. -/
def switchWord : List Char := ['s', 'w', 'i', 't', 'c', 'h']

/-- The tap names in a text, from left to right. -/
def tapNames (cs : List Char) : List (List Char) := (numbersAfter tapWord cs).map (tapWord ++ ·)

end OpticalTestbed.SysConfig
