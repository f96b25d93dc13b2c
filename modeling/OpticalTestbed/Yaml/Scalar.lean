import OpticalTestbed.Json.Basic
import OpticalTestbed.Text.Numeral
/-!
What a text without quotes stands for: nothing, a truth value, a whole number, a decimal one, or
itself. Digits with a leading zero are no number.
-/
namespace OpticalTestbed.Yaml.Scalar

def isNull (text : String) : Bool :=
  text.isEmpty || text = "null" || text = "Null" || text = "NULL" || text = "~"

def bool? (text : String) : Option Bool :=
  match text with
  | "true" | "True" | "TRUE" => some true
  | "false" | "False" | "FALSE" => some false
  | _ => none

def isSign (c : Char) : Bool := c = '+' || c = '-'

/-- Drops one sign. -/
def unsigned : List Char → List Char
  | c :: cs => if isSign c then cs else c :: cs
  | [] => []

/-- Whether the text is a zero with more digits behind it. -/
def hasLeadingZero (cs : List Char) : Bool :=
  match unsigned cs with
  | '0' :: more => !more.isEmpty && more.all Text.isAsciiDigit
  | _ => false

/-- Digits behind the mark of a base. -/
def marked? : List Char → Option Nat
  | '0' :: 'x' :: digits => Numeral.value? 16 digits
  | '0' :: 'o' :: digits => Numeral.value? 8 digits
  | '0' :: 'b' :: digits => Numeral.value? 2 digits
  | _ => none

/-- A whole number without a minus sign, of whatever size. -/
def magnitude? (cs : List Char) : Option Nat :=
  let digits := match cs with
    | '+' :: rest => rest
    | _ => cs
  (marked? digits).or (if hasLeadingZero cs then none else Numeral.value? 10 digits)

/-- The absolute value of a whole number with a minus sign. -/
def negated? : List Char → Option Nat
  | '-' :: digits =>
    (marked? digits).or (if hasLeadingZero digits then none else Numeral.value? 10 digits)
  | _ => none

/-- A whole number of up to 64 bits without a minus sign. -/
def nat? (text : String) : Option Nat := (magnitude? text.toList).filter (· ≤ max64)

/-- What a whole number is read as: one that fits 64 bits, one that fits 128 bits only, or none. -/
inductive Whole where
  | fits (n : Int)
  | tooWide
  | no

def whole (cs : List Char) : Whole :=
  match magnitude? cs, negated? cs with
  | some n, _ => if n ≤ max64 then .fits n else if n < Nat.pow 2 128 then .tooWide else .no
  | none, some n =>
    if n ≤ Nat.pow 2 63 then .fits (-(n : Int))
    else if n ≤ Nat.pow 2 127 then .tooWide
    else .no
  | none, none => .no

/-- Digits, and what follows them. -/
def digitsAndRest (cs : List Char) : List Char × List Char :=
  (cs.takeWhile Text.isAsciiDigit, cs.dropWhile Text.isAsciiDigit)

/-- An exponent behind its letter. -/
def exponent? (cs : List Char) : Option Int :=
  let negative := cs.head? = some '-'
  (Numeral.value? 10 (unsigned cs)).map (fun n => if negative then -(n : Int) else n)

/-- A decimal with digits before or behind the point, and an optional exponent: its digits and the
power of ten that they are multiplied with. -/
def decimal? (cs : List Char) : Option (List Char × Int) :=
  let (before, rest) := digitsAndRest cs
  let (after, rest) := match rest with
    | '.' :: r => digitsAndRest r
    | _ => ([], rest)
  if before.isEmpty && after.isEmpty then none
  else
    let power : Int := -(after.length : Int)
    match rest with
    | [] => some (before ++ after, power)
    | 'e' :: e | 'E' :: e => (exponent? e).map (fun n => (before ++ after, power + n))
    | _ => none

/-- The number nearest to a decimal; nothing if it is too large. -/
def nearest? (negative : Bool) (digits : List Char) (power : Int) : Option Binary64 :=
  let significant := digits.dropWhile (· = '0')
  let lead : Int := significant.length + power
  match Numeral.value? 10 significant with
  | none => some (.zero negative)
  | some n =>
    if lead < -400 then some (.zero negative)
    else if 400 < lead then none
    else Binary64.ofDecimal? negative n power

/-- A decimal with an optional sign. -/
def real? (cs : List Char) : Option Binary64 :=
  (decimal? (unsigned cs)).bind (fun d => nearest? (cs.head? = some '-') d.1 d.2)

/-- The spellings of what is no finite number. -/
def isInfinite (text : String) : Bool :=
  [".inf", ".Inf", ".INF", "+.inf", "+.Inf", "+.INF", "-.inf", "-.Inf", "-.INF",
    ".nan", ".NaN", ".NAN"].contains text

/-- The value as JSON, which has no number that is not finite and none that is too wide. -/
def json? (text : String) : Option Json :=
  let cs := text.toList
  if isNull text then some .null
  else match bool? text with
    | some b => some (.bool b)
    | none =>
      match whole cs with
      | .fits n => some (.int n)
      | .tooWide => none
      | .no =>
        if hasLeadingZero cs then some (.str text)
        else if isInfinite text then some .null
        else match real? cs with
          | some x => some (.real x)
          | none => some (.str text)

end OpticalTestbed.Yaml.Scalar
