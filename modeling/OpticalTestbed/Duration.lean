import OpticalTestbed.Text.Numeral
/-!
Durations in whole nanoseconds, their technical text (`1.5ms`), and the form people write
(`1m 30s`).
-/
namespace OpticalTestbed

structure Duration where
  nanos : Nat
  deriving DecidableEq

namespace Duration

def perSecond : Nat := 1000000000

/-- So many seconds and nanoseconds. -/
def ofParts (seconds nanos : Nat) : Duration := ⟨seconds * perSecond + nanos⟩

def ofSeconds (seconds : Nat) : Duration := ofParts seconds 0

def zero : Duration := ⟨0⟩

def seconds (d : Duration) : Nat := d.nanos / perSecond

def subsecondNanos (d : Duration) : Nat := d.nanos % perSecond

/-- Whether the seconds fit 64 bits. -/
def isRepresentable (d : Duration) : Bool := d.seconds ≤ max64

/-- A whole number, then the fraction `part / 10 ^ places` without trailing zeros. -/
def withFraction (whole part places : Nat) : List Char :=
  let digits := Numeral.decimal part
  let padded := List.replicate (places - digits.length) '0' ++ digits
  let kept := Text.dropTailWhile (· = '0') padded
  if kept.isEmpty then Numeral.decimal whole else Numeral.decimal whole ++ '.' :: kept

/-- The text in the largest unit that has a whole part. -/
def text (d : Duration) : String :=
  let n := d.nanos
  String.ofList <|
    if perSecond ≤ n then withFraction (n / perSecond) (n % perSecond) 9 ++ ['s']
    else if 1000000 ≤ n then withFraction (n / 1000000) (n % 1000000) 6 ++ ['m', 's']
    else if 1000 ≤ n then withFraction (n / 1000) (n % 1000) 3 ++ ['µ', 's']
    else Numeral.decimal n ++ ['n', 's']

/-- The units of the written form. Months and years are average ones. -/
inductive TimeUnit where
  | nano | micro | milli | second | minute | hour | day | week | month | year
  deriving DecidableEq

def TimeUnit.ofName? : String → Option TimeUnit
  | "nanos" | "nsec" | "ns" => some .nano
  | "usec" | "us" | "µs" => some .micro
  | "millis" | "msec" | "ms" => some .milli
  | "seconds" | "second" | "secs" | "sec" | "s" => some .second
  | "minutes" | "minute" | "min" | "mins" | "m" => some .minute
  | "hours" | "hour" | "hr" | "hrs" | "h" => some .hour
  | "days" | "day" | "d" => some .day
  | "weeks" | "week" | "wk" | "wks" | "w" => some .week
  | "months" | "month" | "M" => some .month
  | "years" | "year" | "yr" | "yrs" | "y" => some .year
  | _ => none

/-- How many nanoseconds a unit below the second has, or how many seconds one from there on. -/
def TimeUnit.factor : TimeUnit → Nat
  | .nano => 1
  | .micro => 1000
  | .milli => 1000000
  | .second => 1
  | .minute => 60
  | .hour => 3600
  | .day => 86400
  | .week => 604800
  | .month => 2630016
  | .year => 31557600

/-- Whether the factor counts nanoseconds. -/
def TimeUnit.belowSecond : TimeUnit → Bool
  | .nano | .micro | .milli => true
  | _ => false

/-- A product that must fit 64 bits. -/
def product? (a b : Nat) : Option Nat := if a * b ≤ max64 then some (a * b) else none

/-- Adds seconds and nanoseconds; nothing if the seconds outgrow 64 bits. -/
def add? (d : Duration) (seconds nanos : Nat) : Option Duration :=
  let sum : Duration := ⟨d.nanos + seconds * perSecond + nanos⟩
  if d.subsecondNanos + nanos ≤ max64 ∧ sum.isRepresentable then some sum else none

/-- A quotient that must come out even. -/
def quotient? (a b : Nat) : Option Nat := if a % b = 0 then some (a / b) else none

/-- The fraction of a unit: seconds and nanoseconds in `part / whole` of it. The fraction of a unit
from the hour on must be full seconds, that of a smaller one full nanoseconds, and a nanosecond has
no fraction. -/
def TimeUnit.share? (u : TimeUnit) (part whole : Nat) : Option (Nat × Nat) :=
  let share (factor : Nat) := (product? part factor).bind (quotient? · whole)
  match u with
  | .nano => none
  | .micro | .milli => (share u.factor).map (0, ·)
  | .second | .minute => (share (u.factor * perSecond)).map (0, ·)
  | _ => (share u.factor).map (·, 0)

/-- Adds a number of units, with an optional fraction `(part, whole)`. -/
def addUnits? (d : Duration) (unit : List Char) (n : Nat) (fraction : Option (Nat × Nat)) :
    Option Duration := do
  let u ← TimeUnit.ofName? (String.ofList unit)
  let k ← product? n u.factor
  let d ← if u.belowSecond then d.add? 0 k else d.add? k 0
  match fraction with
  | none => some d
  | some (part, whole) => do
    let (s, ns) ← u.share? part whole
    d.add? s ns

/-- A letter that a unit may hold. -/
def isUnitLetter (c : Char) : Bool :=
  ('a' ≤ c && c ≤ 'z') || ('A' ≤ c && c ≤ 'Z') || c = 'µ'

/-- What the reader of the written form is inside of. -/
inductive Reading where
  | gap
  | number (n : Nat)
  | fraction (n part whole : Nat)
  | unit (n : Nat) (fraction : Option (Nat × Nat)) (name : List Char)

/-- Reads one character after another; a number of units is added when its unit ends. -/
def readFrom : Reading → Duration → List Char → Option Duration
  | .gap, d, [] => some d
  | .gap, d, c :: cs =>
    if Text.isAsciiDigit c then readFrom (.number (c.toNat - 48)) d cs
    else if Text.isBlank c then readFrom .gap d cs
    else none
  | .number _, _, [] => none
  | .number n, d, c :: cs =>
    if Text.isAsciiDigit c then
      let n' := n * 10 + (c.toNat - 48)
      if n' ≤ max64 then readFrom (.number n') d cs else none
    else if Text.isBlank c then readFrom (.number n) d cs
    else if isUnitLetter c then readFrom (.unit n none [c]) d cs
    else if c = '.' then readFrom (.fraction n 0 1) d cs
    else none
  | .fraction .., _, [] => none
  | .fraction n part whole, d, c :: cs =>
    if Text.isAsciiDigit c then
      let part' := part * 10 + (c.toNat - 48)
      if whole * 10 ≤ max64 ∧ part' ≤ max64 then readFrom (.fraction n part' (whole * 10)) d cs
      else none
    else if Text.isBlank c then readFrom (.fraction n part whole) d cs
    else if isUnitLetter c ∧ 1 < whole then readFrom (.unit n (some (part, whole)) [c]) d cs
    else none
  | .unit n f name, d, [] => addUnits? d name.reverse n f
  | .unit n f name, d, c :: cs =>
    if Text.isAsciiDigit c then
      match addUnits? d name.reverse n f with
      | some d' => readFrom (.number (c.toNat - 48)) d' cs
      | none => none
    else if Text.isBlank c then
      match addUnits? d name.reverse n f with
      | some d' => readFrom .gap d' cs
      | none => none
    else if isUnitLetter c then readFrom (.unit n f (c :: name)) d cs
    else none

/-- Reads the written form: `0`, or numbers with units whose values are summed. -/
def ofWritten? (s : String) : Option Duration :=
  if s = "0" then some zero
  else if s.toList.all Text.isBlank then none
  else readFrom .gap zero s.toList

/-- One part of the written form; a part of zero is left out. -/
def item (n : Nat) (unit : String) : List String :=
  if n = 0 then [] else [decimalText n ++ unit]

/-- A part whose unit takes an `s` unless there is one of it. -/
def pluralItem (n : Nat) (unit : String) : List String :=
  if n = 1 then [decimalText n ++ unit] else item n (unit ++ "s")

/-- The written form, from years down to nanoseconds. -/
def written (d : Duration) : String :=
  let secs := d.seconds
  let nanos := d.subsecondNanos
  if d.nanos = 0 then "0s"
  else
    let inYear := secs % 31557600
    let inMonth := inYear % 2630016
    let inDay := inMonth % 86400
    joined " " <|
      pluralItem (secs / 31557600) "year" ++ pluralItem (inYear / 2630016) "month" ++
      pluralItem (inMonth / 86400) "day" ++ item (inDay / 3600) "h" ++
      item (inDay % 3600 / 60) "m" ++ item (inDay % 60) "s" ++
      item (nanos / 1000000) "ms" ++ item (nanos / 1000 % 1000) "us" ++ item (nanos % 1000) "ns"

end Duration

end OpticalTestbed
