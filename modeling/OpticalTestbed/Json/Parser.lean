import OpticalTestbed.Json.Basic
/-!
Reading JSON texts. A number with a fraction or an exponent, or one beyond 64 bits, is read as its
leading digits (as many as fit 64 bits) scaled by a rounded power of ten.
-/
namespace OpticalTestbed.Json

/-- Blanks between tokens. -/
def skipSpace (cs : List Char) : List Char :=
  cs.dropWhile (fun c => c = ' ' ∨ c = '\n' ∨ c = '\t' ∨ c = '\r')

/-- Scales a number by a power of ten in at most two rounded steps, the way readers with a table
of powers up to `10 ^ 308` do; nothing if the result is too large. -/
def scaleByTen? (x : Binary64) (exponent : Int) : Option Binary64 :=
  if 0 ≤ exponent then
    if exponent ≤ 308 then (Binary64.tenTo? exponent.toNat).bind x.mul?
    else if x.mantissa = 0 then some x else none
  else go x (-exponent).toNat ((-exponent).toNat / 308)
where
  /-- Divides by `10 ^ 308` while the remaining exponent is larger than that. -/
  go (x : Binary64) (k : Nat) : Nat → Option Binary64
    | 0 => (Binary64.tenTo? k).bind x.div?
    | n + 1 =>
      if k ≤ 308 then (Binary64.tenTo? k).bind x.div?
      else if x.mantissa = 0 then some x
      else (Binary64.tenTo? 308).bind x.div? |>.bind (go · (k - 308) n)

/-- The signed number with these leading digits and power of ten. -/
def realOf? (negative : Bool) (digits : Nat) (exponent : Int) : Option Json := do
  let x ← Binary64.ofNat? digits
  let y ← scaleByTen? x exponent
  return real { y with negative }

/-- A digit run: the digits that fit 64 bits after those of `acc`, how many there are, how many
more do not fit, and the rest of the text. -/
def takeDigits (acc : Nat) : List Char → Nat × Nat × Nat × List Char
  | [] => (acc, 0, 0, [])
  | c :: cs =>
    if Text.isAsciiDigit c then
      let next := acc * 10 + (c.toNat - 48)
      if next ≤ max64 then
        let (v, kept, lost, rest) := takeDigits next cs
        (v, kept + 1, lost, rest)
      else
        let rest := cs.dropWhile Text.isAsciiDigit
        (acc, 0, (c :: cs).length - rest.length, rest)
    else (acc, 0, 0, c :: cs)

/-- The exponent part after its letter. -/
def exponent? (cs : List Char) : Option (Int × List Char) :=
  let (negative, cs) := match cs with
    | '-' :: r => (true, r)
    | '+' :: r => (false, r)
    | _ => (false, cs)
  let ds := cs.takeWhile Text.isAsciiDigit
  match Numeral.value? 10 ds with
  | none => none
  | some n => some (if negative then -(n : Int) else n, cs.dropWhile Text.isAsciiDigit)

/-- A number with these leading digits and power of ten, before an optional exponent part. -/
def scaled? (negative : Bool) (digits : Nat) (power : Int) (cs : List Char) :
    Option (Json × List Char) :=
  let finish (e : Int) (rest : List Char) : Option (Json × List Char) :=
    if digits = 0 then some (real (Binary64.zero negative), rest)
    else if (max32 : Int) < e.natAbs then
      if 0 ≤ e then none else some (real (Binary64.zero negative), rest)
    else (realOf? negative digits (power + e)).map (·, rest)
  match cs with
  | c :: r =>
    if c = 'e' ∨ c = 'E' then
      match exponent? r with
      | some (e, rest) => finish e rest
      | none => none
    else finish 0 cs
  | [] => finish 0 []

/-- A number after its sign. -/
def unsigned? (negative : Bool) (cs : List Char) : Option (Json × List Char) :=
  let afterInteger (digits lost : Nat) (rest : List Char) : Option (Json × List Char) :=
    match rest with
    | '.' :: r =>
      let (v, kept, more, rest') := takeDigits digits r
      if kept + more = 0 then none
      else scaled? negative v ((lost : Int) - kept) rest'
    | 'e' :: _ | 'E' :: _ => scaled? negative digits lost rest
    | _ =>
      if 0 < lost then scaled? negative digits lost rest
      else if negative then
        if 0 < digits ∧ digits ≤ Nat.pow 2 63 then some (int (-(digits : Int)), rest)
        else scaled? true digits 0 rest
      else some (int digits, rest)
  match cs with
  | '0' :: r =>
    match r with
    | c :: _ => if Text.isAsciiDigit c then none else afterInteger 0 0 r
    | [] => afterInteger 0 0 r
  | c :: r =>
    if Text.isAsciiDigit c then
      let (v, _, lost, rest) := takeDigits 0 (c :: r)
      afterInteger v lost rest
    else none
  | [] => none

/-- Four hexadecimal digits. -/
def hex4? : List Char → Option (Nat × List Char)
  | a :: b :: c :: d :: rest => (Numeral.value? 16 [a, b, c, d]).map (·, rest)
  | _ => none

/-- The character behind `\u`; a high surrogate needs a low one right after it. -/
def unicodeEscape? (cs : List Char) : Option (Char × List Char) :=
  match hex4? cs with
  | none => none
  | some (n, rest) =>
    if 0xD800 ≤ n ∧ n < 0xDC00 then
      match rest with
      | '\\' :: 'u' :: more =>
        match hex4? more with
        | some (m, rest') =>
          if 0xDC00 ≤ m ∧ m < 0xE000 then
            some (Char.ofNat (0x10000 + (n - 0xD800) * 0x400 + (m - 0xDC00)), rest')
          else none
        | none => none
      | _ => none
    else if 0xDC00 ≤ n ∧ n < 0xE000 then none
    else some (Char.ofNat n, rest)

/-- The inside of a quoted text up to the closing quote; `acc` holds what was read, reversed. -/
def chars? : Nat → List Char → List Char → Option (String × List Char)
  | 0, _, _ => none
  | n + 1, cs, acc =>
    match cs with
    | [] => none
    | '"' :: rest => some (String.ofList acc.reverse, rest)
    | '\\' :: 'u' :: rest =>
      match unicodeEscape? rest with
      | some (c, rest') => chars? n rest' (c :: acc)
      | none => none
    | '\\' :: c :: rest =>
      match c with
      | '"' => chars? n rest ('"' :: acc)
      | '\\' => chars? n rest ('\\' :: acc)
      | '/' => chars? n rest ('/' :: acc)
      | 'b' => chars? n rest (Char.ofNat 8 :: acc)
      | 'f' => chars? n rest (Char.ofNat 12 :: acc)
      | 'n' => chars? n rest ('\n' :: acc)
      | 'r' => chars? n rest ('\r' :: acc)
      | 't' => chars? n rest ('\t' :: acc)
      | _ => none
    | c :: rest => if c.toNat < 32 then none else chars? n rest (c :: acc)

mutual

/-- One value at the front of the text, nested at most `depth` levels deep. -/
def value? : Nat → Nat → List Char → Option (Json × List Char)
  | 0, _, _ => none
  | n + 1, depth, cs =>
    match skipSpace cs with
    | 'n' :: 'u' :: 'l' :: 'l' :: rest => some (null, rest)
    | 't' :: 'r' :: 'u' :: 'e' :: rest => some (bool true, rest)
    | 'f' :: 'a' :: 'l' :: 's' :: 'e' :: rest => some (bool false, rest)
    | '"' :: rest => (chars? (rest.length + 1) rest []).map (fun e => (str e.1, e.2))
    | '-' :: rest => unsigned? true rest
    | '[' :: rest =>
      match depth with
      | 0 => none
      | depth + 1 =>
        match skipSpace rest with
        | ']' :: rest' => some (arr [], rest')
        | _ => (arrayItems? n depth rest).map (fun e => (arr e.1, e.2))
    | '{' :: rest =>
      match depth with
      | 0 => none
      | depth + 1 =>
        match skipSpace rest with
        | '}' :: rest' => some (obj [], rest')
        | _ => (objectMembers? n depth rest Dict.empty).map (fun e => (ofDict e.1, e.2))
    | cs' => unsigned? false cs'

/-- The items of an array, one at least, up to its bracket. -/
def arrayItems? : Nat → Nat → List Char → Option (List Json × List Char)
  | 0, _, _ => none
  | n + 1, depth, cs =>
    match value? n depth cs with
    | none => none
    | some (v, rest) =>
      match skipSpace rest with
      | ']' :: rest' => some ([v], rest')
      | ',' :: rest' => (arrayItems? n depth rest').map (fun e => (v :: e.1, e.2))
      | _ => none

/-- The members of an object, one at least, up to its brace; of two with one name the later
stands. -/
def objectMembers? :
    Nat → Nat → List Char → Dict String Json → Option (Dict String Json × List Char)
  | 0, _, _, _ => none
  | n + 1, depth, cs, acc =>
    match skipSpace cs with
    | '"' :: rest =>
      match chars? (rest.length + 1) rest [] with
      | none => none
      | some (name, rest) =>
        match skipSpace rest with
        | ':' :: rest =>
          match value? n depth rest with
          | none => none
          | some (v, rest) =>
            match skipSpace rest with
            | '}' :: rest' => some (acc.insert name v, rest')
            | ',' :: rest' => objectMembers? n depth rest' (acc.insert name v)
            | _ => none
        | _ => none
    | _ => none

end

/-- Reads a whole text as one value, nested at most 127 levels deep. -/
def ofText? (s : String) : Option Json :=
  let cs := s.toList
  match value? (2 * cs.length + 2) 127 cs with
  | some (v, rest) => if (skipSpace rest).isEmpty then some v else none
  | none => none

end OpticalTestbed.Json
