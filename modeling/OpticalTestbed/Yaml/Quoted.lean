import OpticalTestbed.Text.Numeral
import OpticalTestbed.Yaml.Fold
/-!
Texts in single and double quotes, which may run over several lines.
-/
namespace OpticalTestbed.Yaml

/-- Reads a text in single quotes, in which a quote is written twice; `held` tells that a quote has
just been read. -/
def singleFrom : (held : Bool) → List Char → Gap → Position → List Char → Option (String × Cursor)
  | held, acc, _, p, [] => if held then some (String.ofList acc.reverse, ⟨p, []⟩) else none
  | held, acc, gap, p, c :: cs =>
    if held then
      if c = '\'' then singleFrom false (c :: acc) .none (p.next c) cs
      else some (String.ofList acc.reverse, ⟨p, c :: cs⟩)
    else if isSpace c then singleFrom false acc (gap.addBlank c) (p.next c) cs
    else if isBreak c then singleFrom false acc (gap.addBreak c) (p.next c) cs
    else if atDocumentMark p (c :: cs) then none
    else if c = '\'' then singleFrom true (gap.onto acc) .none (p.next c) cs
    else singleFrom false (c :: gap.onto acc) .none (p.next c) cs

/-- The character that a backslash and a letter stand for. -/
def escaped? (c : Char) : Option Char :=
  match c with
  | '0' => some (Char.ofNat 0)
  | 'a' => some (Char.ofNat 7)
  | 'b' => some (Char.ofNat 8)
  | 't' | '\t' => some '\t'
  | 'n' => some '\n'
  | 'v' => some (Char.ofNat 11)
  | 'f' => some (Char.ofNat 12)
  | 'r' => some '\r'
  | 'e' => some (Char.ofNat 27)
  | ' ' => some ' '
  | '"' => some '"'
  | '/' => some '/'
  | '\\' => some '\\'
  | 'N' => some (Char.ofNat 0x85)
  | '_' => some (Char.ofNat 0xA0)
  | 'L' => some (Char.ofNat 0x2028)
  | 'P' => some (Char.ofNat 0x2029)
  | _ => none

/-- How many hexadecimal digits follow a backslash and a letter. -/
def escapeWidth? (c : Char) : Option Nat :=
  match c with
  | 'x' => some 2
  | 'u' => some 4
  | 'U' => some 8
  | _ => none

/-- What the reader of a text in double quotes is inside of. -/
inductive Reading where
  | text
  | escape
  /-- So many more hexadecimal digits are to come. -/
  | digits (left value : Nat)

/-- Reads a text in double quotes, in which a backslash escapes characters and line breaks. -/
def doubleFrom : Reading → List Char → Gap → Position → List Char → Option (String × Cursor)
  | _, _, _, _, [] => none
  | .escape, acc, _, p, c :: cs =>
    if isBreak c then doubleFrom .text acc (.broken none []) (p.next c) cs
    else match escaped? c, escapeWidth? c with
      | some d, _ => doubleFrom .text (d :: acc) .none (p.next c) cs
      | none, some width => doubleFrom (.digits width 0) acc .none (p.next c) cs
      | none, none => none
  | .digits left value, acc, _, p, c :: cs =>
    match Text.hexValue? c with
    | none => none
    | some d =>
      let value := value * 16 + d
      if 1 < left then doubleFrom (.digits (left - 1) value) acc .none (p.next c) cs
      else if (0xD800 ≤ value && value ≤ 0xDFFF) || 0x10FFFF < value then none
      else doubleFrom .text (Char.ofNat value :: acc) .none (p.next c) cs
  | .text, acc, gap, p, c :: cs =>
    if isSpace c then doubleFrom .text acc (gap.addBlank c) (p.next c) cs
    else if isBreak c then doubleFrom .text acc (gap.addBreak c) (p.next c) cs
    else if atDocumentMark p (c :: cs) then none
    else if c = '"' then some (String.ofList (gap.onto acc).reverse, ⟨p.next c, cs⟩)
    else if c = '\\' then doubleFrom .escape (gap.onto acc) .none (p.next c) cs
    else doubleFrom .text (c :: gap.onto acc) .none (p.next c) cs

/-- Reads a text in quotes; the cursor is at the opening one. -/
def quoted? (u : Cursor) : Option (String × Cursor) :=
  match u.rest with
  | '\'' :: cs => singleFrom false [] .none (u.position.next '\'') cs
  | '"' :: cs => doubleFrom .text [] .none (u.position.next '"') cs
  | _ => none

end OpticalTestbed.Yaml
