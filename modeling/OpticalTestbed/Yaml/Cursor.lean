import OpticalTestbed.Text.Chars
/-!
Positions in a YAML text, and what may stand between its tokens: blanks, comments and line breaks.
-/
namespace OpticalTestbed.Yaml

/-- A position by line and column. -/
structure Position where
  line : Nat
  column : Nat
  /-- How many bytes come before. -/
  offset : Nat

namespace Position

def start : Position := ⟨0, 0, 0⟩

end Position

/-- A position and the text from there on. -/
structure Cursor where
  position : Position
  rest : List Char

/-- The breaks that end a line. A carriage return counts as a newline and is none of them. -/
def isBreak (c : Char) : Bool := c = '\n' || c = '\u2028' || c = '\u2029'

def isSpace (c : Char) : Bool := c = ' ' || c = '\t'

/-- Whether a text is at its end, at a blank or at a break. -/
def atGap : List Char → Bool
  | [] => true
  | c :: _ => isSpace c || isBreak c

/-- The position after a character. -/
def Position.next (p : Position) (c : Char) : Position :=
  if isBreak c then ⟨p.line + 1, 0, p.offset + c.utf8Size⟩
  else ⟨p.line, p.column + 1, p.offset + c.utf8Size⟩

/-- Whether a text starts with the mark that begins or ends a document. -/
def atMark (mark : Char) : List Char → Bool
  | a :: b :: c :: rest => a = mark && b = mark && c = mark && atGap rest
  | _ => false

/-- Whether the text at a position is the beginning or the end of a document. -/
def atDocumentMark (p : Position) (cs : List Char) : Bool :=
  p.column = 0 && (atMark '-' cs || atMark '.' cs)

/-- A mark of the byte order, which may begin any line and takes up a column there. -/
def isByteOrderMark (c : Char) : Bool := c = '\ufeff'

namespace Cursor

/-- The cursor after the next character. -/
def advance (u : Cursor) : Cursor :=
  match u.rest with
  | [] => u
  | c :: cs => ⟨u.position.next c, cs⟩

/-- Skips blanks, comments and breaks. Outside brackets a tab may not stand where a key could, and a
key could stand on any new line. -/
def skipFrom (inBrackets : Bool) : (comment tabs : Bool) → Position → List Char → Cursor
  | _, _, p, [] => ⟨p, []⟩
  | comment, tabs, p, c :: cs =>
    if isBreak c then skipFrom inBrackets false (tabs && inBrackets) (p.next c) cs
    else if comment || c = '#' then skipFrom inBrackets true tabs (p.next c) cs
    else if c = ' ' || (c = '\t' && tabs) || (p.column = 0 && isByteOrderMark c) then
      skipFrom inBrackets false tabs (p.next c) cs
    else ⟨p, c :: cs⟩

/-- Skips what stands between two tokens; `tabs` tells whether tabs may stand right here. -/
def skip (u : Cursor) (inBrackets tabs : Bool) : Cursor :=
  skipFrom inBrackets false tabs u.position u.rest

end Cursor

/-- Gives all line ends one form: a carriage return, alone or before a newline, becomes one. -/
def unifyBreaks : List Char → List Char
  | [] => []
  | '\r' :: '\n' :: cs => '\n' :: unifyBreaks cs
  | c :: cs => (if c = '\r' || c = '\u0085' then '\n' else c) :: unifyBreaks cs

/-- Whether a character may occur in a text at all. -/
def isPrintable (c : Char) : Bool :=
  let n := c.toNat
  n = 9 || n = 10 || n = 13 || (0x20 ≤ n && n ≤ 0x7E) || n = 0x85 || (0xA0 ≤ n && n ≤ 0xD7FF) ||
    (0xE000 ≤ n && n ≤ 0xFFFD) || 0x10000 ≤ n

/-- The characters of a text with unified breaks; nothing if one of them may not occur. -/
def charactersOf? (text : String) : Option (List Char) :=
  let cs := text.toList
  if cs.all isPrintable then some (unifyBreaks cs) else none

end OpticalTestbed.Yaml
