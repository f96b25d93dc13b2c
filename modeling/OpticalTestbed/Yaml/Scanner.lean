import OpticalTestbed.Yaml.BlockText
import OpticalTestbed.Yaml.Plain
import OpticalTestbed.Yaml.Quoted
import OpticalTestbed.Yaml.Token
/-!
Splitting a YAML text into tokens. Indentation becomes tokens of its own, and a token that turns out
to be a key gets its mark when the colon is found.
-/
namespace OpticalTestbed.Yaml

/-- A token that may turn out to be a key. -/
structure KeyMark where
  /-- How many tokens come before it. -/
  index : Nat
  position : Position
  /-- Whether nothing but a key may stand there. -/
  required : Bool

/-- How many bytes may lie between the beginning of a key and its colon. -/
def longestKey : Nat := 1024

/-- Whether a colon at a position can still make it a key. -/
def KeyMark.reaches (k : KeyMark) (p : Position) : Bool :=
  k.position.line = p.line && p.offset ≤ k.position.offset + longestKey

/-- A text that is being split. -/
structure Scanner where
  cursor : Cursor
  /-- The column of the innermost block; before the first column if there is none. -/
  indent : Int
  /-- The columns of the blocks around it, innermost first. -/
  around : List Int
  /-- How many brackets are open. -/
  depth : Nat
  /-- Whether a key may begin right here. -/
  keyAllowed : Bool
  /-- What may turn out to be a key inside the innermost brackets. -/
  mark : Option KeyMark
  /-- The same for the brackets around them, innermost first. -/
  marks : List (Option KeyMark)
  /-- The tokens so far, latest first. -/
  tokens : List Token
  count : Nat

namespace Scanner

def start (cs : List Char) : Scanner :=
  ⟨⟨.start, cs⟩, -1, [], 0, true, none, [], [], 0⟩

def inBrackets (s : Scanner) : Bool := 0 < s.depth

def column (s : Scanner) : Nat := s.cursor.position.column

def push (s : Scanner) (t : Token) : Scanner :=
  { s with tokens := t :: s.tokens, count := s.count + 1 }

/-- Puts a token before the one that `index` others come before. -/
def insert (s : Scanner) (index : Nat) (t : Token) : Scanner :=
  let later := s.count - index
  { s with tokens := s.tokens.take later ++ t :: s.tokens.drop later, count := s.count + 1 }

/-- Takes the next character for a token. -/
def take (s : Scanner) (t : Token) : Scanner := { s.push t with cursor := s.cursor.advance }

/-- Begins a block at a column beyond that of the innermost one; its token goes before the token
that `index` others come before. -/
def beginBlock (s : Scanner) (column index : Nat) (t : Token) : Scanner :=
  if !s.inBrackets && s.indent < column then
    { s.insert index t with indent := column, around := s.indent :: s.around }
  else s

/-- Ends the blocks beyond a column, the innermost of which has the others around it. -/
def endBlocksFrom (column : Int) : (around : List Int) → Scanner → Scanner
  | [], s => s
  | outer :: more, s =>
    if column < s.indent then
      endBlocksFrom column more { s.push .blockEnd with indent := outer, around := more }
    else s

/-- Ends the blocks beyond a column. Brackets hold no blocks. -/
def endBlocks (s : Scanner) (column : Int) : Scanner :=
  if s.inBrackets then s else endBlocksFrom column s.around s

/-- Gives up what might have been a key, unless it had to be one. -/
def dropMark (s : Scanner) : Option Scanner :=
  if s.mark.any (·.required) then none else some { s with mark := none }

/-- Marks the next token as one that may turn out to be a key. -/
def setMark (s : Scanner) : Option Scanner :=
  if !s.keyAllowed then some s
  else
    let required := !s.inBrackets && s.indent = s.column
    s.dropMark.map (fun s => { s with mark := some ⟨s.count, s.cursor.position, required⟩ })

/-- Skips to the next token, and ends the blocks that it is not in. -/
def settle (s : Scanner) : Scanner :=
  let u := s.cursor.skip s.inBrackets (s.inBrackets || !s.keyAllowed)
  let onNewLine := !s.inBrackets && s.cursor.position.line < u.position.line
  { s with cursor := u, keyAllowed := s.keyAllowed || onNewLine }.endBlocks u.position.column

def documentMark (s : Scanner) (t : Token) : Option Scanner :=
  (s.endBlocks (-1)).dropMark.map (fun s =>
    { s.push t with keyAllowed := false, cursor := s.cursor.advance.advance.advance })

def openBracket (s : Scanner) (t : Token) : Option Scanner :=
  s.setMark.map (fun s =>
    { s.take t with
      keyAllowed := true, depth := s.depth + 1, mark := none, marks := s.mark :: s.marks })

def closeBracket (s : Scanner) (t : Token) : Option Scanner :=
  match s.dropMark, s.marks with
  | some s, mark :: marks =>
    some { s.take t with keyAllowed := false, depth := s.depth - 1, mark := mark, marks := marks }
  | _, _ => none

def comma (s : Scanner) : Option Scanner :=
  s.dropMark.map (fun s => { s.take .comma with keyAllowed := true })

def dash (s : Scanner) : Option Scanner :=
  if s.inBrackets || !s.keyAllowed then none
  else (s.beginBlock s.column s.count .blockList).dropMark.map (fun s =>
    { s.take .dash with keyAllowed := true })

/-- A key with a question mark. -/
def questionMark (s : Scanner) : Option Scanner :=
  if !s.inBrackets && !s.keyAllowed then none
  else (s.beginBlock s.column s.count .blockMap).dropMark.map (fun s =>
    { s.take .key with keyAllowed := !s.inBrackets })

/-- A colon, which makes a key of what was marked as possibly one. -/
def colon (s : Scanner) : Option Scanner :=
  match s.mark with
  | some k =>
    if k.reaches s.cursor.position then
      let s := (s.insert k.index .key).beginBlock k.position.column k.index .blockMap
      some { s.take .colon with keyAllowed := false, mark := none }
    else if k.required then none
    else loneColon s
  | none => loneColon s
where
  /-- A colon that no key stands before on its line. -/
  loneColon (s : Scanner) : Option Scanner :=
    if !s.inBrackets && !s.keyAllowed then none
    else
      let s := s.beginBlock s.column s.count .blockMap
      some { s.take .colon with keyAllowed := !s.inBrackets }

def blockText (s : Scanner) : Option Scanner :=
  match s.dropMark with
  | none => none
  | some s =>
    (blockText? s.indent s.cursor).map (fun e =>
      { s.push (.text e.1 false) with keyAllowed := true, cursor := e.2 })

def quotedText (s : Scanner) : Option Scanner :=
  match s.setMark with
  | none => none
  | some s =>
    (quoted? s.cursor).map (fun e =>
      { s.push (.text e.1 false) with keyAllowed := false, cursor := e.2 })

def plainText (s : Scanner) : Option Scanner :=
  match s.setMark with
  | none => none
  | some s =>
    (plain? s.inBrackets s.indent s.cursor).map (fun e =>
      { s.push (.text e.text true) with keyAllowed := e.broken, cursor := e.stop })

/-- Reads the token at the cursor. -/
def step (s : Scanner) : Option Scanner :=
  let cs := s.cursor.rest
  if s.column = 0 && atMark '-' cs then s.documentMark .documentStart
  else if s.column = 0 && atMark '.' cs then s.documentMark .documentEnd
  else match cs with
    | [] => none
    | '[' :: _ => s.openBracket .openList
    | '\x7b' :: _ => s.openBracket .openMap
    | ']' :: _ => s.closeBracket .closeList
    | '\x7d' :: _ => s.closeBracket .closeMap
    | ',' :: _ => s.comma
    | '\'' :: _ | '"' :: _ => s.quotedText
    | c :: rest =>
      if c = '-' && atGap rest then s.dash
      else if c = '?' && (s.inBrackets || atGap rest) then s.questionMark
      else if c = ':' && (s.inBrackets || atGap rest) then s.colon
      else if (c = '|' || c = '>') && !s.inBrackets then s.blockText
      else if startsPlain s.inBrackets cs then s.plainText
      else none

/-- The tokens, when there is no more text. -/
def finish (s : Scanner) : Option (List Token) :=
  (s.endBlocks (-1)).dropMark.map (·.tokens.reverse)

/-- Reads up to so many further tokens, to the end of the text. -/
def run : Nat → Scanner → Option (List Token)
  | 0, _ => none
  | n + 1, s =>
    let s := s.settle
    if s.cursor.rest.isEmpty then s.finish
    else match s.step with
      | some s => run n s
      | none => none

end Scanner

/-- The tokens of a text, each of which takes at least one character. -/
def tokensOf? (text : String) : Option (List Token) :=
  (charactersOf? text).bind (fun cs => (Scanner.start cs).run (cs.length + 1))

end OpticalTestbed.Yaml
