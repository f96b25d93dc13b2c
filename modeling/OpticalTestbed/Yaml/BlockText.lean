import OpticalTestbed.Yaml.Cursor
/-!
Texts that are set off by indentation: literal ones keep their lines, folded ones join them.
-/
namespace OpticalTestbed.Yaml

/-- What becomes of the line breaks at the end. -/
inductive Chomping where
  | strip
  | clip
  | keep

/-- The first line of such a text: how it ends and, if given, how far its lines are indented beyond
the block around it. -/
structure BlockHeader where
  literal : Bool
  chomping : Chomping
  indentation : Option Nat

/-- Reads the signs after the first character, in either order. -/
def headerSigns (h : BlockHeader) (mayChomp mayIndent : Bool) :
    Position → List Char → Option (BlockHeader × Cursor)
  | p, [] => some (h, ⟨p, []⟩)
  | p, c :: cs =>
    if mayChomp && (c = '+' || c = '-') then
      headerSigns { h with chomping := if c = '+' then .keep else .strip } false mayIndent
        (p.next c) cs
    else if mayIndent && Text.isAsciiDigit c then
      if c = '0' then none
      else headerSigns { h with indentation := some (c.toNat - 48) } mayChomp false (p.next c) cs
    else some (h, ⟨p, c :: cs⟩)

/-- Skips the rest of the first line, which may hold blanks and a comment. -/
def headerEnd? : (comment : Bool) → Position → List Char → Option Cursor
  | _, p, [] => some ⟨p, []⟩
  | comment, p, c :: cs =>
    if isBreak c then some ⟨p.next c, cs⟩
    else if comment || isSpace c then headerEnd? comment (p.next c) cs
    else if c = '#' then headerEnd? true (p.next c) cs
    else none

/-- What has been read of the lines. -/
structure BlockLines where
  /-- The text so far, in reverse. -/
  acc : List Char
  /-- The column of the lines, once it is known. -/
  indent : Option Nat
  /-- The widest blank line before it is known. -/
  widest : Nat
  /-- The break at the end of the last line that is not blank. -/
  lineEnd : Option Char
  /-- The breaks of the blank lines since, in reverse. -/
  blankEnds : List Char
  /-- Whether the last line that is not blank began with a blank. -/
  setOff : Bool

namespace BlockLines

def start (indent : Option Nat) : BlockLines := ⟨[], indent, 0, none, [], false⟩

/-- The text up to a new line that begins with `c`. -/
def joined (s : BlockLines) (literal : Bool) (c : Char) : List Char :=
  if !literal && s.lineEnd = some '\n' && !s.setOff && !isSpace c then
    if s.blankEnds.isEmpty then ' ' :: s.acc else s.blankEnds ++ s.acc
  else s.blankEnds ++ s.lineEnd.toList ++ s.acc

/-- The text when there are no more lines. -/
def finish (s : BlockLines) : Chomping → String
  | .strip => String.ofList s.acc.reverse
  | .clip => String.ofList (s.lineEnd.toList ++ s.acc).reverse
  | .keep => String.ofList (s.blankEnds ++ s.lineEnd.toList ++ s.acc).reverse

/-- Whether a blank belongs to the indentation at a column. -/
def isIndentation (s : BlockLines) (column : Nat) : Bool :=
  match s.indent with
  | none => true
  | some n => column < n

end BlockLines

/-- Reads the lines; `inside` tells a line from the indentation before it, and `outer` is the column
of the block around. -/
def blockLines (h : BlockHeader) (outer : Int) : (inside : Bool) → BlockLines → Position →
    List Char → Option (String × Cursor)
  | _, s, p, [] => some (s.finish h.chomping, ⟨p, []⟩)
  | true, s, p, c :: cs =>
    if isBreak c then blockLines h outer false { s with lineEnd := some c } (p.next c) cs
    else blockLines h outer true { s with acc := c :: s.acc } (p.next c) cs
  | false, s, p, c :: cs =>
    if s.isIndentation p.column && c = ' ' then blockLines h outer false s (p.next c) cs
    else if s.isIndentation p.column && c = '\t' then none
    else
      let widest := max s.widest p.column
      if isBreak c then
        blockLines h outer false { s with widest := widest, blankEnds := c :: s.blankEnds }
          (p.next c) cs
      else
        let indent := s.indent.getD (max widest (max (outer + 1) 1).toNat)
        if p.column = indent then
          blockLines h outer true
            { s with
              acc := c :: s.joined h.literal c
              indent := some indent
              lineEnd := none
              blankEnds := []
              setOff := isSpace c }
            (p.next c) cs
        else some (s.finish h.chomping, ⟨p, c :: cs⟩)

/-- Reads a text set off by indentation; the cursor is at its first character. -/
def blockText? (outer : Int) (u : Cursor) : Option (String × Cursor) :=
  match u.rest with
  | [] => none
  | c :: cs =>
    match headerSigns ⟨c = '|', .clip, none⟩ true true (u.position.next c) cs with
    | none => none
    | some (h, v) =>
      match headerEnd? false v.position v.rest with
      | none => none
      | some w =>
        let indent := h.indentation.map (fun n => (max outer 0).toNat + n)
        blockLines h outer false (.start indent) w.position w.rest

end OpticalTestbed.Yaml
