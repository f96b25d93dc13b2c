import OpticalTestbed.Yaml.Fold
/-!
Texts without quotes. They end before a colon that a blank follows, before a comment, before a line
that is not indented enough, and in brackets before any bracket or comma.
-/
namespace OpticalTestbed.Yaml

/-- The characters that open, close and separate in brackets. -/
def isFlowIndicator (c : Char) : Bool :=
  c = ',' || c = '[' || c = ']' || c = '\x7b' || c = '\x7d'

/-- The characters that no text without quotes begins with. -/
def reservedStarts : List Char :=
  [',', '[', ']', '\x7b', '\x7d', '#', '&', '*', '!', '|', '>', '\'', '"', '%', '@', '\x60']

/-- Whether a text without quotes can begin here. -/
def startsPlain (inBrackets : Bool) : List Char → Bool
  | [] => false
  | c :: rest =>
    if c = '-' then !atGap rest
    else if c = '?' || c = ':' then !inBrackets && !atGap rest
    else !isSpace c && !isBreak c && !reservedStarts.contains c

/-- What has been read of a text without quotes. -/
structure PlainText where
  text : String
  /-- Whether line breaks follow its last word. -/
  broken : Bool
  /-- Behind the blanks and breaks that follow its last word. -/
  stop : Cursor

/-- Reads on; `acc` holds the words and gaps so far in reverse. `indent` is the column that
continued lines must be beyond, and a tab may not help them there. Nothing comes out where a text
breaks a rule. -/
def plainFrom (inBrackets : Bool) (indent : Int) : (acc : List Char) → Gap → Position →
    List Char → Option PlainText
  | acc, gap, p, [] => some ⟨String.ofList acc.reverse, gap.isBroken, ⟨p, []⟩⟩
  | acc, gap, p, c :: cs =>
    if isSpace c then
      if gap.isBroken && (p.column : Int) ≤ indent && c = '\t' then none
      else plainFrom inBrackets indent acc (gap.addBlank c) (p.next c) cs
    else if isBreak c then plainFrom inBrackets indent acc (gap.addBreak c) (p.next c) cs
    else
      let done := some ⟨String.ofList acc.reverse, gap.isBroken, ⟨p, c :: cs⟩⟩
      if gap.isBroken &&
          ((!inBrackets && (p.column : Int) ≤ indent) || atDocumentMark p (c :: cs)) then done
      else if c = '#' && !gap.isNone then done
      else if inBrackets && c = ':' && cs.head?.any (fun d => isFlowIndicator d || d = '?') then
        none
      else if (c = ':' && atGap cs) || (inBrackets && isFlowIndicator c) then done
      else plainFrom inBrackets indent (c :: gap.onto acc) .none (p.next c) cs

/-- Reads a text without quotes. -/
def plain? (inBrackets : Bool) (indent : Int) (u : Cursor) : Option PlainText :=
  plainFrom inBrackets indent [] .none u.position u.rest

end OpticalTestbed.Yaml
