import OpticalTestbed.Text.Numeral
/-!
The shell scripts that stand in for outside programs: simple commands with redirections, one after
the other or depending on whether the one before succeeded.
-/
namespace OpticalTestbed.Shell

/-- What a dollar sign refers to. -/
inductive Parameter where
  /-- The script's name, or one of its arguments. -/
  | position (n : Nat)
  | allArguments
  | joinedArguments
  | argumentCount
  | status
  | variable (name : List Char)

/-- What is done to the value. -/
inductive Trim where
  | nothing
  /-- Only what follows the last slash is kept. -/
  | directories
  /-- The last slash and what follows it is dropped. -/
  | fileName

/-- A part of a word; a quoted part is never split. -/
inductive Piece where
  | text (cs : List Char) (quoted : Bool)
  | value (p : Parameter) (trim : Trim) (quoted : Bool)

abbrev Word : Type := List Piece

/-- Where the output of a command goes. -/
inductive Target where
  | file (append : Bool) (path : Word)
  /-- To where the other output goes. -/
  | same (channel : Nat)

structure Redirection where
  channel : Nat
  target : Target

structure Command where
  words : List Word
  redirections : List Redirection

/-- When a command runs, seen from the one before. -/
inductive Condition where
  | always
  | onSuccess
  | onFailure

abbrev Script : Type := List (Condition × Command)

inductive Token where
  | word (w : Word)
  | separator
  | andThen
  | orElse
  | toFile (channel : Nat) (append : Bool)
  | toChannel (channel target : Nat)

def isNameStart (c : Char) : Bool :=
  ('a' ≤ c && c ≤ 'z') || ('A' ≤ c && c ≤ 'Z') || c = '_'

def isNameChar (c : Char) : Bool := isNameStart c || Text.isAsciiDigit c

/-- The parameter that one character names. -/
def special? (c : Char) : Option Parameter :=
  if c = '@' then some .allArguments
  else if c = '*' then some .joinedArguments
  else if c = '#' then some .argumentCount
  else if c = '?' then some .status
  else if Text.isAsciiDigit c then some (.position (c.toNat - 48))
  else none

/-- The parameter that a text between braces names. -/
def named? (cs : List Char) : Option Parameter :=
  match cs with
  | [] => none
  | [c] => if isNameStart c then some (.variable cs) else special? c
  | c :: _ =>
    if isNameStart c && cs.all isNameChar then some (.variable cs)
    else (Numeral.value? 10 cs).map .position

/-- A parameter between braces, with what is done to its value. -/
def braced? (cs : List Char) : Option (Parameter × Trim) :=
  match Text.cutAt? "##*/".toList cs with
  | some (name, []) => (named? name).map (·, .directories)
  | _ =>
    match Text.cutAt? "%/*".toList cs with
    | some (name, []) => (named? name).map (·, .fileName)
    | _ => (named? cs).map (·, .nothing)

/-- What follows a dollar sign, and the rest; a dollar sign that nothing follows stands for
itself. -/
def dollar? (quoted : Bool) (cs : List Char) : Option (Piece × List Char) :=
  match cs with
  | '\x7b' :: rest =>
    match Text.cutAt? ['\x7d'] rest with
    | some (inside, after) => (braced? inside).map (fun e => (.value e.1 e.2 quoted, after))
    | none => none
  | c :: rest =>
    match special? c with
    | some p => some (.value p .nothing quoted, rest)
    | none =>
      if isNameStart c then
        some (.value (.variable (cs.takeWhile isNameChar)) .nothing quoted,
          cs.dropWhile isNameChar)
      else some (.text ['$'] quoted, cs)
  | [] => some (.text ['$'] quoted, [])

/-- Adds a character to the last piece, or as a new one. Pieces are kept latest first. -/
def addChar (c : Char) (quoted : Bool) : Word → Word
  | .text cs q :: w =>
    if q = quoted then .text (cs ++ [c]) q :: w else .text [c] quoted :: .text cs q :: w
  | w => .text [c] quoted :: w

/-- The inside of double quotes, up to the closing one. -/
def quotedFrom : Nat → Word → List Char → Option (Word × List Char)
  | 0, _, _ => none
  | n + 1, w, cs =>
    match cs with
    | [] => none
    | '"' :: rest => some (w, rest)
    | '\\' :: '\n' :: rest => quotedFrom n w rest
    | '\\' :: c :: rest =>
      if c = '"' || c = '\\' || c = '$' || c = '\x60' then quotedFrom n (addChar c true w) rest
      else quotedFrom n (addChar c true (addChar '\\' true w)) rest
    | '$' :: rest =>
      match dollar? true rest with
      | some (p, rest) => quotedFrom n (p :: w) rest
      | none => none
    | '\x60' :: _ => none
    | c :: rest => quotedFrom n (addChar c true w) rest

/-- The characters that end a word when they are not quoted. -/
def isWordEnd (c : Char) : Bool :=
  c = ' ' || c = '\t' || c = '\n' || c = ';' || c = '&' || c = '|' || c = '<' || c = '>' ||
    c = '(' || c = ')'

/-- A word at the front of a text. -/
def wordFrom : Nat → Word → List Char → Option (Word × List Char)
  | 0, _, _ => none
  | n + 1, w, cs =>
    match cs with
    | [] => some (w.reverse, [])
    | '\'' :: rest =>
      match Text.cutAt? ['\''] rest with
      | some (inside, rest) => wordFrom n (.text inside true :: w) rest
      | none => none
    | '"' :: rest =>
      match quotedFrom (rest.length + 1) (.text [] true :: w) rest with
      | some (w, rest) => wordFrom n w rest
      | none => none
    | '\\' :: '\n' :: rest => wordFrom n w rest
    | '\\' :: c :: rest => wordFrom n (addChar c true w) rest
    | '$' :: rest =>
      match dollar? false rest with
      | some (p, rest) => wordFrom n (p :: w) rest
      | none => none
    | '\x60' :: _ => none
    | c :: rest => if isWordEnd c then some (w.reverse, cs) else wordFrom n (addChar c false w) rest

/-- A redirection at the front of a text, after the number of its channel. -/
def redirection (channel : Nat) (cs : List Char) : Option (Token × List Char) :=
  match cs with
  | '>' :: '>' :: rest => some (.toFile channel true, rest)
  | '>' :: '&' :: c :: rest =>
    if c = '1' || c = '2' then some (.toChannel channel (c.toNat - 48), rest) else none
  | '>' :: rest => some (.toFile channel false, rest)
  | _ => none

/-- The tokens of a script; nothing if it holds what these scripts do not use. -/
def tokensFrom : Nat → List Char → Option (List Token)
  | 0, _ => none
  | n + 1, cs =>
    let add (t : Token) (rest : List Char) := (tokensFrom n rest).map (t :: ·)
    match cs with
    | [] => some []
    | ' ' :: rest | '\t' :: rest => tokensFrom n rest
    | '#' :: rest => tokensFrom n (rest.dropWhile (· ≠ '\n'))
    | '\n' :: rest | ';' :: rest => add .separator rest
    | '&' :: '&' :: rest => add .andThen rest
    | '|' :: '|' :: rest => add .orElse rest
    | '1' :: '>' :: _ => (redirection 1 (cs.drop 1)).bind (fun e => add e.1 e.2)
    | '2' :: '>' :: _ => (redirection 2 (cs.drop 1)).bind (fun e => add e.1 e.2)
    | '>' :: _ => (redirection 1 cs).bind (fun e => add e.1 e.2)
    | c :: _ =>
      if isWordEnd c then none
      else (wordFrom (cs.length + 1) [] cs).bind (fun e => add (.word e.1) e.2)

/-- Collects the words and redirections of one command; the rest begins with what ends it. -/
def commandFrom : Command → List Token → Option (Command × List Token)
  | s, .word w :: ts => commandFrom { s with words := s.words ++ [w] } ts
  | s, .toFile channel append :: .word w :: ts =>
    commandFrom { s with redirections := s.redirections ++ [⟨channel, .file append w⟩] } ts
  | _, .toFile .. :: _ => none
  | s, .toChannel channel target :: ts =>
    commandFrom { s with redirections := s.redirections ++ [⟨channel, .same target⟩] } ts
  | s, ts => some (s, ts)

def Command.isEmpty (s : Command) : Bool := s.words.isEmpty && s.redirections.isEmpty

/-- The commands of some tokens, the first of which runs under the given condition. -/
def commandsFrom : Nat → Condition → List Token → Option Script
  | 0, _, _ => none
  | n + 1, condition, ts =>
    match commandFrom ⟨[], []⟩ ts with
    | none => none
    | some (s, rest) =>
      if s.isEmpty then
        match condition, rest with
        | .always, [] => some []
        | _, .separator :: rest => commandsFrom n condition rest
        | _, _ => none
      else
        let add (next : Condition) (rest : List Token) :=
          (commandsFrom n next rest).map ((condition, s) :: ·)
        match rest with
        | [] => some [(condition, s)]
        | .separator :: rest => add .always rest
        | .andThen :: rest => add .onSuccess rest
        | .orElse :: rest => add .onFailure rest
        | _ => none

/-- Reads a script. -/
def Script.ofText? (text : String) : Option Script :=
  let cs := text.toList
  (tokensFrom (cs.length + 1) cs).bind (fun ts => commandsFrom (ts.length + 1) .always ts)

end OpticalTestbed.Shell
