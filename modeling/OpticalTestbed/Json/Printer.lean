import OpticalTestbed.Json.Basic
/-!
The written form of JSON values: compact on one line, or one member a line with an indent of four.
-/
namespace OpticalTestbed.Json

/-- The escape of a character inside quotes: quote, backslash and control characters only. -/
def escape (c : Char) : List Char :=
  if c = '"' then ['\\', '"']
  else if c = '\\' then ['\\', '\\']
  else if c.toNat = 8 then ['\\', 'b']
  else if c.toNat = 9 then ['\\', 't']
  else if c.toNat = 10 then ['\\', 'n']
  else if c.toNat = 12 then ['\\', 'f']
  else if c.toNat = 13 then ['\\', 'r']
  else if c.toNat < 32 then '\\' :: 'u' :: Numeral.hexPadded 4 c.toNat
  else [c]

/-- A text in quotes. -/
def quoted (s : String) : List Char := '"' :: s.toList.flatMap escape ++ ['"']

/-- A number without a fraction. -/
def intText (n : Int) : List Char :=
  match n with
  | .ofNat n => Numeral.decimal n
  | .negSucc n => '-' :: Numeral.decimal (n + 1)

mutual

/-- The compact form, without any blank between tokens. -/
def compact : Json → List Char
  | null => ['n', 'u', 'l', 'l']
  | bool true => ['t', 'r', 'u', 'e']
  | bool false => ['f', 'a', 'l', 's', 'e']
  | int n => intText n
  | real x => x.text
  | str s => quoted s
  | arr items => '[' :: compactItems items ++ [']']
  | obj members => '{' :: compactMembers members ++ ['}']

def compactItems : List Json → List Char
  | [] => []
  | [v] => compact v
  | v :: vs => compact v ++ ',' :: compactItems vs

def compactMembers : List (String × Json) → List Char
  | [] => []
  | [(k, v)] => quoted k ++ ':' :: compact v
  | (k, v) :: ms => quoted k ++ ':' :: compact v ++ ',' :: compactMembers ms

end

/-- A new line indented by `depth` levels of four blanks. -/
def newLine (depth : Nat) : List Char := '\n' :: List.replicate (4 * depth) ' '

mutual

/-- The indented form of a value that stands at the given depth. -/
def indented (depth : Nat) : Json → List Char
  | arr [] => ['[', ']']
  | arr (v :: vs) => '[' :: indentedItems (depth + 1) (v :: vs) ++ newLine depth ++ [']']
  | obj [] => ['{', '}']
  | obj (m :: ms) => '{' :: indentedMembers (depth + 1) (m :: ms) ++ newLine depth ++ ['}']
  | null => compact null
  | bool b => compact (bool b)
  | int n => compact (int n)
  | real x => compact (real x)
  | str s => compact (str s)

def indentedItems (depth : Nat) : List Json → List Char
  | [] => []
  | [v] => newLine depth ++ indented depth v
  | v :: vs => newLine depth ++ indented depth v ++ ',' :: indentedItems depth vs

def indentedMembers (depth : Nat) : List (String × Json) → List Char
  | [] => []
  | [(k, v)] => newLine depth ++ quoted k ++ ':' :: ' ' :: indented depth v
  | (k, v) :: ms =>
    newLine depth ++ quoted k ++ ':' :: ' ' :: indented depth v ++ ',' :: indentedMembers depth ms

end

/-- The compact text of a value. -/
def text (v : Json) : String := String.ofList (compact v)

/-- The text of a document: the indented form and a newline at the end. -/
def document (v : Json) : String := String.ofList (indented 0 v ++ ['\n'])

end OpticalTestbed.Json
