import OpticalTestbed.Yaml.Cursor
/-!
What lies between two words of a text that runs over several lines: blanks stay, a single line
break becomes a space, and of several the first is dropped.
-/
namespace OpticalTestbed.Yaml

/-- The blanks and breaks since the last word, latest first. -/
inductive Gap where
  | none
  | blanks (cs : List Char)
  /-- A first break, if it counts, and the later ones. -/
  | broken (first : Option Char) (more : List Char)

namespace Gap

/-- The gap with one more blank. Blanks around breaks are dropped. -/
def addBlank (c : Char) : Gap → Gap
  | none => blanks [c]
  | blanks cs => blanks (c :: cs)
  | broken first more => broken first more

/-- The gap with one more break. -/
def addBreak (c : Char) : Gap → Gap
  | broken first more => broken first (c :: more)
  | _ => broken (some c) []

/-- Puts the gap behind a text; both are kept in reverse. -/
def onto (acc : List Char) : Gap → List Char
  | none => acc
  | blanks cs => cs ++ acc
  | broken (some '\n') [] => ' ' :: acc
  | broken (some '\n') more => more ++ acc
  | broken (some c) more => more ++ c :: acc
  | broken Option.none more => more ++ acc

def isNone : Gap → Bool
  | none => true
  | _ => false

def isBroken : Gap → Bool
  | broken .. => true
  | _ => false

end Gap

end OpticalTestbed.Yaml
