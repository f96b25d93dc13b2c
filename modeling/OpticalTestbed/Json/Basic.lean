import OpticalTestbed.Dict
import OpticalTestbed.Binary64
/-!
JSON values. Members of an object are kept in the order in which they are written; reading a text
gives them in ascending order of their names.
-/
namespace OpticalTestbed

inductive Json where
  | null
  | bool (b : Bool)
  | int (n : Int)
  | real (x : Binary64)
  | str (s : String)
  | arr (items : List Json)
  | obj (members : List (String × Json))

namespace Json

instance : Inhabited Json := ⟨null⟩

/-- A number that is no less than zero. -/
def nat (n : Nat) : Json := int n

/-- An object with the entries of a dictionary. -/
def ofDict (d : Dict String Json) : Json := obj d.entries

/-- The member of an object with the given name. -/
def member? (name : String) : Json → Option Json
  | obj members => (members.find? (·.1 = name)).map (·.2)
  | _ => none

def str? : Json → Option String
  | str s => some s
  | _ => none

def items? : Json → Option (List Json)
  | arr items => some items
  | _ => none

def isNull : Json → Bool
  | null => true
  | _ => false

mutual

/-- Changes every text of a value, and the names of members too. -/
def mapTexts (f : String → String) : Json → Json
  | str s => str (f s)
  | arr items => arr (mapItems f items)
  | obj members => obj (mapMembers f members)
  | v => v

def mapItems (f : String → String) : List Json → List Json
  | [] => []
  | v :: vs => mapTexts f v :: mapItems f vs

def mapMembers (f : String → String) : List (String × Json) → List (String × Json)
  | [] => []
  | (name, v) :: members => (f name, mapTexts f v) :: mapMembers f members

end

end Json

end OpticalTestbed
