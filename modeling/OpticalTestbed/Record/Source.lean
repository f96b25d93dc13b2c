import OpticalTestbed.Json.Basic
/-!
Reading records. A source is a data format with texts, numbers, lists and named fields; what a
record needs of them is said once and holds for every format.
-/
namespace OpticalTestbed

/-- A field of a record: its name, and whether it may be missing where fields are told apart by
position alone. -/
structure FieldSpec where
  name : String
  mayBeMissing : Bool

/-- A data format that records are read from. -/
class Source (ν : Type) where
  text? : ν → Option String
  /-- A whole number from zero on. -/
  nat? : ν → Option Nat
  bool? : ν → Option Bool
  /-- Whether the value stands for no value in an optional field. -/
  isAbsent : ν → Bool
  items? : ν → Option (List ν)
  /-- The entries of a map with texts as keys, in the order in which they are written. -/
  entries? : ν → Option (List (String × ν))
  /-- The fields of a record; with `closed`, a field that is not listed is an error. -/
  fields? : (closed : Bool) → List FieldSpec → ν → Option (String → Option ν)
  /-- The name of an alternative. -/
  choice? : ν → Option String
  /-- The value as it is, for free-form properties. -/
  json? : ν → Option Json

namespace Source

variable {ν α : Type} [Source ν]

/-- A whole number from zero to `limit`. -/
def upTo? (limit : Nat) (v : ν) : Option Nat := (nat? v).filter (· ≤ limit)

def list? (read : ν → Option α) (v : ν) : Option (List α) := (items? v).bind (·.mapM read)

/-- A map; of two entries with one key the later stands. -/
def dict? (read : ν → Option α) (v : ν) : Option (Dict String α) :=
  ((entries? v).bind (·.mapM (fun e => (read e.2).map (e.1, ·)))).map Dict.ofList

/-- A field that must be there. -/
def required (fields : String → Option ν) (name : String) (read : ν → Option α) : Option α :=
  (fields name).bind read

/-- A field that has a value of its own when it is missing. -/
def defaulted (fields : String → Option ν) (name : String) (read : ν → Option α)
    (fallback : α) : Option α :=
  match fields name with
  | some v => read v
  | none => some fallback

/-- A field that may be missing or empty. -/
def optional (fields : String → Option ν) (name : String) (read : ν → Option α) :
    Option (Option α) :=
  match fields name with
  | some v => if isAbsent v then some none else (read v).map some
  | none => some none

end Source

namespace Json

/-- Fields told apart by position: those past the end may be missing if they are allowed to. -/
def positional? : List FieldSpec → List Json → Option (List (String × Json))
  | [], [] => some []
  | [], _ :: _ => none
  | f :: fs, [] => if f.mayBeMissing then positional? fs [] else none
  | f :: fs, v :: vs => (positional? fs vs).map ((f.name, v) :: ·)

/-- A record is an object, or an array of its fields in order. -/
def fields? (closed : Bool) (specs : List FieldSpec) : Json → Option (String → Option Json)
  | obj members =>
    if closed && !members.all (fun m => specs.any (·.name = m.1)) then none
    else some (fun name => (members.find? (·.1 = name)).map (·.2))
  | arr items =>
    (positional? specs items).map (fun members name => (members.find? (·.1 = name)).map (·.2))
  | _ => none

/-- An alternative is its name, or an object with its name alone. -/
def choice? : Json → Option String
  | str s => some s
  | obj [(name, null)] => some name
  | _ => none

instance : Source Json where
  text? := str?
  nat? | int (.ofNat n) => some n
       | _ => none
  bool? | bool b => some b
        | _ => none
  isAbsent := isNull
  items? := items?
  entries? | obj members => some members
           | _ => none
  fields? := fields?
  choice? := choice?
  json? := some

end Json

end OpticalTestbed
