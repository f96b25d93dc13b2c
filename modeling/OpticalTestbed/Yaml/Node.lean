import OpticalTestbed.Record.Source
import OpticalTestbed.Yaml.Scalar
/-!
YAML values, and how records are read from them. A text without quotes stands for itself where a
text is wanted, and for nothing, a truth value or a number where its form says so.
-/
namespace OpticalTestbed.Yaml

inductive Node where
  /-- A text; `plain` tells that it was written without quotes. -/
  | scalar (text : String) (plain : Bool)
  | list (items : List Node)
  | map (entries : List (Node × Node))

namespace Node

instance : Inhabited Node := ⟨scalar "" true⟩

def empty : Node := scalar "" true

def text? : Node → Option String
  | scalar text _ => some text
  | _ => none

/-- Whether nothing at all was written. -/
def isBlank : Node → Bool
  | scalar text true => text.isEmpty
  | _ => false

def isNull : Node → Bool
  | scalar text true => Scalar.isNull text
  | _ => false

def items? : Node → Option (List Node)
  | list items => some items
  | v => if v.isBlank then some [] else none

def pairs? : Node → Option (List (Node × Node))
  | map entries => some entries
  | v => if v.isBlank then some [] else none

/-- The entries with texts as keys. -/
def entries? (v : Node) : Option (List (String × Node)) :=
  v.pairs?.bind (·.mapM (fun e => e.1.text?.map (·, e.2)))

/-- A known field may be written only once, and with `closed` there are no others. -/
def fields? (closed : Bool) (specs : List FieldSpec) (v : Node) : Option (String → Option Node) :=
  match v.entries? with
  | none => none
  | some entries =>
    if specs.any (fun f => 1 < (entries.filter (·.1 = f.name)).length) then none
    else if closed && !entries.all (fun e => specs.any (·.name = e.1)) then none
    else some (fun name => (entries.find? (·.1 = name)).map (·.2))

mutual

/-- The value as JSON; of two entries with one key the later stands. -/
def json? : Node → Option Json
  | scalar text true => Scalar.json? text
  | scalar text false => some (.str text)
  | list items => (jsonItems? items).map .arr
  | map entries => (jsonEntries? entries).map (fun es => .ofDict (Dict.ofList es))

def jsonItems? : List Node → Option (List Json)
  | [] => some []
  | v :: vs =>
    match json? v, jsonItems? vs with
    | some j, some js => some (j :: js)
    | _, _ => none

def jsonEntries? : List (Node × Node) → Option (List (String × Json))
  | [] => some []
  | (k, v) :: es =>
    match k.text?, json? v, jsonEntries? es with
    | some key, some j, some js => some ((key, j) :: js)
    | _, _, _ => none

end

mutual

/-- Whether lists and maps are nested at most so many levels deep. -/
def isWithin : Nat → Node → Bool
  | _, .scalar .. => true
  | 0, .list _ | 0, .map _ => false
  | n + 1, .list items => areWithin n items
  | n + 1, .map entries => pairsWithin n entries

def areWithin : Nat → List Node → Bool
  | _, [] => true
  | n, v :: vs => isWithin n v && areWithin n vs

def pairsWithin : Nat → List (Node × Node) → Bool
  | _, [] => true
  | n, (k, v) :: es => isWithin n k && isWithin n v && pairsWithin n es

end

end Node

/-- A value, and how many lists and maps are around it. -/
structure Placed where
  node : Node
  depth : Nat

namespace Placed

/-- How deeply the lists and maps of what is read may be nested. What is passed over may be nested
more deeply. -/
def deepest : Nat := 128

/-- A value right inside another one. -/
def inside (v : Placed) (child : Node) : Placed := ⟨child, v.depth + 1⟩

/-- The value as JSON, if it is not nested too deeply. -/
def json? (v : Placed) : Option Json :=
  if v.node.isWithin (deepest - v.depth) then v.node.json? else none

instance : Source Placed where
  text? v := v.node.text?
  nat? v :=
    match v.node with
    | .scalar text true => Scalar.nat? text
    | _ => none
  bool? v :=
    match v.node with
    | .scalar text true => Scalar.bool? text
    | _ => none
  isAbsent v := v.node.isNull
  items? v := v.node.items?.map (·.map v.inside)
  entries? v := v.node.entries?.map (·.map (fun e => (e.1, v.inside e.2)))
  fields? closed specs v :=
    (v.node.fields? closed specs).map (fun members name => (members name).map v.inside)
  choice? v := v.node.text?
  json? := json?

end Placed

end OpticalTestbed.Yaml
