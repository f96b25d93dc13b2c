import OpticalTestbed.Yaml.Node
import OpticalTestbed.Yaml.Scanner
/-!
Reading YAML values from tokens: lists and maps in brackets or by indentation, and the texts in
them. A text holds at most one document.
-/
namespace OpticalTestbed.Yaml

/-- Drops the comma before a part in brackets that is not the first. -/
def afterComma? (first : Bool) (ts : List Token) : Option (List Token) :=
  if first then some ts
  else match ts with
    | .comma :: ts => some ts
    | _ => none

/-- Whether the next token is one of some. -/
def isNext (ends : List Token) (ts : List Token) : Bool := ts.head?.any ends.contains

mutual

/-- A value. Only in a block may it be a block itself, and only with `dashes` a list whose dashes
are not set off from the block around. -/
def value? : Nat → (inBlock dashes : Bool) → List Token → Option (Node × List Token)
  | 0, _, _, _ => none
  | n + 1, inBlock, dashes, ts =>
    match ts with
    | .text content plain :: ts => some (.scalar content plain, ts)
    | .openList :: ts => (flowItems? n true ts).map (fun e => (.list e.1, e.2))
    | .openMap :: ts => (flowPairs? n true ts).map (fun e => (.map e.1, e.2))
    | .blockList :: ts =>
      if inBlock then (items? n ts).map (fun e => (.list e.1, e.2)) else none
    | .blockMap :: ts =>
      if inBlock then (pairs? n ts).map (fun e => (.map e.1, e.2)) else none
    | .dash :: _ =>
      if dashes then (looseItems? n ts).map (fun e => (.list e.1, e.2)) else none
    | _ => none

/-- A value, or the empty one if a token follows that ends it. -/
def optional? : Nat → (inBlock dashes : Bool) → (ends : List Token) → List Token →
    Option (Node × List Token)
  | 0, _, _, _, _ => none
  | n + 1, inBlock, dashes, ends, ts =>
    if isNext ends ts then some (.empty, ts) else value? n inBlock dashes ts

/-- The items of a list by indentation, up to its end. -/
def items? : Nat → List Token → Option (List Node × List Token)
  | 0, _ => none
  | n + 1, ts =>
    match ts with
    | .blockEnd :: ts => some ([], ts)
    | .dash :: ts =>
      match optional? n true false [.dash, .blockEnd] ts with
      | some (item, ts) => (items? n ts).map (fun e => (item :: e.1, e.2))
      | none => none
    | _ => none

/-- The items of a list whose dashes are not set off, as long as there are dashes. -/
def looseItems? : Nat → List Token → Option (List Node × List Token)
  | 0, _ => none
  | n + 1, ts =>
    match ts with
    | .dash :: ts =>
      match optional? n true false [.dash, .key, .colon, .blockEnd] ts with
      | some (item, ts) => (looseItems? n ts).map (fun e => (item :: e.1, e.2))
      | none => none
    | _ => some ([], ts)

/-- The entries of a map by indentation, up to its end. -/
def pairs? : Nat → List Token → Option (List (Node × Node) × List Token)
  | 0, _ => none
  | n + 1, ts =>
    match ts with
    | .blockEnd :: ts => some ([], ts)
    | .key :: ts =>
      match optional? n true true [.key, .colon, .blockEnd] ts with
      | none => none
      | some (key, ts) =>
        match behindColon? n true [.key, .colon, .blockEnd] ts with
        | some (value, ts) => (pairs? n ts).map (fun e => ((key, value) :: e.1, e.2))
        | none => none
    | _ => none

/-- The value of a key: what stands behind the colon, or the empty one without a colon. -/
def behindColon? : Nat → (inBlock : Bool) → (ends : List Token) → List Token →
    Option (Node × List Token)
  | 0, _, _, _ => none
  | n + 1, inBlock, ends, ts =>
    match ts with
    | .colon :: ts => optional? n inBlock inBlock ends ts
    | _ => some (.empty, ts)

/-- The items of a list in brackets, up to its end. An item may be a map of one entry without
braces. -/
def flowItems? : Nat → (first : Bool) → List Token → Option (List Node × List Token)
  | 0, _, _ => none
  | n + 1, first, ts =>
    match ts, afterComma? first ts with
    | .closeList :: ts, _ => some ([], ts)
    | _, none => none
    | _, some (.closeList :: ts) => some ([], ts)
    | _, some (.key :: ts) =>
      match pair? n ts with
      | some (entry, ts) => (flowItems? n false ts).map (fun e => (.map [entry] :: e.1, e.2))
      | none => none
    | _, some ts =>
      match value? n false false ts with
      | some (item, ts) => (flowItems? n false ts).map (fun e => (item :: e.1, e.2))
      | none => none

/-- An entry in a list in brackets. A key that is left out takes the token after it along. -/
def pair? : Nat → List Token → Option ((Node × Node) × List Token)
  | 0, _ => none
  | n + 1, ts =>
    let ends : List Token := [.comma, .closeList]
    let key := if isNext (.colon :: ends) ts then some (.empty, ts.tail)
      else value? n false false ts
    match key with
    | none => none
    | some (key, ts) => (behindColon? n false ends ts).map (fun e => ((key, e.1), e.2))

/-- The entries of a map in brackets, up to its end. A value that is no key has no colon either. -/
def flowPairs? : Nat → (first : Bool) → List Token → Option (List (Node × Node) × List Token)
  | 0, _, _ => none
  | n + 1, first, ts =>
    let ends : List Token := [.comma, .closeMap]
    match ts, afterComma? first ts with
    | .closeMap :: ts, _ => some ([], ts)
    | _, none => none
    | _, some (.closeMap :: ts) => some ([], ts)
    | _, some (.key :: ts) =>
      match optional? n false false (.colon :: ends) ts with
      | none => none
      | some (key, ts) =>
        match behindColon? n false ends ts with
        | some (value, ts) => (flowPairs? n false ts).map (fun e => ((key, value) :: e.1, e.2))
        | none => none
    | _, some ts =>
      match value? n false false ts with
      | some (key, ts) => (flowPairs? n false ts).map (fun e => ((key, .empty) :: e.1, e.2))
      | none => none

end

/-- How deeply the reading of some tokens may call itself. -/
def callsFor (ts : List Token) : Nat := 4 * ts.length + 4

/-- The value of a document, and what follows it. One that is begun by its mark may be empty. -/
def document? (ts : List Token) : Option (Node × List Token) :=
  match ts with
  | [] => some (.empty, [])
  | .documentStart :: ts =>
    if ts.isEmpty || isNext [.documentStart, .documentEnd] ts then some (.empty, ts)
    else value? (callsFor ts) true false ts
  | _ => value? (callsFor ts) true false ts

/-- Reads a text that holds one document; an empty one stands for nothing. -/
def Node.ofText? (text : String) : Option Node :=
  match (tokensOf? text).bind document? with
  | some (v, ts) => if ts.all (· = .documentEnd) then some v else none
  | none => none

end OpticalTestbed.Yaml
