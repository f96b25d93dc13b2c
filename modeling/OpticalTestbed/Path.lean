import OpticalTestbed.Text.Chars
/-!
Paths as texts: how they are joined and taken apart. Empty pieces and single dots between slashes
name nothing; a single dot counts only at the very start of a relative path.
-/
namespace OpticalTestbed.Path

/-- Whether a path starts at the root. -/
def isAbsolute (path : String) : Bool := path.toList.head? = some '/'

/-- A path below another one; an absolute path stands on its own. -/
def join (base rest : String) : String :=
  if isAbsolute rest then rest
  else if base.isEmpty || base.toList.getLast? = some '/' then base ++ rest
  else base ++ "/" ++ rest

/-- The pieces between slashes. -/
def pieces (path : String) : List (List Char) := Text.splitOn '/' path.toList

/-- Whether a piece names something; `atStart` tells the first piece from the others. -/
def isName (atStart : Bool) (piece : List Char) : Bool :=
  !piece.isEmpty && (atStart || piece != ['.'])

/-- The pieces without those at the end that name nothing. -/
def withoutTail : List (List Char) → List (List Char)
  | [] => []
  | first :: rest =>
    let kept := (rest.reverse.dropWhile (fun p => !isName false p)).reverse
    if kept.isEmpty && !isName true first then [] else first :: kept

/-- The last piece of a path that names something, if that is a proper name. -/
def fileName? (path : String) : Option String :=
  match (withoutTail (pieces path)).getLast? with
  | some piece =>
    if piece = ['.'] ∨ piece = ['.', '.'] then none else some (String.ofList piece)
  | none => none

/-- The path without its last piece. The root and the empty path have none. -/
def parent? (path : String) : Option String :=
  match withoutTail (pieces path) with
  | [] => none
  | all =>
    match withoutTail all.dropLast with
    | [] => some (if isAbsolute path then "/" else "")
    | kept => some (String.ofList (Text.join ['/'] kept))

/-- A path and the paths around it, up to but without the root or the empty path. There are no more
of them than pieces. -/
def ancestorsFrom : Nat → String → List String
  | 0, _ => []
  | n + 1, path =>
    match parent? path with
    | some around => path :: ancestorsFrom n around
    | none => []

/-- A path and the paths around it, nearest first. -/
def ancestors (path : String) : List String := ancestorsFrom (pieces path).length path

/-- The directory that a file at the path lies in; a bare name lies in the current one. -/
def directory (path : String) : String :=
  match parent? path with
  | some dir => if dir.isEmpty then "." else dir
  | none => "."

end OpticalTestbed.Path
