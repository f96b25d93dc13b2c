import OpticalTestbed.Dpid
import OpticalTestbed.FileTree
import OpticalTestbed.Json.Printer
/-!
The files of a rehearsal, described as JSON: they lie below one scratch directory, which is also the
current one. File contents are texts, or bytes in hexadecimal digits.
-/
namespace OpticalTestbed.Scene

/-- The scratch directory. -/
def root : Place := ["scratch", "c41d7e90"]

def rootPath : String := "/" ++ joined "/" root

/-- What stands for the scratch directory where a scene is described. -/
def rootMark : String := "$ROOT"

/-- Replaces every occurrence of a text by another one. -/
def replaceFrom (old new : List Char) : Nat → List Char → List Char
  | 0, cs => cs
  | n + 1, cs =>
    match Text.cutAt? old cs with
    | some (before, rest) => before ++ new ++ replaceFrom old new n rest
    | none => cs

def replace (old new s : String) : String :=
  String.ofList (replaceFrom old.toList new.toList (s.toList.length + 1) s.toList)

/-- Puts the scratch directory for its mark. -/
def withRoot (s : String) : String := replace rootMark rootPath s

/-- Puts the mark for the scratch directory. -/
def withMark (s : String) : String := replace rootPath rootMark s

/-- Puts the scratch directory for its mark in all texts of a value. -/
def resolved (v : Json) : Json := v.mapTexts withRoot

/-- Puts the mark for the scratch directory in all texts of a value. -/
def marked (v : Json) : Json := v.mapTexts withMark

/-- The bytes of a file. -/
def bytes? : Json → Option ByteArray
  | .str s => some s.toUTF8
  | .obj [("hex", .str digits)] =>
    some ⟨(((pairs digits.toList).filterMap (Numeral.value? 16)).map UInt8.ofNat).toArray⟩
  | _ => none

/-- Makes directories down to a place, as far as files are not in the way. -/
def withDirectories (t : FileTree) (place : Place) : FileTree :=
  (t.makePlace [] place).getD t

/-- Nothing but the scratch directory. -/
def empty : FileTree := withDirectories ⟨[], root⟩ root

/-- The place of a path below the scratch directory. -/
def placeOf (path : String) : Place := FileTree.lexicalPlace root (Path.pieces path)

/-- Puts one entry below the scratch directory: a directory if its path ends in a slash, else a
file, which no content removes. -/
def put (t : FileTree) (path : String) (content : Json) : FileTree :=
  let place := placeOf path
  if path.toList.getLast? = some '/' then withDirectories t place
  else match bytes? content with
    | none => t.removeAll place
    | some bytes => (withDirectories t place.dropLast).put place (.file bytes)

/-- Puts the entries of an object, one after the other. -/
def putAll (t : FileTree) : Json → FileTree
  | .obj members => members.foldl (fun t e => put t e.1 e.2) t
  | _ => t

/-- The entry at a place as it is shown: pipes never are, and the path of a directory ends in a
slash. -/
def shown? (e : Place × Entry) : Option (String × ByteArray) :=
  let path := joined "/" (e.1.drop root.length)
  if !root.isPrefixOf e.1 || e.1.length ≤ root.length then none
  else match e.2 with
    | .file bytes => some (path, bytes)
    | .directory | .sealed _ => some (path ++ "/", ByteArray.empty)
    | .pipe .. => none

/-- What changed below the scratch directory; what is gone is shown without content. -/
def changes (before after : FileTree) : Json :=
  let old := before.entries.filterMap shown?
  let new := after.entries.filterMap shown?
  let written := new.filter (fun e => !old.any (fun f => f.1 = e.1 && f.2.data == e.2.data))
  let gone := old.filter (fun e => !new.any (fun f => f.1 = e.1))
  .obj (written.map (fun e => (e.1, .str (Utf8.lossy e.2))) ++ gone.map (fun e => (e.1, .null)))

end OpticalTestbed.Scene
