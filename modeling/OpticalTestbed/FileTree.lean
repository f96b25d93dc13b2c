import OpticalTestbed.Failure
import OpticalTestbed.Path
import OpticalTestbed.Text.Utf8
/-!
A tree of files, directories and named pipes, and the operations that the testbed needs of it. An
operation that changes one entry either succeeds or names the fault and leaves the tree as it is;
one that makes a whole chain of directories keeps those that it has made.
-/
namespace OpticalTestbed

/-- Who holds the other end of a named pipe. -/
inductive PipeEnd where
  | nobody
  | reader
  | writer
  deriving DecidableEq

inductive Entry where
  | file (bytes : ByteArray)
  | directory
  /-- A directory in which nothing new can be made, and why. What it holds can be removed. -/
  | sealed (fault : FileFault)
  | pipe (held : PipeEnd) (content : ByteArray)

/-- The names on the way from the root to an entry. -/
abbrev Place : Type := List String

/-- The entries below the root, each with its place, and the directory that relative paths start
from. -/
structure FileTree where
  entries : List (Place × Entry)
  current : Place

namespace FileTree

/-- What stands at a place; the root is a directory. -/
def get? (t : FileTree) (place : Place) : Option Entry :=
  if place.isEmpty then some .directory
  else (t.entries.find? (·.1 = place)).map (·.2)

/-- Puts an entry at a place, replacing what stood there. -/
def put (t : FileTree) (place : Place) (e : Entry) : FileTree :=
  { t with entries := (place, e) :: t.entries.filter (·.1 ≠ place) }

/-- Removes what stands at a place and everything below it. -/
def removeAll (t : FileTree) (place : Place) : FileTree :=
  { t with entries := t.entries.filter (fun e => !place.isPrefixOf e.1) }

def isDirectory (t : FileTree) (place : Place) : Bool :=
  match t.get? place with
  | some .directory | some (.sealed _) => true
  | _ => false

/-- Why a directory takes no new entry. -/
def refusal? (t : FileTree) (place : Place) : Option FileFault :=
  match t.get? place with
  | some (.sealed fault) => some fault
  | _ => none

/-- The most bytes that a single name may have. -/
def nameLimit : Nat := 255

/-- The most bytes that a whole path may have. -/
def pathLimit : Nat := 4095

/-- Walks a path piece by piece: what it must pass through exists and is a directory. The last name
need not exist. -/
def walk (t : FileTree) (here : Place) : List (List Char) → Except FileFault Place
  | [] => .ok here
  | piece :: rest =>
    if !t.isDirectory here then
      .error (if (t.get? here).isSome then .notADirectory else .notFound)
    else if piece.isEmpty || piece = ['.'] then t.walk here rest
    else if piece = ['.', '.'] then t.walk here.dropLast rest
    else
      let name := String.ofList piece
      if nameLimit < name.utf8ByteSize then .error .invalidFilename
      else t.walk (here ++ [name]) rest

/-- What keeps a path from being looked up at all. -/
def pathFault? (path : String) : Option FileFault :=
  if path.toList.any (·.toNat = 0) then some .invalidInput
  else if path.isEmpty then some .notFound
  else if pathLimit < path.utf8ByteSize then some .invalidFilename
  else none

/-- Where the pieces of a path are counted from. -/
def origin (t : FileTree) (path : String) : Place :=
  if Path.isAbsolute path then [] else t.current

/-- The place that a path names, which may be vacant. -/
def place (t : FileTree) (path : String) : Except FileFault Place :=
  match pathFault? path with
  | some fault => .error fault
  | none => t.walk (t.origin path) (Path.pieces path)

/-- The place that a path names and what stands there. -/
def find (t : FileTree) (path : String) : Except FileFault (Place × Entry) :=
  match t.place path with
  | .error fault => .error fault
  | .ok place =>
    match t.get? place with
    | some e => .ok (place, e)
    | none => .error .notFound

/-- Reads the bytes of a file. -/
def readBytes (t : FileTree) (path : String) : Except FileFault ByteArray :=
  match t.find path with
  | .error fault => .error fault
  | .ok (_, .file bytes) => .ok bytes
  | .ok (_, .directory) | .ok (_, .sealed _) => .error .isADirectory
  | .ok (_, .pipe _ content) => .ok content

/-- Reads a file as text. -/
def readText (t : FileTree) (path : String) : Except FileFault String :=
  match t.readBytes path with
  | .error fault => .error fault
  | .ok bytes =>
    match String.fromUTF8? bytes with
    | some text => .ok text
    | none => .error .invalidData

/-- Whether something at the path can be opened for reading. -/
def canOpen (t : FileTree) (path : String) : Bool :=
  match t.find path with
  | .ok _ => true
  | .error _ => false

/-- Why a new file cannot be made in a directory. -/
def directoryFault? (t : FileTree) (path : String) : Option FileFault :=
  match t.find path with
  | .error fault => some fault
  | .ok (_, .directory) => none
  | .ok (_, .sealed fault) => some fault
  | .ok _ => some .notADirectory

/-- Why a finished file cannot be renamed to a path in a directory that exists. -/
def renameTarget (t : FileTree) (path : String) : Except FileFault Place :=
  let last := (Path.pieces path).getLast?.getD []
  let named := (Path.withoutTail (Path.pieces path)).getLast?
  match pathFault? path with
  | some fault => .error fault
  | none =>
    if last = ['.'] ∨ named = none ∨ named = some ['.'] ∨ named = some ['.', '.'] then
      .error .resourceBusy
    else if last.isEmpty then .error .notADirectory
    else match t.place path with
      | .error fault => .error fault
      | .ok place => if t.isDirectory place then .error .isADirectory else .ok place

/-- Writes a file whether or not it exists, in place. -/
def overwrite (t : FileTree) (path : String) (bytes : ByteArray) : Except FileFault FileTree :=
  match t.place path with
  | .error fault => .error fault
  | .ok place =>
    match t.get? place with
    | some .directory | some (.sealed _) => .error .isADirectory
    | some (.pipe ..) => .error .noReader
    | some (.file _) => .ok (t.put place (.file bytes))
    | none =>
      match t.directoryFault? (Path.directory path) with
      | some fault => .error fault
      | none => .ok (t.put place (.file bytes))

/-- Writes a file by way of a temporary one in its directory, so that the path holds either the old
bytes or the new ones. A fault names the path it is about: the directory or the destination. -/
def writeAtomic (t : FileTree) (path : String) (bytes : ByteArray) :
    Except (String × FileFault) FileTree :=
  match t.directoryFault? (Path.directory path) with
  | some fault => .error (Path.directory path, fault)
  | none =>
    match t.renameTarget path with
    | .error fault => .error (path, fault)
    | .ok place => .ok (t.put place (.file bytes))

/-- Makes one directory in another that exists. -/
def makeDirectory (t : FileTree) (path : String) : Except FileFault FileTree :=
  match pathFault? path with
  | some fault => .error fault
  | none =>
    let pieces := Text.dropTailWhile (·.isEmpty) (Path.pieces path)
    match t.walk (t.origin path) (pieces.dropLast ++ [['.']]), t.walk (t.origin path) pieces with
    | .error fault, _ => .error fault
    | .ok _, .error fault => .error fault
    | .ok _, .ok place =>
      if pieces.getLast?.getD [] ∈ [[], ['.'], ['.', '.']] ∨ (t.get? place).isSome then
        .error .alreadyExists
      else match t.refusal? place.dropLast with
        | some fault => .error fault
        | none => .ok (t.put place .directory)

/-- Whether a path leads to a directory. -/
def isDirectoryPath (t : FileTree) (path : String) : Bool :=
  match t.find path with
  | .ok (_, .directory) | .ok (_, .sealed _) => true
  | _ => false

/-- Makes the first directory of a list; the others are those around it, nearest first, which are
made before it as far as they are missing. Those that are made stay, whatever happens later. -/
def makeChain (t : FileTree) : List String → Except FileFault Unit × FileTree
  | [] => (.ok (), t)
  | path :: around =>
    match t.makeDirectory path with
    | .ok t' => (.ok (), t')
    | .error .notFound =>
      match t.makeChain around with
      | (.error fault, t') => (.error fault, t')
      | (.ok _, t') =>
        match t'.makeDirectory path with
        | .ok t'' => (.ok (), t'')
        | .error fault => (if t'.isDirectoryPath path then .ok () else .error fault, t')
    | .error fault => (if t.isDirectoryPath path then .ok () else .error fault, t)

/-- Makes a directory and those above it that are missing. -/
def createDirectories (t : FileTree) (path : String) : Except FileFault Unit × FileTree :=
  t.makeChain (Path.ancestors path)

/-- Steps from a place along a path, whether or not anything stands on the way. -/
def lexicalPlace (here : Place) : List (List Char) → Place
  | [] => here
  | piece :: rest =>
    if piece.isEmpty || piece = ['.'] then lexicalPlace here rest
    else if piece = ['.', '.'] then lexicalPlace here.dropLast rest
    else lexicalPlace (here ++ [String.ofList piece]) rest

/-- Makes the directories on the way to a place, and one at the place itself. -/
def makePlace (t : FileTree) (here : Place) : Place → Option FileTree
  | [] => some t
  | name :: rest =>
    let next := here ++ [name]
    match t.get? next with
    | some .directory | some (.sealed _) => t.makePlace next rest
    | some _ => none
    | none => (t.put next .directory).makePlace next rest

/-- The names in a directory, with what stands there. -/
def list (t : FileTree) (path : String) : Except FileFault (List (String × Entry)) :=
  match t.find path with
  | .error fault => .error fault
  | .ok (place, .directory) | .ok (place, .sealed _) =>
    .ok (t.entries.filterMap (fun e =>
      match e.1.getLast? with
      | some name => if e.1.dropLast = place then some (name, e.2) else none
      | none => none))
  | .ok _ => .error .notADirectory

/-- Removes everything in a directory; the number of entries removed. A directory that cannot be
listed holds nothing to remove. -/
def clearDirectory (t : FileTree) (path : String) : Nat × FileTree :=
  match t.find path, t.list path with
  | .ok (place, _), .ok names =>
    (names.length, names.foldl (fun t e => t.removeAll (place ++ [e.1])) t)
  | _, _ => (0, t)

/-- Bytes laid over the beginning of others. -/
def overlay (old new : ByteArray) : ByteArray := new ++ old.extract new.size old.size

/-- Writes to something that exists, without creating or shortening it. A pipe takes the bytes if
somebody holds its other end. -/
def send (t : FileTree) (path : String) (bytes : ByteArray) : Except FileFault FileTree :=
  match t.find path with
  | .error fault => .error fault
  | .ok (place, .file old) => .ok (t.put place (.file (overlay old bytes)))
  | .ok (_, .directory) | .ok (_, .sealed _) => .error .isADirectory
  | .ok (_, .pipe .nobody _) => .error .noReader
  | .ok (place, .pipe held content) => .ok (t.put place (.pipe held (content ++ bytes)))

/-- Reads all that there is right now; what is read from a pipe is gone from it. -/
def receive (t : FileTree) (path : String) : Except FileFault (ByteArray × FileTree) :=
  match t.find path with
  | .error fault => .error fault
  | .ok (_, .file bytes) => .ok (bytes, t)
  | .ok (_, .directory) | .ok (_, .sealed _) => .error .isADirectory
  | .ok (place, .pipe held content) => .ok (content, t.put place (.pipe held ByteArray.empty))

end FileTree

end OpticalTestbed
