import OpticalTestbed.Dict
import OpticalTestbed.FileTree
/-!
The user who started the program, their home directory, and the installations in it.
-/
namespace OpticalTestbed

/-- Why a directory was not found under a home directory. -/
inductive SearchFault where
  | notFound (name home : String)
  | unreadable (path : String) (fault : FileFault)
  deriving DecidableEq

def SearchFault.message : SearchFault → String
  | notFound name home => "No directory named " ++ name ++ " under " ++ home
  | unreadable path fault => "Cannot read " ++ path ++ ": " ++ fault.systemText

namespace Home

/-- The variables that may name the user; the one behind `sudo` comes first. -/
def userVariables : List String := ["SUDO_USER", "USER", "LOGNAME"]

def noUserText : String := "Cannot determine the invoking user"

/-- The first variable that is set and not empty, or else what `whoami` prints. -/
def user? (lookup : String → Option String) (whoami : Option ByteArray) : Option String :=
  match userVariables.findSome? (fun v => (lookup v).filter (!·.isEmpty)) with
  | some user => some user
  | none => (whoami.map (fun bytes => trimmed (Utf8.lossy bytes))).filter (!·.isEmpty)

/-- The home directory of a user. A user that is an absolute path is taken as it stands. -/
def directory (user : String) : String := Path.join "/home" user

/-- Whether two names are equal but for the case of ASCII letters. -/
def sameName (a b : String) : Bool :=
  a.toList.map Text.lowerAscii = b.toList.map Text.lowerAscii

/-- The directories of some entries that go by a name, in ascending order. -/
def matching (name : String) (entries : List (String × Entry)) : KeySet String :=
  KeySet.ofList (entries.filterMap (fun e =>
    match e.2 with
    | .directory | .sealed _ => if sameName e.1 name then some e.1 else none
    | _ => none))

/-- The directory of the given name right under a home directory; of several that differ in case,
the first. -/
def find (files : FileTree) (home name : String) : Except SearchFault String :=
  match files.list home with
  | .error fault => .error (.unreadable home fault)
  | .ok entries =>
    match (matching name entries).toList with
    | first :: _ => .ok (Path.join home first)
    | [] => .error (.notFound name home)

end Home

end OpticalTestbed
