import OpticalTestbed.CommandLine.Commands
import OpticalTestbed.Rehearsal.Scene
import OpticalTestbed.Rehearsal.Shell.Machine
/-!
The command line on the files of a scene. The scene's own scripts stand for the programs of a
testbed, and no controller answers.
-/
namespace OpticalTestbed.Rehearsal

/-- Variables with their values. -/
abbrev Environment : Type := List (String × String)

namespace Environment

def lookup (e : Environment) (name : String) : Option String :=
  (e.find? (·.1 = name)).map (·.2)

/-- The variables that are texts in a JSON object. -/
def ofJson : Json → Environment
  | .obj members => members.filterMap (fun m => (m.2.str?).map (m.1, ·))
  | _ => []

/-- The machine of a scene: its programs are the files whose path holds `bin/`, and those in `bin`
itself come before the machine's own. -/
def machine (e : Environment) : Shell.Machine where
  environment := Dict.ofList (e ++ [("PATH", Path.join Scene.rootPath "bin" ++ ":/usr/bin:/bin")])
  isExecutable place :=
    Text.contains "bin/".toList (joined "/" (place.drop Scene.root.length)).toList

end Environment

/-- What a machine prints when it is asked for the user's name. -/
def whoami (m : Shell.Machine) (files : FileTree) : Option ByteArray :=
  match m.answer files ⟨"whoami", [], none⟩ with
  | .ok (text, _) => some text.toUTF8
  | .error _ => none

/-- Runs the program with some arguments on the files of a scene. -/
def run (e : Environment) (args : List String) (files : FileTree) :
    CommandLine.Ending × FileTree :=
  let context : CommandLine.Context := ⟨e.lookup, whoami e.machine files, e.machine.outside⟩
  let (ending, w) := CommandLine.run context args ⟨files, false, []⟩
  (ending, w.files)

/-- Rehearses a command line on a scene given as an object with the members `files` and `env`. The
answer holds the exit code, what is printed, and the files that have changed. -/
def ofJson (args : List String) (scene : Json) : CommandLine.Ending × Json :=
  let files := Scene.putAll Scene.empty ((scene.member? "files").getD .null)
  let e := Environment.ofJson ((scene.member? "env").getD .null)
  let (ending, after) := run e args files
  (ending, Scene.changes files after)

end OpticalTestbed.Rehearsal
