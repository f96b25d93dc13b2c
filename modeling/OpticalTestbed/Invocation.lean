import OpticalTestbed.Path
/-!
Calls of outside programs.
-/
namespace OpticalTestbed

/-- A program, its arguments and the directory to run it in. -/
structure Invocation where
  program : String
  args : List String
  directory : Option String
  deriving DecidableEq

namespace Invocation

/-- The program and its arguments, separated by spaces. -/
def text (i : Invocation) : String := i.args.foldl (fun s arg => s ++ " " ++ arg) i.program

/-- The file name of the program; a program whose path has none goes by the whole path. -/
def programName (i : Invocation) : String := (Path.fileName? i.program).getD i.program

end Invocation

end OpticalTestbed
