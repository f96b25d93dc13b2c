import OpticalTestbed.Json.Parser
import OpticalTestbed.Json.Printer
import OpticalTestbed.Rehearsal.Session
/-!
The command line, rehearsed: it reads a scene from the standard input, runs the command on it,
prints what the command prints, and shows the files that have changed on the standard error.
-/
namespace OpticalTestbed.CommandLine

/-- Everything up to the end of a stream, behind the text before it. -/
partial def readAll (source : IO.FS.Stream) (before : String) : IO String := do
  let line ← source.getLine
  if line.isEmpty then return before
  readAll source (before ++ line)

/-- Rehearses a command line on the scene that a text describes; the exit code. -/
def rehearse (args : List String) (text : String) : IO UInt32 := do
  match Json.ofText? text with
  | none =>
    (← IO.getStderr).putStrLn "The scene is not a JSON document."
    return 2
  | some scene =>
    let (ending, changes) := Rehearsal.ofJson (args.map Scene.withRoot) (Scene.resolved scene)
    IO.print (Scene.withMark ending.output)
    (← IO.getStderr).putStr (Scene.marked changes).document
    return UInt32.ofNat ending.code

end OpticalTestbed.CommandLine

def main (args : List String) : IO UInt32 := do
  OpticalTestbed.CommandLine.rehearse args
    (← OpticalTestbed.CommandLine.readAll (← IO.getStdin) "")
