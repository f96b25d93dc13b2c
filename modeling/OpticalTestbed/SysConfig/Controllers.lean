import OpticalTestbed.Text.Numeral
/-!
The controller list of `sys.config`. The generator knows one controller only; the rest of each line
from its list on is replaced by a list of all.
-/
namespace OpticalTestbed

/-- Where the emulated switches find a controller. -/
structure Controller where
  ip : String
  port : Nat
  deriving DecidableEq

/-- The port that the emulator connects to when none is given. -/
def defaultControllerPort : Nat := 6633

namespace SysConfig

/-- One controller as a term: label, address, port and transport. -/
def controllerEntry (index : Nat) (c : Controller) : List Char :=
  '\x7b' :: '"' :: "Switch".toList ++ Numeral.decimal index ++ "-Controller".toList ++
    ['"', ',', '"'] ++ c.ip.toList ++ ['"', ','] ++ Numeral.decimal c.port ++ ",tcp".toList ++
    ['\x7d']

/-- The entries of a list of controllers, labelled from `index` on. -/
def controllerEntries (index : Nat) : List Controller → List (List Char)
  | [] => []
  | c :: cs => controllerEntry index c :: controllerEntries (index + 1) cs

/-- The term that lists every controller, up to the end of its line. -/
def controllerClause (controllers : List Controller) : List Char :=
  '[' :: Text.join [','] (controllerEntries 0 controllers) ++ [']', '\x7d', ',']

/-- How the generated controller list begins. -/
def clauseMarker : List Char := '[' :: '\x7b' :: '"' :: "Switch".toList

/-- A line with everything from the marker on replaced. -/
def patchLine (clause line : List Char) : List Char :=
  match Text.cutAt? clauseMarker line with
  | some (before, _) => before ++ clause
  | none => line

/-- The text with every generated controller list replaced. -/
def patchControllers (text : String) (controllers : List Controller) : String :=
  String.ofList <| Text.join ['\n'] <|
    (Text.splitOn '\n' text.toList).map (patchLine (controllerClause controllers))

end SysConfig

end OpticalTestbed
