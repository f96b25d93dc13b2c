import OpticalTestbed.Dict
import OpticalTestbed.Dpid
import OpticalTestbed.FileTree
import OpticalTestbed.SysConfig.Markers
/-!
The numbers that the emulator gives its switches: the lines of `sys.config` that hold a datapath id
are counted from one, and an id has the number of the last line that it is the first of.
-/
namespace OpticalTestbed

/-- Compact datapath ids and their switch numbers. -/
structure SwitchIds where
  ids : Dict String Nat

namespace SwitchIds

def empty : SwitchIds := ⟨Dict.empty⟩

/-- The compact ids of the lines that hold one, in order. -/
def idsOfLines (lines : List (List Char)) : List String :=
  lines.filterMap (fun line =>
    (SysConfig.delimitedOctets? line).map (fun id => String.ofList (compactId id)))

/-- Gives each id the next number. -/
def number (table : Dict String Nat) (next : Nat) : List String → Dict String Nat
  | [] => table
  | id :: more => number (table.insert id next) (next + 1) more

/-- The numbering that a `sys.config` implies. -/
def ofText (text : String) : SwitchIds :=
  ⟨number Dict.empty 1 (idsOfLines (Text.lines text.toList))⟩

/-- The numbering of an installed `sys.config`, if that can be read. -/
def load? (files : FileTree) (path : String) : Option SwitchIds :=
  match files.readText path with
  | .ok text => some (ofText text)
  | .error _ => none

/-- The number of a switch, by its datapath id in compact or delimited form. -/
def get? (t : SwitchIds) (dpid : String) : Option Nat :=
  t.ids.get? (String.ofList (compactId dpid.toList))

def size (t : SwitchIds) : Nat := t.ids.size

def isEmpty (t : SwitchIds) : Bool := t.ids.isEmpty

end SwitchIds

end OpticalTestbed
