import OpticalTestbed.Dpid
import OpticalTestbed.SysConfig.Markers
import OpticalTestbed.Text.Lowercase
/-!
The tap behind a port, read from `sys.config` in two steps: the block of the switch names the
internal index of the port, and a line elsewhere names the tap of that index.
-/
namespace OpticalTestbed.SysConfig

/-- Keeps the first of equal items. -/
def firstAppearances [DecidableEq α] : List α → List α → List α
  | _, [] => []
  | seen, x :: xs =>
    if x ∈ seen then firstAppearances seen xs else x :: firstAppearances (x :: seen) xs

/-- Every tap that the text names, once, in the order of first appearance. -/
def taps (text : String) : List String :=
  (firstAppearances [] (tapNames text.toList)).map String.ofList

/-- The text that declares a port inside a switch block. -/
def portMarker (port : Nat) : List Char :=
  "port_no,".toList ++ Numeral.decimal port ++ ['\x7d']

/-- Whether a line names the switch: its letters in small, colons left out, hold the compact id. -/
def namesDevice (id line : List Char) : Bool :=
  Text.contains id (Text.lowercase (line.filter (· ≠ ':')))

/-- What has been seen of a text up to some line. -/
structure Search where
  blockSeen : Bool
  insideBlock : Bool
  portLine : Option (List Char)
  /-- The lines that mention a tap, latest first. -/
  tapLines : List (List Char)

namespace Search

def start : Search := ⟨false, false, none, []⟩

/-- Reads one line. The line that opens the block declares no port; the line that ends it still
may. -/
def step (id marker : List Char) (s : Search) (line : List Char) : Search :=
  let s := if Text.contains tapWord line then { s with tapLines := line :: s.tapLines } else s
  if s.portLine.isSome then s
  else if !s.blockSeen && namesDevice id line then { s with blockSeen := true, insideBlock := true }
  else if s.insideBlock then
    { s with
      insideBlock := !Text.contains switchWord line
      portLine := if Text.contains marker line then some line else none }
  else s

end Search

/-- The number that a run of digits denotes, if it is a 32-bit one in ASCII digits. -/
def indexOf? (digits : List Char) : Option Nat := Numeral.bounded? max32 digits

/-- The tap of the first line that carries the index and a tap name. -/
def tapOfIndex? (index : Nat) (lines : List (List Char)) : Option (List Char) :=
  (lines.filter (fun line => (numbersAfter portWord line).any (indexOf? · = some index))).findSome?
    (fun line => (tapNames line).head?)

/-- The tap bound to a port of the switch with the given datapath id, in any of its forms. -/
def tapOf (text dpid : String) (port : Nat) : Except Miss String :=
  let found := (Text.lines text.toList).foldl
    (Search.step (compactId dpid.toList) (portMarker port)) Search.start
  if !found.blockSeen then .error .noDeviceBlock
  else match found.portLine with
    | none => .error .noPortLine
    | some line =>
      match (numbersAfter portWord line).head?.bind indexOf? with
      | none => .error .noPortIndex
      | some index =>
        match tapOfIndex? index found.tapLines.reverse with
        | some tap => .ok (String.ofList tap)
        | none => .error (.noTap index)

end OpticalTestbed.SysConfig
