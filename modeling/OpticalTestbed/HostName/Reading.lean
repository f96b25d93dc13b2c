import OpticalTestbed.HostName.Joining
import OpticalTestbed.HostName.Mapping
import OpticalTestbed.HostName.Punycode
/-!
Reading a host name: what it says in plain characters, and which names are refused. A name is
refused for a character, or for one of its labels.
-/
namespace OpticalTestbed.HostName

/-- What a label begins with that writes characters outside ASCII in ASCII. -/
def asciiMark : List Char := "xn--".toList

/-- The most characters that a label written in ASCII may have after its mark. -/
def encodedLimit : Nat := 2000

/-- The most characters that a label outside ASCII may have. -/
def labelLimit : Nat := 1000

def isAscii (cs : List Char) : Bool := cs.all (·.toNat < 128)

/-- Whether a label says what its characters stand for: all are read as themselves, and composed. -/
def isPlain (label : List Char) : Bool :=
  label.all (fun c => standing c == .kept) && composed label = label

/-- The label that is written in ASCII by what follows the mark. It holds other characters too, or
it would not be written so. -/
def decoded? (cs : List Char) : Option (List Char) :=
  if cs.isEmpty || !isAscii cs || cs.getLast? = some '-' || encodedLimit < cs.length then none
  else
    match Punycode.decode? cs with
    | some label => if isPlain label then some label else none
    | none => none

/-- The characters of a label, whichever way it is written. -/
def shown? (label : List Char) : Option (List Char) :=
  match Text.stripFront? asciiMark label with
  | some rest => decoded? rest
  | none => some label

/-- Whether a label may stand in a name: it begins with no mark, its joining signs are in place, and
it is not too long to be written in ASCII. -/
def isLabel (label : List Char) : Bool :=
  !(label.head?.any isMark) && placesJoiners [] label &&
    (isAscii label || label.length ≤ labelLimit)

/-- What a host name says in plain characters, unless it is refused. Comparison signs are refused
here only, because a stroke through one makes another character. -/
def read? (name : List Char) : Option (List Char) :=
  match mapped? name with
  | none => none
  | some image =>
    let plain := composed image
    match (Text.splitOn '.' plain).mapM shown? with
    | none => none
    | some labels =>
      if !plain.contains '<' && !plain.contains '>' && labels.all isLabel &&
          (!labels.any hasRightToLeft || labels.all keepsDirection) then some plain
      else none

end OpticalTestbed.HostName
