import OpticalTestbed.Failure
/-!
Datapath ids and their three written forms: compact (`0000ffffffffff01`), device URI
(`of:0000ffffffffff01`) and eight octets with colons (`00:00:ff:ff:ff:ff:ff:01`).
-/
namespace OpticalTestbed

/-- Whether a character separates octets. -/
def isOctetSeparator (c : Char) : Bool := c = ':' || c = '-'

/-- The compact form of a delimited id: no separators, small letters. -/
def compactId (cs : List Char) : List Char :=
  (cs.filter (fun c => !isOctetSeparator c)).map Text.lowerAscii

/-- Groups of two characters; an odd character at the end is dropped. -/
def pairs : List Char → List (List Char)
  | a :: b :: rest => [a, b] :: pairs rest
  | _ => []

/-- The delimited form of a device URI: of the part before the first slash, what follows the three
characters of the scheme, in pairs joined by colons. -/
def delimitedId (uri : List Char) : List Char :=
  Text.join [':'] (pairs ((uri.takeWhile (· ≠ '/')).drop 3))

/-- The scheme in front of device URIs. -/
def uriScheme : List Char := ['o', 'f', ':']

/-- The device URI of an id in compact or delimited form. -/
def deviceUri (cs : List Char) : List Char := uriScheme ++ compactId cs

/-- A hexadecimal digit in small letters. -/
def isLowerHex (c : Char) : Bool := ('0' ≤ c && c ≤ '9') || ('a' ≤ c && c ≤ 'f')

/-- Sixteen hexadecimal digits in small letters. -/
def IsCompactDpid (cs : List Char) : Prop := cs.length = 16 ∧ cs.all isLowerHex = true

instance (cs : List Char) : Decidable (IsCompactDpid cs) := inferInstanceAs (Decidable (_ ∧ _))

/-- A 64-bit datapath id in its compact form. -/
structure Dpid where
  digits : List Char
  wellFormed : IsCompactDpid digits
  deriving DecidableEq

namespace Dpid

/-- Reads an id in any written form: one leading scheme is dropped, then the separators. -/
def ofText? (s : String) : Except TopologyFault Dpid :=
  let cs := s.toList
  let compact := compactId ((Text.stripFront? uriScheme cs).getD cs)
  if h : IsCompactDpid compact then .ok ⟨compact, h⟩ else .error (.badDpid s)

/-- The lowest `n` hexadecimal digits of a number, most significant first. -/
def lowDigits : Nat → Nat → List Char → List Char
  | 0, _, tail => tail
  | n + 1, value, tail => lowDigits n (value / 16) (Text.hexDigit (value % 16) :: tail)

theorem length_lowDigits (n value : Nat) (tail : List Char) :
    (lowDigits n value tail).length = n + tail.length := by
  induction n generalizing value tail with
  | zero => simp [lowDigits]
  | succ n ih => simp only [lowDigits, ih, List.length_cons]; omega

theorem isLowerHex_hexDigit : ∀ n < 16, isLowerHex (Text.hexDigit n) = true := by decide

theorem all_lowDigits (n value : Nat) {tail : List Char} (h : tail.all isLowerHex = true) :
    (lowDigits n value tail).all isLowerHex = true := by
  induction n generalizing value tail with
  | zero => simpa [lowDigits] using h
  | succ n ih =>
    refine ih _ ?_
    simp only [List.all_cons, h, Bool.and_true]
    exact isLowerHex_hexDigit _ (Nat.mod_lt _ (by decide))

/-- The id of a switch number, padded with zeros. -/
def ofNumber (value : UInt64) : Dpid :=
  ⟨lowDigits 16 value.toNat [], length_lowDigits 16 _ [], all_lowDigits 16 _ rfl⟩

/-- The compact form. -/
def text (d : Dpid) : String := String.ofList d.digits

/-- The form the controller knows the device by. -/
def uri (d : Dpid) : String := String.ofList (deviceUri d.digits)

/-- The form the emulator's files use. -/
def delimited (d : Dpid) : String := String.ofList (delimitedId (deviceUri d.digits))

end Dpid

end OpticalTestbed
