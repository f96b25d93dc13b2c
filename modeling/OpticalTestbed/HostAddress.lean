import OpticalTestbed.Failure
import OpticalTestbed.HostName.Reading
import OpticalTestbed.Text.Utf8
/-!
The address of the controller's device list, and which addresses a request can be sent to at all.
What is between the scheme and the path may hold credentials, a host and a port.
-/
namespace OpticalTestbed

/-- The address of the device list of a controller. -/
def deviceListAddress (ip : String) (port : Nat) : String :=
  "http://" ++ ip ++ ":" ++ decimalText port ++ "/onos/v1/devices"

namespace HostAddress

/-- One to four hexadecimal digits. -/
def isGroup (cs : List Char) : Bool :=
  1 ≤ cs.length && cs.length ≤ 4 && cs.all Text.isHexDigit

/-- A decimal number up to 255, without leading zeros. -/
def isPlainOctet (cs : List Char) : Bool :=
  cs.all Text.isAsciiDigit &&
    match Numeral.value? 10 cs with
    | some n => n ≤ 255 && (cs.length = 1 || cs.head? != some '0')
    | none => false

/-- How many groups some pieces of a bracketed address stand for. The last piece may be a dotted
address, which counts twice. -/
def groupCount? (mayEndDotted : Bool) : List (List Char) → Option Nat
  | [] => some 0
  | [last] =>
    if isGroup last then some 1
    else
      let octets := Text.splitOn '.' last
      if mayEndDotted && octets.length = 4 && octets.all isPlainOctet then some 2 else none
  | piece :: more => if isGroup piece then (groupCount? mayEndDotted more).map (· + 1) else none

/-- The pieces between colons; an empty text has none. -/
def groupsOf (cs : List Char) : List (List Char) := if cs.isEmpty then [] else Text.splitOn ':' cs

/-- An address of eight groups, of which a double colon may stand for one or more. -/
def isGroupedAddress (cs : List Char) : Bool :=
  match Text.cutAt? [':', ':'] cs with
  | none => groupCount? true (groupsOf cs) = some 8
  | some (front, back) =>
    match groupCount? false (groupsOf front), groupCount? true (groupsOf back) with
    | some m, some n => m + n ≤ 7
    | _, _ => false

/-- A part of a dotted address: decimal, octal after a zero, or hexadecimal after `0x`. -/
def dottedPart? : List Char → Option Nat
  | [] => none
  | '0' :: 'x' :: digits | '0' :: 'X' :: digits =>
    if digits.isEmpty then some 0 else Numeral.value? 16 digits
  | '0' :: c :: digits => Numeral.value? 8 (c :: digits)
  | digits => Numeral.value? 10 digits

/-- The parts of a name between its dots, without an empty last one. -/
def labels (cs : List Char) : List (List Char) :=
  let all := Text.splitOn '.' cs
  if 1 < all.length && all.getLast? = some [] then all.dropLast else all

/-- Whether a name ends in a number, so that it can only be a dotted address. -/
def endsInNumber (cs : List Char) : Bool :=
  match (labels cs).getLast? with
  | some last =>
    !last.isEmpty && (last.all Text.isAsciiDigit ||
      ((Text.startsWith ['0', 'x'] last || Text.startsWith ['0', 'X'] last) &&
        (dottedPart? last).isSome))
  | none => false

/-- A dotted address of up to four parts, the last of which fills what the others leave. -/
def isDottedAddress (cs : List Char) : Bool :=
  match (labels cs).mapM dottedPart? with
  | none => false
  | some parts =>
    match parts.getLast? with
    | none => false
    | some last =>
      parts.length ≤ 4 && parts.dropLast.all (· ≤ 255) && last < Nat.pow 256 (5 - parts.length)

/-- The octets of a text, where a percent sign and two hexadecimal digits give one octet. -/
def octets : List Char → List UInt8
  | '%' :: a :: b :: rest =>
    match Text.hexValue? a, Text.hexValue? b with
    | some x, some y => UInt8.ofNat (16 * x + y) :: octets rest
    | _, _ => (37 : UInt8) :: octets (a :: b :: rest)
  | c :: rest => (String.singleton c).toUTF8.toList ++ octets rest
  | [] => []

/-- What a request is sent to: an address in groups, one in dotted numbers, or a name. -/
inductive Host where
  | grouped
  | dotted
  | named (name : List Char)

/-- The host that a text stands for. Groups are in brackets, and a name that ends in a number can
only be a dotted address. -/
def host? : List Char → Option Host
  | '[' :: rest =>
    if rest.getLast? = some ']' && isGroupedAddress rest.dropLast then some .grouped else none
  | cs =>
    match HostName.read? (Utf8.lossyFrom none (octets cs)) with
    | some name =>
      if name.isEmpty then none
      else if !endsInNumber name then some (.named name)
      else if isDottedAddress name then some .dotted
      else none
    | none => none

/-- The characters that a name takes up in a request. An address in numbers takes up few. -/
def Host.length : Host → Nat
  | .named name => name.length
  | .grouped | .dotted => 0

/-- Splits at the first colon outside brackets. -/
def splitPort (inside : Bool) : List Char → List Char × List Char
  | [] => ([], [])
  | c :: cs =>
    if c = ':' && !inside then ([], c :: cs)
    else
      let (host, port) := splitPort (c = '[' || (inside && c ≠ ']')) cs
      (c :: host, port)

/-- A colon and a port number of at most 16 bits, or nothing. -/
def isPort : List Char → Bool
  | ':' :: digits =>
    digits.isEmpty ||
      (digits.all Text.isAsciiDigit &&
        match Numeral.value? 10 digits with
        | some n => n ≤ max16
        | none => false)
  | [] => true
  | _ => false

/-- Ends what stands before a path, a query or a fragment. -/
def isDelimiter (c : Char) : Bool := c = '/' || c = '\\' || c = '?' || c = '#'

/-- What follows the last at sign, and whether there was one. -/
def afterCredentials (cs : List Char) : List Char :=
  (cs.reverse.takeWhile (· ≠ '@')).reverse

/-- The most characters that the address of a request may have. -/
def requestLimit : Nat := 65534

/-- Whether a request can be sent to an address that begins with a scheme and two slashes. -/
def isReachable (address : String) : Bool :=
  let visible := address.toList.filter (fun c => c ≠ '\t' && c ≠ '\n' && c ≠ '\r')
  let rest := (visible.drop 5).dropWhile (fun c => c = '/' || c = '\\')
  let authority := rest.takeWhile (fun c => !isDelimiter c)
  let path := rest.drop authority.length
  let (hostText, port) := splitPort false (afterCredentials authority)
  match host? hostText with
  | some host =>
    isPort port && "http://".length + host.length + port.length + path.length ≤ requestLimit
  | none => false

end HostAddress

/-- How a request to a controller fails when nothing answers. -/
def unansweredFault (address : String) : HttpFault :=
  if HostAddress.isReachable address then .transport else .malformedAddress

end OpticalTestbed
