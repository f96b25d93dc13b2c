import OpticalTestbed.Duration
/-!
What can go wrong while a testbed is brought up, how each cause is worded, and which causes end a
bring-up instead of degrading it.
-/
namespace OpticalTestbed

/-- Why the operating system, or a reader of its files, refused. The input is invalid when a text
for the system holds the character zero, a file name when it is too long. -/
inductive FileFault where
  | notFound | permissionDenied | alreadyExists | notADirectory | isADirectory
  | directoryNotEmpty | invalidData | invalidInput | invalidFilename | resourceBusy | noReader
  | badFormat
  deriving DecidableEq

/-- The short wording of a fault. -/
def FileFault.text : FileFault → String
  | .notFound => "entity not found"
  | .permissionDenied => "permission denied"
  | .alreadyExists => "entity already exists"
  | .notADirectory => "not a directory"
  | .isADirectory => "is a directory"
  | .directoryNotEmpty => "directory not empty"
  | .invalidData => "invalid data"
  | .invalidInput => "invalid input parameter"
  | .invalidFilename => "invalid filename"
  | .resourceBusy => "resource busy"
  | .noReader => "uncategorized error"
  | .badFormat => "uncategorized error"

/-- The wording with the number of the system's error code. -/
def FileFault.systemText : FileFault → String
  | .notFound => "No such file or directory (os error 2)"
  | .permissionDenied => "Permission denied (os error 13)"
  | .alreadyExists => "File exists (os error 17)"
  | .notADirectory => "Not a directory (os error 20)"
  | .isADirectory => "Is a directory (os error 21)"
  | .directoryNotEmpty => "Directory not empty (os error 39)"
  | .invalidData => "stream did not contain valid UTF-8"
  | .invalidInput => "nul byte found in provided data"
  | .invalidFilename => "File name too long (os error 36)"
  | .resourceBusy => "Device or resource busy (os error 16)"
  | .noReader => "No such device or address (os error 6)"
  | .badFormat => "Exec format error (os error 8)"

/-- Which part of the two-step tap lookup came up empty. -/
inductive Miss where
  | noDeviceBlock
  | noPortLine
  | noPortIndex
  | noTap (index : Nat)
  deriving DecidableEq

def Miss.message : Miss → String
  | .noDeviceBlock => "device block not found in sys.config"
  | .noPortLine => "port not declared in the device block"
  | .noPortIndex => "port line carries no internal port index"
  | .noTap index => "no tap bound to internal port " ++ decimalText index

/-- What is wrong with a topology, or with a request about it. -/
inductive TopologyFault where
  | badDpid (text : String)
  | duplicateNode (name : String)
  | sharedDpid (first second dpid : String)
  | unknownEndpoint (node : String)
  | portTaken (port : Nat) (node : String)
  | selfLink (node : String)
  | noRoadm (nodeA : String) (portA : Nat) (nodeB : String) (portB : Nat)
  | unknownMember (domain node : String)
  | unknownDomain (name : String)
  | noPortNumber (endpoint : String)
  | notRoadm (name : String)
  | notConfigured (name dpid : String)
  | other (text : String)
  deriving DecidableEq

def TopologyFault.message : TopologyFault → String
  | .badDpid text => "datapath id '" ++ text ++ "' is not 8 hex octets"
  | .duplicateNode name => "duplicate node '" ++ name ++ "'"
  | .sharedDpid first second dpid =>
    "nodes '" ++ first ++ "' and '" ++ second ++ "' share datapath id " ++ dpid
  | .unknownEndpoint node => "link endpoint references unknown node '" ++ node ++ "'"
  | .portTaken port node => "port " ++ decimalText port ++ " on '" ++ node ++ "' is already linked"
  | .selfLink node => "self-link on '" ++ node ++ "'"
  | .noRoadm nodeA portA nodeB portB =>
    "optical link " ++ nodeA ++ "/" ++ decimalText portA ++ " - " ++ nodeB ++ "/" ++
      decimalText portB ++ " has no ROADM endpoint"
  | .unknownMember domain node =>
    "domain '" ++ domain ++ "' references unknown node '" ++ node ++ "'"
  | .unknownDomain name => "unknown domain '" ++ name ++ "'"
  | .noPortNumber endpoint => "link endpoint '" ++ endpoint ++ "' has no port number"
  | .notRoadm name => name ++ " is not a ROADM"
  | .notConfigured name dpid => name ++ " (" ++ dpid ++ ") is not configured in LINC-OE"
  | .other text => text

/-- How a request to the controller failed: before it was sent, or on the way. -/
inductive HttpFault where
  | malformedAddress
  | transport
  deriving DecidableEq

inductive Failure where
  /-- A required installation is missing. -/
  | configurationMissing (what hint : String)
  /-- The generator of the startup configuration printed something. -/
  | synthesisFailure (output : String)
  /-- The emulator's start script printed something. -/
  | emulatorStart (output : String)
  | discoveryMiss (dpid : String) (port : Nat) (reason : Miss)
  /-- The switch host refused to attach or detach an interface. -/
  | binding (node tap output : String)
  | pushRejected (controller document output : String)
  /-- A bounded wait ran out of budget. -/
  | reconciliationTimeout (what : String) (waited : Duration)
  | transientIo (path : String) (fault : FileFault)
  | notIdle (phase : String)
  | cancelled (what : String)
  | invalidTopology (fault : TopologyFault)
  /-- A program could not be run; `cause` is worded by whoever tried. -/
  | commandFailed (command cause : String)
  | io (path : String) (fault : FileFault)
  | http (fault : HttpFault)
  | json
  deriving DecidableEq

namespace Failure

def message : Failure → String
  | configurationMissing what hint => what ++ " not found: " ++ hint
  | synthesisFailure output => "error creating sys.config: " ++ output
  | emulatorStart output => "LINC-OE failed to start: " ++ output
  | discoveryMiss dpid port reason =>
    "no tap interface for " ++ dpid ++ " port " ++ decimalText port ++ ": " ++ reason.message
  | binding node tap output => "cannot bind " ++ tap ++ " to " ++ node ++ ": " ++ output
  | pushRejected controller document output =>
    "could not push " ++ document ++ " to " ++ controller ++ ": " ++ output
  | reconciliationTimeout what waited => what ++ " not ready within " ++ waited.text
  | transientIo path fault => "I/O on " ++ path ++ " failed: " ++ fault.text
  | notIdle phase => "cannot start: bring-up is " ++ phase
  | cancelled what => "cancelled while waiting for " ++ what
  | invalidTopology fault => "invalid topology: " ++ fault.message
  | commandFailed command cause =>
    String.ofList ("failed to run ".toList ++ [tick] ++ command.toList ++ [tick]) ++ ": " ++ cause
  | io path fault => "I/O on " ++ path ++ " failed: " ++ fault.text
  | http _ => "controller request failed"
  | json => "malformed document"
where
  /-- The grave accent that command lines are quoted with. -/
  tick : Char := '\x60'

/-- Whether the failure ends a bring-up; the others are reported as warnings. -/
def isFatal : Failure → Bool
  | configurationMissing .. | synthesisFailure .. | emulatorStart .. | invalidTopology ..
  | cancelled .. | notIdle .. | commandFailed .. | io .. | json => true
  | discoveryMiss .. | binding .. | pushRejected .. | reconciliationTimeout .. | transientIo ..
  | http .. => false

end Failure

end OpticalTestbed
