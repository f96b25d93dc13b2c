import OpticalTestbed.Text.Numeral
/-!
The arguments of the command line: options with and without values, by long and short names, and
the commands that they belong to.
-/
namespace OpticalTestbed.CommandLine

/-- What the value of an option has to be. -/
inductive ValueKind where
  | anyText
  /-- A path is not empty. -/
  | path
  /-- A whole number of up to 32 bits. -/
  | number

/-- An option with its names. -/
structure OptionSpec where
  name : String
  letter : Option Char
  /-- Nothing for an option that has no value. -/
  value : Option ValueKind
  required : Bool

/-- The options that may stand before and after the command. -/
def globalOptions : List OptionSpec :=
  [⟨"config", some 'c', some .path, false⟩, ⟨"log-level", none, some .anyText, false⟩]

def topologyOption : OptionSpec := ⟨"topology", some 't', some .path, true⟩

def domainOption : OptionSpec := ⟨"domain", some 'd', some .anyText, false⟩

/-- The commands and their options. -/
def commandOptions : List (String × List OptionSpec) :=
  [("synth", [topologyOption, domainOption, ⟨"output", some 'o', some .path, false⟩]),
    ("up", [topologyOption, domainOption, ⟨"detach", none, none, false⟩]),
    ("down", [topologyOption]),
    ("find-tap", [⟨"dpid", none, some .anyText, true⟩, ⟨"port", none, some .number, true⟩,
      ⟨"sys-config", none, some .path, false⟩]),
    ("wait-devices", [topologyOption, domainOption])]

/-- Values by the names of their options, latest first. -/
abbrev Values : Type := List (String × String)

def valueOf? (values : Values) (name : String) : Option String :=
  (values.find? (·.1 = name)).map (·.2)

/-- What the arguments come to. -/
inductive Parsed where
  /-- A command with the values of its options. -/
  | command (name : String) (values : Values)
  /-- Help or the version is wanted. -/
  | help
  | wrong

def isAcceptable : ValueKind → String → Bool
  | .anyText, _ => true
  | .path, v => !v.isEmpty
  | .number, v =>
    match v.toList with
    | '-' :: digits => Numeral.value? 10 digits = some 0
    | cs => (Numeral.bounded? max32 cs).isSome

/-- One step through the arguments. -/
inductive Step where
  /-- An option and its value. -/
  | given (name value : String) (rest : List String)
  | helpWanted
  | notAnOption
  | mistaken

/-- The value of an option, which is attached to it or the next argument. -/
def takeValue (o : OptionSpec) (attached : Option (List Char)) (rest : List String) : Step :=
  match o.value, attached, rest with
  | none, none, _ => .given o.name "" rest
  | none, some _, _ => .mistaken
  | some kind, some cs, _ =>
    let v := String.ofList cs
    if isAcceptable kind v then .given o.name v rest else .mistaken
  | some kind, none, v :: rest =>
    if (Text.startsWith ['-'] v.toList && v ≠ "-") || !isAcceptable kind v then .mistaken
    else .given o.name v rest
  | some _, none, [] => .mistaken

/-- The value that stands right behind a letter, with or without an equals sign. -/
def attachedTo : List Char → Option (List Char)
  | [] => none
  | '=' :: cs => some cs
  | cs => some cs

/-- Reads one argument as an option. -/
def step (options : List OptionSpec) (hasVersion : Bool) (arg : String) (rest : List String) :
    Step :=
  match arg.toList with
  | '-' :: '-' :: cs =>
    let name := String.ofList (cs.takeWhile (· ≠ '='))
    let attached := match cs.dropWhile (· ≠ '=') with
      | _ :: value => some value
      | [] => none
    if (name = "help" || (name = "version" && hasVersion)) && attached.isNone then .helpWanted
    else match options.find? (·.name = name) with
      | some o => takeValue o attached rest
      | none => .mistaken
  | '-' :: c :: cs =>
    if c = 'h' || (c = 'V' && hasVersion) then .helpWanted
    else match options.find? (·.letter = some c) with
      | some o => takeValue o (attachedTo cs) rest
      | none => .mistaken
  | _ => .notAnOption

/-- Whether every option that is needed has a value. -/
def isComplete (options : List OptionSpec) (values : Values) : Bool :=
  options.all (fun o => !o.required || (valueOf? values o.name).isSome)

/-- Reads the arguments behind the name of a command. An option may be given once. -/
def parseCommand (name : String) (options : List OptionSpec) (outer : Values) :
    Nat → Values → List String → Parsed
  | 0, _, _ => .wrong
  | _ + 1, values, [] =>
    if isComplete options values then .command name (values ++ outer) else .wrong
  | n + 1, values, arg :: rest =>
    if arg = "--" then
      if rest.isEmpty && isComplete options values then .command name (values ++ outer) else .wrong
    else match step (options ++ globalOptions) false arg rest with
      | .given option value rest =>
        if (valueOf? values option).isSome then .wrong
        else parseCommand name options outer n ((option, value) :: values) rest
      | .helpWanted => .help
      | .notAnOption | .mistaken => .wrong

/-- What follows the command `help`: nothing, or the name of a command. -/
def parseHelp : List String → Parsed
  | [] => .help
  | [name] => if name = "help" || commandOptions.any (·.1 = name) then .help else .wrong
  | _ => .wrong

/-- Reads the arguments before the name of a command. -/
def parseFrom : Nat → Values → List String → Parsed
  | 0, _, _ => .wrong
  | _ + 1, _, [] => .wrong
  | n + 1, values, arg :: rest =>
    match step globalOptions true arg rest with
    | .given option value rest =>
      if (valueOf? values option).isSome then .wrong
      else parseFrom n ((option, value) :: values) rest
    | .helpWanted => .help
    | .mistaken => .wrong
    | .notAnOption =>
      if arg = "help" then parseHelp rest
      else match commandOptions.find? (·.1 = arg) with
        | some (name, options) => parseCommand name options values (rest.length + 1) [] rest
        | none => .wrong

/-- Reads a list of arguments. -/
def parse (args : List String) : Parsed := parseFrom (args.length + 1) [] args

end OpticalTestbed.CommandLine
