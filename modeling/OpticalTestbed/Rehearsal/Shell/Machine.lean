import OpticalTestbed.Dict
import OpticalTestbed.HostAddress
import OpticalTestbed.OpenVSwitch
import OpticalTestbed.Rehearsal.Shell.Script
import OpticalTestbed.Rehearsal.Shell.Utility
/-!
A machine whose programs are scripts in its file tree and a few small ones of its own.
-/
namespace OpticalTestbed.Shell

/-- The environment of the programs, and which files are programs. -/
structure Machine where
  environment : Dict String String
  isExecutable : Place → Bool

/-- A script at work. -/
structure State where
  files : FileTree
  environment : Dict String String
  /-- The name of the script and its arguments. -/
  arguments : List String
  output : List UInt8
  errors : List UInt8
  status : Nat
  /-- Whether the script has ended itself. -/
  finished : Bool

/-- The value of a parameter that has just one. -/
def State.valueOf (s : State) : Parameter → String
  | .position n => (s.arguments[n]?).getD ""
  | .allArguments | .joinedArguments => joined " " (s.arguments.drop 1)
  | .argumentCount => decimalText (s.arguments.length - 1)
  | .status => decimalText s.status
  | .variable name => s.environment.getD (String.ofList name) ""

def Trim.apply : Trim → String → String
  | .nothing, v => v
  | .directories, v => String.ofList (v.toList.reverse.takeWhile (· ≠ '/')).reverse
  | .fileName, v =>
    if v.toList.contains '/' then
      String.ofList ((v.toList.reverse.dropWhile (· ≠ '/')).drop 1).reverse
    else v

def isFieldBlank (c : Char) : Bool := c = ' ' || c = '\t' || c = '\n'

/-- The fields between blanks. -/
def fieldsOf (cs : List Char) : List (List Char) :=
  ((cs.splitBy (fun a b => isFieldBlank a == isFieldBlank b)).filter
    (fun part => !part.all isFieldBlank))

/-- The fields of a word so far, and the one that is still growing. -/
structure Fields where
  done : List String
  current : Option (List Char)

namespace Fields

/-- Lets the current field grow. -/
def grow (f : Fields) (cs : List Char) : Fields :=
  { f with current := some (f.current.getD [] ++ cs) }

def close (f : Fields) : Fields :=
  match f.current with
  | some cs => ⟨f.done ++ [String.ofList cs], none⟩
  | none => f

/-- Goes on with further fields, the first of which continues the current one. -/
def extend (f : Fields) : List (List Char) → Fields
  | [] => f
  | [cs] => f.grow cs
  | cs :: more => extend (f.grow cs).close more

/-- Goes on with a value that is split at its blanks. -/
def split (f : Fields) (cs : List Char) : Fields :=
  let f := if (cs.head?.map isFieldBlank).getD false then f.close else f
  let f := f.extend (fieldsOf cs)
  if (cs.getLast?.map isFieldBlank).getD false then f.close else f

end Fields

def expandPiece (s : State) (f : Fields) : Piece → Fields
  | .text cs quoted => if quoted || !cs.isEmpty then f.grow cs else f
  | .value .allArguments .nothing true => f.extend ((s.arguments.drop 1).map String.toList)
  | .value p trim quoted =>
    let v := (trim.apply (s.valueOf p)).toList
    if quoted then f.grow v else f.split v

/-- A quoted list of no arguments leaves no field, though the quotes are there. -/
def isBareArguments : Word → Bool
  | [.text [] true, .value .allArguments .nothing true] => true
  | _ => false

/-- The fields that a word stands for. -/
def expand (s : State) (w : Word) : List String :=
  if isBareArguments w && s.arguments.length ≤ 1 then []
  else (w.foldl (expandPiece s) ⟨[], none⟩).close.done

/-- A word that stands for one text. -/
def expandWhole (s : State) (w : Word) : String := joined " " (expand s w)

/-- Where the two channels go: to the script's own channels, or to a file. -/
inductive Sink where
  | channel (n : Nat)
  | file (path : String)
  | nowhere

structure Sinks where
  output : Sink
  errors : Sink

def Sinks.get (k : Sinks) (channel : Nat) : Sink := if channel = 2 then k.errors else k.output

def Sinks.set (k : Sinks) (channel : Nat) (sink : Sink) : Sinks :=
  if channel = 2 then { k with errors := sink } else { k with output := sink }

/-- Opens the targets of redirections from left to right; a file that is not appended to is
emptied. -/
def openSinks (s : State) : Sinks → List Redirection → Except String (Sinks × State)
  | k, [] => .ok (k, s)
  | k, r :: more =>
    match r.target with
    | .same channel => openSinks s (k.set r.channel (k.get channel)) more
    | .file append w =>
      let path := expandWhole s w
      if path = "/dev/null" then openSinks s (k.set r.channel .nowhere) more
      else
        let old := match s.files.readBytes path with
          | .ok bytes => if append then bytes else ByteArray.empty
          | .error _ => ByteArray.empty
        match s.files.overwrite path old with
        | .ok files => openSinks { s with files := files } (k.set r.channel (.file path)) more
        | .error _ => .error path
termination_by _ rs => rs.length

/-- Sends bytes to a sink. -/
def State.emit (s : State) (bytes : List UInt8) : Sink → State
  | .channel 2 => { s with errors := s.errors ++ bytes }
  | .channel _ => { s with output := s.output ++ bytes }
  | .nowhere => s
  | .file path =>
    match s.files.readBytes path with
    | .error _ => s
    | .ok old =>
      match s.files.overwrite path (old ++ ⟨bytes.toArray⟩) with
      | .ok files => { s with files := files }
      | .error _ => s

/-- What a program file is: a script, its own small program, or why it cannot be run. -/
inductive Program where
  | script (text : String)
  | utility (name : String)

def interpreterMark : List Char := ['#', '!']

/-- The directories of programs that are not in the tree. -/
def systemDirectories : List String := ["/bin", "/usr/bin"]

/-- The names of the machine's own programs. -/
def systemPrograms : List String :=
  ["sh", "echo", "printf", "true", "false", "test", "[", "cat", "pwd", "whoami", "rm", "mkdir",
    "touch", "cp", "sleep"]

namespace Machine

/-- The program at a path. -/
def programAt (m : Machine) (files : FileTree) (path : String) : Except FileFault Program :=
  match files.find path with
  | .error fault =>
    let name := (Path.fileName? path).getD ""
    if systemDirectories.contains ((Path.parent? path).getD "") && systemPrograms.contains name then
      .ok (.utility name)
    else .error fault
  | .ok (place, .file bytes) =>
    if !m.isExecutable place then .error .permissionDenied
    else
      let text := Utf8.lossy bytes
      match Text.stripFront? interpreterMark text.toList with
      | none => .error .badFormat
      | some rest =>
        let interpreter := Text.trim (rest.takeWhile (· ≠ '\n'))
        if interpreter = "/bin/sh".toList || interpreter = "/bin/bash".toList then
          .ok (.script text)
        else .error .notFound
  | .ok _ => .error .permissionDenied

/-- The first program of a name in some directories. A file that may not be run is passed over, but
is what the search fails with; one that cannot be run ends the search. -/
def search (m : Machine) (files : FileTree) (name : String) (refused : Bool) : List String →
    Except FileFault (String × Program)
  | [] => .error (if refused then .permissionDenied else .notFound)
  | dir :: more =>
    match m.programAt files (Path.join dir name) with
    | .ok p => .ok (Path.join dir name, p)
    | .error .permissionDenied => search m files name true more
    | .error .notFound | .error .notADirectory => search m files name refused more
    | .error fault => .error fault

/-- The directories that programs are looked for in. -/
def searchPath (m : Machine) : List String :=
  (Text.splitOn ':' (m.environment.getD "PATH" "/usr/bin:/bin").toList).map String.ofList

/-- The program that a name or a path stands for, and its path. -/
def resolve (m : Machine) (files : FileTree) (program : String) :
    Except FileFault (String × Program) :=
  if program.isEmpty then .error .notFound
  else if program.toList.contains '/' then (m.programAt files program).map (program, ·)
  else if FileTree.nameLimit < program.utf8ByteSize then .error .invalidFilename
  else m.search files program false m.searchPath

/-- An assignment to a variable. -/
def assignment? (w : Word) : Option (List Char × Word) :=
  match w with
  | .text cs false :: more =>
    match Text.cutAt? ['='] cs with
    | some (name, value) =>
      if name.head?.any isNameStart && name.all isNameChar then
        some (name, .text value false :: more)
      else none
    | none => none
  | _ => none

mutual

/-- Runs a program that has been found. -/
def runProgram (m : Machine) : Nat → FileTree → (path : String) → Program → List String → Run
  | 0, files, _, _, _ => .silent files 1
  | n + 1, files, path, program, args =>
    match program with
    | .script text => runScript m n files text (path :: args)
    | .utility "sh" =>
      match args with
      | "-c" :: text :: name :: rest => runScript m n files text (name :: rest)
      | ["-c", text] => runScript m n files text ["sh"]
      | file :: rest =>
        match files.readText file with
        | .ok text => runScript m n files text (file :: rest)
        | .error _ => .failing files ("sh: 0: cannot open " ++ file ++ ": No such file") 2
      | [] => .silent files 0
    | .utility name => (utility? false files name args).getD (.silent files 0)

/-- Runs a script with a name and arguments. -/
def runScript (m : Machine) : Nat → FileTree → (text : String) → List String → Run
  | 0, files, _, _ => .silent files 1
  | n + 1, files, text, arguments =>
    match Script.ofText? text with
    | none => .failing files (arguments.headD "sh" ++ ": Syntax error") 2
    | some script =>
      let s := runCommands m n script ⟨files, m.environment, arguments, [], [], 0, false⟩
      ⟨s.output, s.errors, s.status, s.files⟩

/-- Runs the commands of a script, as far as their conditions hold. -/
def runCommands (m : Machine) : Nat → Script → State → State
  | 0, _, s => s
  | _ + 1, [], s => s
  | n + 1, (condition, c) :: more, s =>
    if s.finished then s
    else
      let runs := match condition with
        | .always => true
        | .onSuccess => s.status = 0
        | .onFailure => s.status ≠ 0
      runCommands m n more (if runs then runCommand m n c s else s)

/-- Runs one command. Assignments in front of it, or in its place, set variables. -/
def runCommand (m : Machine) : Nat → Command → State → State
  | 0, _, s => s
  | n + 1, c, s =>
    match c.words with
    | [] => s
    | w :: more =>
      match assignment? w with
      | some (name, value) =>
        let s := { s with
          environment := s.environment.insert (String.ofList name) (expandWhole s value)
          status := 0 }
        runCommand m n { c with words := more } s
      | none =>
        match openSinks s ⟨.channel 1, .channel 2⟩ c.redirections with
        | .error path =>
          { s with
            errors := s.errors ++ bytesOf (s.arguments.headD "sh" ++
              ": 1: cannot create " ++ path ++ ": Directory nonexistent\n")
            status := 2 }
        | .ok (sinks, s) =>
          match c.words.flatMap (expand s) with
          | [] => s
          | "exit" :: rest =>
            { s with
              finished := true
              status := (rest.head?.map (fun v => (comparedNumber v).toNat % 256)).getD s.status }
          | name :: args =>
            let r := match utility? true s.files name args with
              | some r => r
              | none =>
                match m.resolve s.files name with
                | .ok (path, program) => runProgram m n s.files path program args
                | .error .permissionDenied =>
                  .failing s.files (s.arguments.headD "sh" ++ ": 1: " ++ name ++
                    ": Permission denied") 126
                | .error _ =>
                  .failing s.files (s.arguments.headD "sh" ++ ": 1: " ++ name ++ ": not found") 127
            let s := { s with files := r.files, status := r.status }
            (s.emit r.output sinks.output).emit r.errors sinks.errors

end

/-- How deeply calls of programs may nest, and how many commands one script may have. -/
def callLimit : Nat := 10000

/-- Whether a text of a call holds the character zero. -/
def holdsZero (i : Invocation) : Bool :=
  ((i.program :: i.args) ++ i.directory.toList).any (fun s => s.toList.any (·.toNat = 0))

/-- The files as a call sees them: from the directory that it is to run in. -/
def fromDirectory (files : FileTree) (i : Invocation) : Except FileFault FileTree :=
  if holdsZero i then .error .invalidInput
  else match i.directory with
    | none => .ok files
    | some d =>
      match files.find d with
      | .error fault => .error fault
      | .ok (place, .directory) | .ok (place, .sealed _) => .ok { files with current := place }
      | .ok _ => .error .notADirectory

/-- The text that a call prints, first on the one channel and then on the other. -/
def answer (m : Machine) (files : FileTree) (i : Invocation) :
    Except FileFault (String × FileTree) :=
  match fromDirectory files i with
  | .error fault => .error fault
  | .ok there =>
    match m.resolve there i.program with
    | .error fault => .error fault
    | .ok (path, program) =>
      let r := runProgram m callLimit there path program i.args
      .ok (Utf8.lossy ⟨r.output.toArray⟩ ++ Utf8.lossy ⟨r.errors.toArray⟩,
        { r.files with current := files.current })

/-- Runs a program on the machine. -/
def run (m : Machine) (w : World) (i : Invocation) : Reply String :=
  match m.answer w.files i with
  | .ok (text, files) => ⟨.ok text, files, false⟩
  | .error fault => ⟨.error (.commandFailed i.text fault.systemText), w.files, false⟩

/-- The outside parties of a machine on which no controller answers. -/
def outside (m : Machine) (address : String) : Outside :=
  OpenVSwitch.outside m.run (fun w => ⟨.error (.http (unansweredFault address)), w.files, false⟩)

end Machine

end OpticalTestbed.Shell
