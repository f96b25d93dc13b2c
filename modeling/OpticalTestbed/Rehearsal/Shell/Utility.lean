import OpticalTestbed.FileTree
/-!
The small programs that stand-in scripts use: printing, comparing and moving files about.
-/
namespace OpticalTestbed.Shell

/-- What a program printed on its two channels, how it ended, and the files afterwards. -/
structure Run where
  output : List UInt8
  errors : List UInt8
  status : Nat
  files : FileTree

def bytesOf (s : String) : List UInt8 := s.toUTF8.toList

namespace Run

def silent (files : FileTree) (status : Nat) : Run := ⟨[], [], status, files⟩

def printing (files : FileTree) (output : List UInt8) : Run := ⟨output, [], 0, files⟩

/-- The program complains and fails. -/
def failing (files : FileTree) (text : String) (status : Nat) : Run :=
  ⟨[], bytesOf (text ++ "\n"), status, files⟩

end Run

def octal? (c : Char) : Option Nat := if '0' ≤ c ∧ c ≤ '7' then some (c.toNat - 48) else none

/-- Up to `n` octal digits. -/
def octalFrom : Nat → Nat → List Char → Nat × List Char
  | n + 1, value, c :: cs =>
    match octal? c with
    | some d => octalFrom n (value * 8 + d) cs
    | none => (value, c :: cs)
  | _, value, cs => (value, cs)

/-- What a backslash and a letter stand for in printed text. -/
def printedEscape? (c : Char) : Option UInt8 :=
  match c with
  | 'a' => some 7
  | 'b' => some 8
  | 't' => some 9
  | 'n' => some 10
  | 'v' => some 11
  | 'f' => some 12
  | 'r' => some 13
  | '\\' => some 92
  | _ => none

/-- The bytes of a text with escapes; `zeroed` tells that octal numbers begin with a zero. -/
def unescaped (zeroed : Bool) : Nat → List Char → List UInt8
  | 0, _ => []
  | n + 1, cs =>
    match cs with
    | [] => []
    | '\\' :: c :: rest =>
      match printedEscape? c with
      | some b => b :: unescaped zeroed n rest
      | none =>
        if zeroed && c = '0' then
          let (value, rest) := octalFrom 3 0 rest
          UInt8.ofNat value :: unescaped zeroed n rest
        else if !zeroed && (octal? c).isSome then
          let (value, rest) := octalFrom 3 0 (c :: rest)
          UInt8.ofNat value :: unescaped zeroed n rest
        else 92 :: unescaped zeroed n (c :: rest)
    | c :: rest => bytesOf (String.singleton c) ++ unescaped zeroed n rest

def unescapedText (zeroed : Bool) (s : String) : List UInt8 :=
  unescaped zeroed (s.toList.length + 1) s.toList

/-- The arguments of `echo`, separated by blanks; `-n` leaves the newline out. Escapes are
interpreted when the shell itself does the printing. -/
def echo (inShell : Bool) (args : List String) : List UInt8 :=
  let (newline, args) := match args with
    | "-n" :: rest => (false, rest)
    | _ => (true, args)
  let text := joined " " args
  (if inShell then unescapedText true text else bytesOf text) ++ (if newline then [10] else [])

/-- One pass over the format of `printf`; what is left of the arguments, and whether any was
used. -/
def formatFrom : Nat → List Char → List String → Bool → List UInt8 × List String × Bool
  | 0, _, args, used => ([], args, used)
  | n + 1, cs, args, used =>
    match cs with
    | [] => ([], args, used)
    | '%' :: '%' :: rest =>
      let (bytes, args, used) := formatFrom n rest args used
      (37 :: bytes, args, used)
    | '%' :: c :: rest =>
      let arg := args.headD ""
      let shown :=
        if c = 's' then bytesOf arg
        else if c = 'b' then unescapedText true arg
        else if c = 'c' then bytesOf (String.ofList (arg.toList.take 1))
        else if arg.isEmpty then bytesOf "0" else bytesOf arg
      let (bytes, args, _) := formatFrom n rest (args.drop 1) true
      (shown ++ bytes, args, true)
    | '\\' :: c :: rest =>
      if (octal? c).isSome then
        let (value, rest) := octalFrom 3 0 (c :: rest)
        let (bytes, args, used) := formatFrom n rest args used
        (UInt8.ofNat value :: bytes, args, used)
      else
        let (bytes, args, used) := formatFrom n rest args used
        ((match printedEscape? c with
          | some b => [b]
          | none => if c = '"' then [34] else bytesOf (String.ofList ['\\', c])) ++ bytes,
          args, used)
    | c :: rest =>
      let (bytes, args, used) := formatFrom n rest args used
      (bytesOf (String.singleton c) ++ bytes, args, used)

/-- Repeats the format of `printf` until every argument is used. -/
def printfFrom : Nat → List Char → List String → List UInt8
  | 0, _, _ => []
  | n + 1, format, args =>
    let (bytes, rest, used) := formatFrom (format.length + 1) format args false
    if used && !rest.isEmpty then bytes ++ printfFrom n format rest else bytes

def printf : List String → List UInt8
  | [] => []
  | format :: args => printfFrom (args.length + 1) format.toList args

/-- The whole number that a text denotes, for comparisons. -/
def comparedNumber (s : String) : Int :=
  match s.toList with
  | '-' :: cs => -((Numeral.value? 10 cs).getD 0 : Int)
  | cs => (Numeral.value? 10 cs).getD 0

def exists_ (files : FileTree) (path : String) : Bool := files.canOpen path

def isFile (files : FileTree) (path : String) : Bool :=
  match files.find path with
  | .ok (_, .file _) => true
  | _ => false

def isDirectoryAt (files : FileTree) (path : String) : Bool :=
  match files.find path with
  | .ok (_, .directory) | .ok (_, .sealed _) => true
  | _ => false

/-- The outcome of a comparison. -/
def holds (files : FileTree) : List String → Bool
  | "!" :: rest@(_ :: _) => !holds files rest
  | [a, op, b] =>
    match op with
    | "=" | "==" => a = b
    | "!=" => a ≠ b
    | "-eq" => comparedNumber a = comparedNumber b
    | "-ne" => comparedNumber a ≠ comparedNumber b
    | "-lt" => comparedNumber a < comparedNumber b
    | "-le" => comparedNumber a ≤ comparedNumber b
    | "-gt" => comparedNumber b < comparedNumber a
    | "-ge" => comparedNumber b ≤ comparedNumber a
    | _ => false
  | [op, a] =>
    match op with
    | "-n" => !a.isEmpty
    | "-z" => a.isEmpty
    | "-e" => exists_ files a
    | "-f" => isFile files a
    | "-d" => isDirectoryAt files a
    | _ => false
  | [a] => !a.isEmpty
  | _ => false

def statusOf (b : Bool) : Nat := if b then 0 else 1

/-- Prints files one after the other. -/
def cat (files : FileTree) : List String → Run
  | [] => .silent files 0
  | path :: more =>
    let rest := cat files more
    match files.readBytes path with
    | .ok bytes => { rest with output := bytes.toList ++ rest.output }
    | .error fault =>
      { rest with
        errors := bytesOf ("cat: " ++ path ++ ": " ++ reason fault ++ "\n") ++ rest.errors
        status := 1 }
where
  reason (fault : FileFault) : String :=
    String.ofList ((Text.cutAt? " (os error".toList fault.systemText.toList).elim
      fault.systemText.toList (·.1))

/-- Copies a file over another path, or into a directory. -/
def cp (files : FileTree) (source target : String) : Run :=
  match files.readBytes source with
  | .error _ =>
    .failing files ("cp: cannot stat '" ++ source ++ "': No such file or directory") 1
  | .ok bytes =>
    let target := if isDirectoryAt files target then
        Path.join target ((Path.fileName? source).getD source)
      else target
    match files.overwrite target bytes with
    | .ok files => .silent files 0
    | .error _ =>
      .failing files ("cp: cannot create regular file '" ++ target ++
        "': No such file or directory") 1

/-- Removes what some paths name. -/
def rm (files : FileTree) (paths : List String) : FileTree :=
  paths.foldl (fun files path =>
    match files.find path with
    | .ok (place, _) => files.removeAll place
    | .error _ => files) files

def mkdir (files : FileTree) (paths : List String) : FileTree :=
  paths.foldl (fun files path => (files.createDirectories path).2) files

def touch (files : FileTree) (paths : List String) : FileTree :=
  paths.foldl (fun files path =>
    if exists_ files path then files
    else match files.overwrite path ByteArray.empty with
      | .ok files => files
      | .error _ => files) files

def isOption (arg : String) : Bool := Text.startsWith ['-'] arg.toList

/-- The current directory as a path. -/
def currentPath (files : FileTree) : String := "/" ++ joined "/" files.current

/-- Runs a small program by name, if there is one; `inShell` tells that the shell has it
built in. -/
def utility? (inShell : Bool) (files : FileTree) (name : String) (args : List String) :
    Option Run :=
  let operands := args.filter (!isOption ·)
  match name with
  | "echo" => some (.printing files (echo inShell args))
  | "printf" => some (.printing files (printf args))
  | "true" | ":" | "sleep" => some (.silent files 0)
  | "false" => some (.silent files 1)
  | "test" => some (.silent files (statusOf (holds files args)))
  | "[" => some (.silent files (if args.getLast? = some "]" then
      statusOf (holds files args.dropLast) else 2))
  | "cat" => some (cat files operands)
  | "pwd" => some (.printing files (bytesOf (currentPath files ++ "\n")))
  | "whoami" => some (.printing files (bytesOf "root\n"))
  | "rm" => some (.silent (rm files operands) 0)
  | "mkdir" => some (.silent (mkdir files operands) 0)
  | "touch" => some (.silent (touch files operands) 0)
  | "cp" =>
    match operands with
    | [source, target] => some (cp files source target)
    | _ => some (.failing files "cp: missing file operand" 1)
  | _ => none

end OpticalTestbed.Shell
