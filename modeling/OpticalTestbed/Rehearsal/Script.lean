import OpticalTestbed.OpenVSwitch
/-!
Outside parties that answer from a script, so that a bring-up can be rehearsed. What has been said
already is read from the history, so a script needs no state of its own.
-/
namespace OpticalTestbed

/-- What calls whose text begins in a certain way print, one time after the other. The last output
stands for all later times; no output means that the program cannot be run. -/
structure Rule where
  start : String
  outputs : List (Option String)

structure Script where
  rules : List Rule
  /-- What the generator of `sys.config` writes. -/
  generated : Option String
  /-- The successive reports of the controller; nothing stands for a request that fails. The last
  one stands for all later times. -/
  reports : List (Option DeviceList)
  /-- The program call, counted from one, during which the cancellation flag is raised. -/
  cancelAtCall : Option Nat
  /-- The request for devices during which it is raised. -/
  cancelAtFetch : Option Nat

namespace Script

/-- The program call behind an event. -/
def callOf? : Event → Option Invocation
  | .ran call _ => some call
  | .attached node tap _ => some (OpenVSwitch.attachCall node tap)
  | .detached node tap _ => some (OpenVSwitch.detachCall node tap)
  | .fetched _ => none

/-- The program calls of a history, earliest first. -/
def calls (history : List Occurrence) : List Invocation :=
  (history.filterMap (fun e => callOf? e.event)).reverse

/-- How many requests for devices there have been. -/
def fetches (history : List Occurrence) : Nat :=
  (history.filter (fun e => match e.event with
    | .fetched _ => true
    | _ => false)).length

/-- The item at a position, or the last one if there are fewer. -/
def atOrLast {α : Type} : List α → Nat → Option α
  | [], _ => none
  | [x], _ => some x
  | x :: _, 0 => some x
  | _ :: xs, n + 1 => atOrLast xs n

/-- The position of the first rule for a call. -/
def ruleOf? (s : Script) (i : Invocation) : Option Nat :=
  s.rules.findIdx? (fun r => Text.startsWith r.start.toList i.text.toList)

/-- What a call is answered after the given ones. -/
def answer (s : Script) (before : List Invocation) (i : Invocation) : Except Failure String :=
  match s.ruleOf? i with
  | none => .ok ""
  | some n =>
    let uses := (before.filter (fun j => s.ruleOf? j = some n)).length
    match (s.rules[n]?).bind (fun r => atOrLast r.outputs uses) with
    | some (some output) => .ok output
    | some none => .error (.commandFailed i.text FileFault.notFound.text)
    | none => .ok ""

/-- The files after a call: the generator writes `sys.config` in the directory it is run in. -/
def filesAfter (s : Script) (i : Invocation) (files : FileTree) : FileTree :=
  match s.generated, i.directory with
  | some text, some directory =>
    if i.programName = "config_generator" then
      match files.overwrite (Path.join directory "sys.config") text.toUTF8 with
      | .ok files => files
      | .error _ => files
    else files
  | _, _ => files

def run (s : Script) (w : World) (i : Invocation) : Reply String :=
  let before := calls w.history
  ⟨s.answer before i, s.filesAfter i w.files, s.cancelAtCall = some (before.length + 1)⟩

def fetch (s : Script) (w : World) : Reply DeviceList :=
  let before := fetches w.history
  { answer := match atOrLast s.reports before with
      | some (some report) => .ok report
      | some none => .error (.http .transport)
      | none => .ok ⟨[]⟩
    files := w.files
    raises := s.cancelAtFetch = some (before + 1) }

/-- The outside parties of a rehearsal; the switch host is Open vSwitch on the scripted programs. -/
def outside (s : Script) : Outside := OpenVSwitch.outside s.run s.fetch

end Script

end OpticalTestbed
