import OpticalTestbed.Devices
import OpticalTestbed.FileTree
import OpticalTestbed.Invocation
/-!
What a bring-up acts on: the files, the cancellation flag and the calls made so far. Outside parties
answer each call as they like; all that is known of them is what they left behind.
-/
namespace OpticalTestbed

/-- One call to an outside party, with its answer. -/
inductive Event where
  | ran (call : Invocation) (answer : Except Failure String)
  /-- The switch host was asked to take a tap into a packet switch. -/
  | attached (node tap : String) (answer : Except Failure Unit)
  /-- The switch host was asked to give a tap up. -/
  | detached (node tap : String) (answer : Except Failure Unit)
  | fetched (answer : Except Failure DeviceList)

/-- A call, and the files that it found. -/
structure Occurrence where
  event : Event
  seen : FileTree

structure World where
  files : FileTree
  cancelled : Bool
  /-- The calls so far, latest first. -/
  history : List Occurrence

/-- What a call to an outside party comes to: its answer, the files afterwards, and whether the
cancellation flag was raised meanwhile. -/
structure Reply (α : Type) where
  answer : Except Failure α
  files : FileTree
  raises : Bool

/-- The outside parties. An answer may depend on everything that happened before. -/
structure Outside where
  run : World → Invocation → Reply String
  attach : World → (node tap : String) → Reply Unit
  detach : World → (node tap : String) → Reply Unit
  fetch : World → Reply DeviceList

/-- Work on the world that answers or fails; either way the world may have changed. -/
def Op (α : Type) : Type := World → Except Failure α × World

namespace World

/-- The world after a call. -/
def after {α : Type} (w : World) (event : Except Failure α → Event) (r : Reply α) : World where
  files := r.files
  cancelled := w.cancelled || r.raises
  history := ⟨event r.answer, w.files⟩ :: w.history

end World

namespace Outside

/-- Runs a program to completion. -/
def call (o : Outside) (i : Invocation) : Op String := fun w =>
  let r := o.run w i
  (r.answer, w.after (.ran i) r)

def attachTap (o : Outside) (node tap : String) : Op Unit := fun w =>
  let r := o.attach w node tap
  (r.answer, w.after (.attached node tap) r)

def detachTap (o : Outside) (node tap : String) : Op Unit := fun w =>
  let r := o.detach w node tap
  (r.answer, w.after (.detached node tap) r)

def fetchDevices (o : Outside) : Op DeviceList := fun w =>
  let r := o.fetch w
  (r.answer, w.after .fetched r)

end Outside

namespace Op

variable {α β : Type}

/-- Goes on with the answer; a failure ends the work. -/
def andThen (x : Op α) (f : α → Op β) : Op β := fun w =>
  match x w with
  | (.ok a, w') => f a w'
  | (.error e, w') => (.error e, w')

instance : Monad Op where
  pure a := fun w => (.ok a, w)
  bind := andThen

@[simp] theorem pure_apply (a : α) (w : World) : (pure a : Op α) w = (.ok a, w) := rfl

theorem bind_apply (x : Op α) (f : α → Op β) (w : World) :
    (x >>= f) w = match x w with
      | (.ok a, w') => f a w'
      | (.error e, w') => (.error e, w') := rfl

theorem bind_of_ok {x : Op α} {f : α → Op β} {w w' : World} {a : α} (h : x w = (.ok a, w')) :
    (x >>= f) w = f a w' := by rw [bind_apply, h]

theorem bind_of_error {x : Op α} {f : α → Op β} {w w' : World} {e : Failure}
    (h : x w = (.error e, w')) : (x >>= f) w = (.error e, w') := by rw [bind_apply, h]

def fail (e : Failure) : Op α := fun w => (.error e, w)

/-- Never fails: the answer of the work, or its failure, as a value. -/
def attempt (x : Op α) : Op (Except Failure α) := fun w =>
  let (r, w') := x w
  (.ok r, w')

/-- Reads a file as text. -/
def readText (path : String) : Op String := fun w =>
  match w.files.readText path with
  | .ok text => (.ok text, w)
  | .error fault => (.error (.io path fault), w)

/-- Writes a file so that its path holds either the old bytes or the new ones. -/
def writeAtomic (path : String) (bytes : ByteArray) : Op Unit := fun w =>
  match w.files.writeAtomic path bytes with
  | .ok files => (.ok (), { w with files := files })
  | .error (at_, fault) => (.error (.io at_ fault), w)

/-- Writes a text file in the same way. -/
def writeText (path text : String) : Op Unit := writeAtomic path text.toUTF8

end Op

end OpticalTestbed
