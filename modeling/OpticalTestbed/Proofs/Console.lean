import OpticalTestbed.Proofs.FileTree
/-!
What the pipe of the console is given when a command is sent: one line, behind what the pipe holds,
if somebody is there to read it.
-/
namespace OpticalTestbed

namespace FileTree

variable {t t' : FileTree} {path : String} {bytes : ByteArray}

/-- What becomes of a tree when some bytes are sent to a path. A pipe that is held at its other end
takes them behind what it holds, a file over its beginning, and nothing else takes them. -/
inductive Sent (path : String) (bytes : ByteArray) (t : FileTree) : FileTree → Prop
  | piped {place : Place} {held : PipeEnd} {content : ByteArray} :
    t.find path = .ok (place, .pipe held content) → held ≠ .nobody →
    Sent path bytes t (t.put place (.pipe held (content ++ bytes)))
  | laidOver {place : Place} {old : ByteArray} : t.find path = .ok (place, .file old) →
    Sent path bytes t (t.put place (.file (bytes ++ old.extract bytes.size old.size)))
  | lost : (∀ place old, t.find path ≠ .ok (place, .file old)) →
    (∀ place held content, t.find path = .ok (place, .pipe held content) → held = .nobody) →
    Sent path bytes t t

theorem send_ok (h : t.send path bytes = .ok t') : Sent path bytes t t' := by
  unfold send at h
  split at h
  · cases h
  · rename_i place old hfind
    cases h
    exact .laidOver hfind
  · cases h
  · cases h
  · cases h
  · rename_i place held content hnobody hfind
    cases h
    exact .piped hfind hnobody

theorem send_error {fault : FileFault} (h : t.send path bytes = .error fault) :
    Sent path bytes t t := by
  refine .lost (fun place old hfind => ?_) fun place held content hfind => ?_
  · simp [send, hfind] at h
  · cases held with
    | nobody => rfl
    | reader => simp [send, hfind] at h
    | writer => simp [send, hfind] at h

theorem find_ok {place : Place} {e : Entry} (h : t.find path = .ok (place, e)) :
    t.get? place = some e := by
  unfold find at h
  split at h
  · cases h
  · split at h
    · rename_i hget
      cases h
      exact hget
    · cases h

end FileTree

/-- The pipe of the console is given one line, and nothing else is done. -/
inductive World.Puts (r : Release) (line : String) (w : World) : World → Prop
  | intro {files : FileTree} : w.files.Sent r.writePipe line.toUTF8 files →
    World.Puts r line w { w with files := files }

section Console

variable {r : Release} {line : String} {w w' : World} {place : Place} {content : ByteArray}

theorem Console.tell_puts (r : Release) (c : ConsoleCommand) (w : World) :
    w.Puts r c.wire (Console.tell r c w).2 := by
  refine .intro ?_
  unfold Console.send
  split
  · rename_i files hsent
    exact FileTree.send_ok hsent
  · rename_i fault hlost
    exact FileTree.send_error hlost

/-- Where the emulator reads its pipe, the line stands behind what the pipe held. -/
theorem World.Puts.get?_pipe (h : w.Puts r line w')
    (hfind : w.files.find r.writePipe = .ok (place, .pipe .reader content)) :
    w'.files.current = w.files.current ∧
      w'.files.get? place = some (.pipe .reader (content ++ line.toUTF8)) := by
  obtain ⟨hsent⟩ := h
  have hne : place ≠ [] := by
    rintro rfl
    cases FileTree.find_ok hfind
  cases hsent with
  | piped hfind' =>
    cases hfind.symm.trans hfind'
    exact ⟨rfl, by rw [FileTree.get?_put, if_neg hne, if_pos rfl]⟩
  | laidOver hfind' => cases hfind.symm.trans hfind'
  | lost _ hlost => cases hlost _ _ _ hfind

end Console

end OpticalTestbed
