import OpticalTestbed.Console
import OpticalTestbed.Proofs.Text.Split
import OpticalTestbed.Proofs.World
/-!
Where paths lead, told from their texts alone, and what writing and removing leave in place.
-/
namespace OpticalTestbed

namespace FileTree

variable {t t' : FileTree} {here place p : Place} {path : String} {e : Entry} {bytes : ByteArray}

theorem lexicalPlace_append (here : Place) (ps qs : List (List Char)) :
    lexicalPlace here (ps ++ qs) = lexicalPlace (lexicalPlace here ps) qs := by
  induction ps generalizing here with
  | nil => rfl
  | cons piece ps ih =>
    simp only [List.cons_append, lexicalPlace]
    split
    · exact ih here
    · split
      · exact ih _
      · exact ih _

/-- The place that a path names, when relative paths start from a certain directory. -/
def lexical (here : Place) (path : String) : Place :=
  lexicalPlace (if Path.isAbsolute path then [] else here) (Path.pieces path)

theorem isAbsolute_append {base : String} (rest : String) (h : base.isEmpty = false) :
    Path.isAbsolute (base ++ rest) = Path.isAbsolute base := by
  have hne : base.toList ≠ [] := by
    intro hb
    rw [String.toList_eq_nil_iff.1 hb] at h
    cases h
  obtain ⟨c, cs, hb⟩ := List.exists_cons_of_ne_nil hne
  simp [Path.isAbsolute, String.toList_append, hb]

/-- A relative path below another one leads on from where that one leads. -/
theorem lexical_join (here : Place) (base : String) {rest : String}
    (h : Path.isAbsolute rest = false) :
    lexical here (Path.join base rest) = lexicalPlace (lexical here base) (Path.pieces rest) := by
  unfold Path.join
  rw [if_neg (by simp [h])]
  cases hempty : base.isEmpty with
  | true =>
    obtain rfl := String.isEmpty_iff.1 hempty
    have hhere : lexical here "" = here := rfl
    rw [hhere]
    simp [lexical, h]
  | false =>
    by_cases hslash : base.toList.getLast? = some '/'
    · obtain ⟨bs, hbs⟩ := List.getLast?_eq_some_iff.1 hslash
      have hp : Path.pieces base = Text.splitOn '/' bs ++ [[]] := by
        rw [Path.pieces, hbs, Text.splitOn_append]
        rfl
      have hpr : Path.pieces (base ++ rest) = Text.splitOn '/' bs ++ Path.pieces rest := by
        rw [Path.pieces, String.toList_append, hbs, List.append_assoc]
        exact Text.splitOn_append '/' bs rest.toList
      rw [if_pos (by simp [hslash])]
      simp only [lexical, isAbsolute_append rest hempty, hp, hpr, lexicalPlace_append]
      simp [lexicalPlace]
    · have hpr : Path.pieces (base ++ "/" ++ rest) = Path.pieces base ++ Path.pieces rest := by
        have hl : (base ++ "/" ++ rest).toList = base.toList ++ '/' :: rest.toList := by simp
        rw [Path.pieces, hl, Text.splitOn_append]
        rfl
      have habs : Path.isAbsolute (base ++ "/" ++ rest) = Path.isAbsolute base := by
        rw [String.append_assoc, isAbsolute_append _ hempty]
      rw [if_neg (by simp [hslash])]
      simp only [lexical, habs, hpr, lexicalPlace_append]

theorem walk_lexical {pieces : List (List Char)} (h : t.walk here pieces = .ok p) :
    p = lexicalPlace here pieces := by
  induction pieces generalizing here with
  | nil => exact (Except.ok.inj h).symm
  | cons piece rest ih =>
    simp only [walk] at h
    simp only [lexicalPlace]
    split at h
    · cases h
    · split at h
      · rename_i hskip
        rw [if_pos (by simpa using hskip)]
        exact ih h
      · rename_i hskip
        rw [if_neg (by simpa using hskip)]
        split at h
        · rename_i hup
          rw [if_pos hup]
          exact ih h
        · rename_i hup
          rw [if_neg hup]
          split at h
          · cases h
          · exact ih h

theorem place_lexical (h : t.place path = .ok p) : p = lexical t.current path := by
  simp only [FileTree.place] at h
  split at h
  · cases h
  · exact walk_lexical h

theorem find_lexical (h : t.find path = .ok (p, e)) : p = lexical t.current path := by
  simp only [find] at h
  split at h
  · cases h
  · rename_i place hplace
    split at h
    · cases h
      exact place_lexical hplace
    · cases h

theorem get?_put (t : FileTree) (place : Place) (e : Entry) (p : Place) :
    (t.put place e).get? p =
      if p = [] then some .directory else if p = place then some e else t.get? p := by
  simp only [get?, put, List.isEmpty_iff]
  split
  · rfl
  · rename_i hp
    by_cases he : p = place
    · simp [he]
    · have hne : ¬place = p := fun h => he h.symm
      simp only [List.find?_cons, hne, decide_false, List.find?_filter, he, if_false]
      congr 2
      funext a
      by_cases ha : a.1 = p <;> simp [ha, he]

theorem get?_put_other {place p : Place} (h : p ≠ place) : (t.put place e).get? p = t.get? p := by
  rw [get?_put, if_neg h]
  split
  · rename_i hp
    simp [get?, hp]
  · rfl

theorem get?_removeAll (h : ¬place <+: p) : (t.removeAll place).get? p = t.get? p := by
  have hp : place.isPrefixOf p = false :=
    Bool.eq_false_iff.2 fun hp => h (List.isPrefixOf_iff_prefix.1 hp)
  simp only [get?, removeAll, List.find?_filter]
  split
  · rfl
  · congr 2
    funext a
    by_cases ha : a.1 = p
    · simp [ha, hp]
    · simp [ha]

theorem renameTarget_ok (h : t.renameTarget path = .ok p) :
    p = lexical t.current path ∧ t.isDirectory p = false ∧ t.place path = .ok p := by
  simp only [renameTarget] at h
  split at h
  · cases h
  · split at h
    · cases h
    · split at h
      · cases h
      · split at h
        · cases h
        · rename_i place hplace
          split at h
          · cases h
          · rename_i hdir
            cases h
            exact ⟨place_lexical hplace, by simpa using hdir, hplace⟩

/-- A file that is written stands where its path leads, and all else stands as it did. -/
theorem writeAtomic_ok (h : t.writeAtomic path bytes = .ok t') :
    t.isDirectory (lexical t.current path) = false ∧
      t.place path = .ok (lexical t.current path) ∧
      t' = t.put (lexical t.current path) (.file bytes) := by
  unfold writeAtomic at h
  split at h
  · cases h
  · split at h
    · cases h
    · rename_i place hplace
      obtain ⟨rfl, hdir, hpath⟩ := renameTarget_ok hplace
      exact ⟨hdir, hpath, (Except.ok.inj h).symm⟩

/-- A new file can be made in the directory of a path, and be renamed to that path. -/
def Replaceable (t : FileTree) (path : String) : Prop :=
  t.directoryFault? (Path.directory path) = none ∧ ∃ place, t.renameTarget path = .ok place

/-- Whether a file can be written does not depend on what is written. -/
theorem exists_writeAtomic_iff :
    (∃ t', t.writeAtomic path bytes = .ok t') ↔ t.Replaceable path := by
  unfold writeAtomic Replaceable
  cases t.directoryFault? (Path.directory path) with
  | some fault => simp
  | none => cases t.renameTarget path <;> simp

-- what can be read cannot always be replaced
example (fault : FileFault) :
    let t : FileTree :=
      ⟨[(["work"], .sealed fault), (["work", "sys.config"], .file "[]".toUTF8)], []⟩
    t.readText "/work/sys.config" = .ok "[]" ∧
      t.writeAtomic "/work/sys.config" "[],".toUTF8 = .error ("/work", fault) :=
  ⟨rfl, rfl⟩

theorem get?_writeAtomic (h : t.writeAtomic path bytes = .ok t') :
    t'.get? (lexical t.current path) = some (.file bytes) := by
  obtain ⟨hdir, -, rfl⟩ := writeAtomic_ok h
  have hne : lexical t.current path ≠ [] := by
    intro hnil
    simp [isDirectory, get?, hnil] at hdir
  rw [get?_put, if_neg hne, if_pos rfl]

/-- Walking past a place where no directory was is not disturbed by a file put there. -/
theorem walk_put (hdir : t.isDirectory place = false) {pieces : List (List Char)}
    (h : t.walk here pieces = .ok p) : (t.put place e).walk here pieces = .ok p := by
  induction pieces generalizing here with
  | nil => exact h
  | cons piece rest ih =>
    simp only [walk] at h ⊢
    split at h
    · cases h
    · rename_i hhere
      have hne : here ≠ place := by
        rintro rfl
        simp [hdir] at hhere
      have hsame : (t.put place e).isDirectory here = t.isDirectory here := by
        simp only [isDirectory, get?_put_other hne]
      rw [hsame, if_neg hhere]
      split at h
      · rename_i hskip
        rw [if_pos hskip]
        exact ih h
      · rename_i hskip
        rw [if_neg hskip]
        split at h
        · rename_i hup
          rw [if_pos hup]
          exact ih h
        · rename_i hup
          rw [if_neg hup]
          split at h
          · cases h
          · rename_i hlength
            rw [if_neg hlength]
            exact ih h

theorem place_put (hdir : t.isDirectory p = false) {place : Place} (h : t.place path = .ok place) :
    (t.put p e).place path = .ok place := by
  simp only [FileTree.place] at h ⊢
  split at h
  · cases h
  · exact walk_put hdir h

theorem readBytes_writeAtomic (h : t.writeAtomic path bytes = .ok t') :
    t'.readBytes path = .ok bytes := by
  have hget := get?_writeAtomic h
  obtain ⟨hdir, hplace, rfl⟩ := writeAtomic_ok h
  have hafter := place_put (e := .file bytes) hdir hplace
  simp only [readBytes, find, hafter, hget]

/-- A text that was written is read back. -/
theorem readText_writeAtomic {text : String} (h : t.writeAtomic path text.toUTF8 = .ok t') :
    t'.readText path = .ok text := by
  have hread : String.fromUTF8? text.toUTF8 = some text := by
    simp only [String.fromUTF8?, String.toUTF8_eq_toByteArray, text.isValidUTF8, dif_pos]
    rfl
  simp only [readText, readBytes_writeAtomic h, hread]

/-- Texts elsewhere are read as before. -/
theorem readText_writeAtomic_other (h : t.writeAtomic path bytes = .ok t') {other text : String}
    (hread : t.readText other = .ok text)
    (hne : lexical t.current other ≠ lexical t.current path) : t'.readText other = .ok text := by
  obtain ⟨hdir, -, rfl⟩ := writeAtomic_ok h
  have hfind : (t.put (lexical t.current path) (.file bytes)).find other = t.find other := by
    cases hfound : t.find other with
    | error fault =>
      simp only [readText, readBytes, hfound] at hread
      cases hread
    | ok found =>
      obtain ⟨place, e⟩ := found
      obtain rfl := find_lexical hfound
      simp only [find] at hfound ⊢
      split at hfound
      · cases hfound
      · rename_i place hplace
        have hsame : place = lexical t.current other := place_lexical hplace
        rw [place_put hdir hplace]
        dsimp only
        rw [get?_put_other (hsame ▸ hne)]
        exact hfound
  simpa only [readText, readBytes, hfind] using hread

/-- Clearing a directory leaves alone what is not below it. -/
theorem clearDirectory_leaves (h : ¬lexical t.current path <+: p) :
    (t.clearDirectory path).2.current = t.current ∧
      (t.clearDirectory path).2.get? p = t.get? p := by
  unfold clearDirectory
  split
  · rename_i place e names hfind hlist
    obtain rfl := find_lexical hfind
    have hbelow : ∀ name : String, ¬lexical t.current path ++ [name] <+: p := fun name hp =>
      h ((List.prefix_append _ _).trans hp)
    -- every name is removed from below the directory
    have hall : ∀ (names : List (String × Entry)) (u : FileTree),
        (names.foldl (fun u e => u.removeAll (lexical t.current path ++ [e.1])) u).current =
            u.current ∧
          (names.foldl (fun u e => u.removeAll (lexical t.current path ++ [e.1])) u).get? p =
            u.get? p := by
      intro names
      induction names with
      | nil => exact fun u => ⟨rfl, rfl⟩
      | cons e names ih =>
        intro u
        obtain ⟨hc, hg⟩ := ih (u.removeAll (lexical t.current path ++ [e.1]))
        exact ⟨hc, hg.trans (get?_removeAll (hbelow e.1))⟩
    exact hall names t
  · exact ⟨rfl, rfl⟩

end FileTree

namespace World

variable {here place : Place} {path : String} {w w' : World}

theorem writeText_of_ok {text : String} {files : FileTree}
    (h : w.files.writeAtomic path text.toUTF8 = .ok files) :
    Op.writeText path text w = (.ok (), { w with files := files }) := by
  unfold Op.writeText Op.writeAtomic
  simp only [h]

theorem writeText_of_error {text : String} {place : String} {fault : FileFault}
    (h : w.files.writeAtomic path text.toUTF8 = .error (place, fault)) :
    Op.writeText path text w = (.error (.io place fault), w) := by
  unfold Op.writeText Op.writeAtomic
  simp only [h]

theorem writeText_ok {text : String} (h : Op.writeText path text w = (.ok (), w')) :
    w.files.writeAtomic path text.toUTF8 = .ok w'.files ∧ w'.history = w.history := by
  unfold Op.writeText Op.writeAtomic at h
  split at h
  · rename_i files hw
    cases h
    exact ⟨hw, rfl⟩
  · cases h

/-- Only files change when one is written. -/
theorem writeText_world {text : String} (h : Op.writeText path text w = (.ok (), w')) :
    w' = { w with files := w'.files } := by
  unfold Op.writeText Op.writeAtomic at h
  split at h
  · cases h
    rfl
  · cases h

theorem writeText_error {text : String} {e : Failure}
    (h : Op.writeText path text w = (.error e, w')) :
    (∃ at_ fault, e = .io at_ fault) ∧ w' = w := by
  unfold Op.writeText Op.writeAtomic at h
  split at h
  · cases h
  · cases h
    exact ⟨⟨_, _, rfl⟩, rfl⟩

theorem leaves_writeText (h : FileTree.lexical here path ≠ place) (text : String) :
    (Op.writeText path text).Along (Leaves here place) := by
  intro w hw
  unfold Op.writeText Op.writeAtomic
  split
  · rename_i files hfiles
    obtain ⟨-, -, rfl⟩ := FileTree.writeAtomic_ok hfiles
    rw [hw]
    exact ⟨hw, FileTree.get?_put_other fun hp => h hp.symm⟩
  · exact ⟨hw, rfl⟩

theorem leaves_clear {r : Release} (h : ¬FileTree.lexical here r.pipeDirectory <+: place) :
    (Console.clear r).Along (Leaves here place) := by
  intro w hw
  obtain ⟨hc, hg⟩ := @FileTree.clearDirectory_leaves w.files place r.pipeDirectory (by rwa [hw])
  exact ⟨hc.trans hw, hg⟩

end World

end OpticalTestbed
