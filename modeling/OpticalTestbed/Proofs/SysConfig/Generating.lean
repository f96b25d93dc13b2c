import OpticalTestbed.Proofs.FileTree
import OpticalTestbed.Proofs.Text.Chars
import OpticalTestbed.Proofs.Traces
import OpticalTestbed.SysConfig.Generation
/-!
Making the startup configuration. The generator may leave anything behind; what it left is replaced
if its run was clean, and nothing else is touched in any case.
-/
namespace OpticalTestbed.SysConfig

variable {path left : String} {controllers : List Controller}
  {called result : Except Failure String × World}

/-- The generator was run and printed blanks at most. -/
def Silent (answer : Except Failure String) : Prop :=
  ∃ output, answer = .ok output ∧ ∀ c ∈ output.toList, Text.isBlank c = true

/-- The generator kept silent and left a text at a path where another file can take its place. -/
structure Clean (path left : String) (called : Except Failure String × World) : Prop where
  silent : Silent called.1
  readable : called.2.files.readText path = .ok left
  replaceable : called.2.files.Replaceable path

/-- How a request for the startup configuration ends, from what the generator's call came to. -/
inductive Ends (path : String) (controllers : List Controller)
    (called : Except Failure String × World) : Except Failure String × World → Prop
  | failed {e : Failure} : called.1 = .error e → Ends path controllers called (.error e, called.2)
  | printed {output : String} : called.1 = .ok output → ¬Silent called.1 →
    Ends path controllers called (.error (.synthesisFailure (trimmed output)), called.2)
  | unreadable {fault : FileFault} : Silent called.1 →
    called.2.files.readText path = .error fault →
    Ends path controllers called (.error (.io path fault), called.2)
  | unwritable {left place : String} {fault : FileFault} : Silent called.1 →
    called.2.files.readText path = .ok left → ¬called.2.files.Replaceable path →
    Ends path controllers called (.error (.io place fault), called.2)
  | patched {left : String} {files : FileTree} : Clean path left called →
    called.2.files.writeAtomic path (patchControllers left controllers).toUTF8 = .ok files →
    Ends path controllers called (.ok path, { called.2 with files := files })

theorem silent_ok_iff {output : String} :
    Silent (.ok output) ↔ (trimmed output).isEmpty = true := by
  rw [isEmpty_trimmed_iff]
  constructor
  · rintro ⟨_, h, hblank⟩
    cases h
    exact hblank
  · exact fun hblank => ⟨output, rfl, hblank⟩

/-- What is done after a silent run: reading, patching and writing. -/
theorem patch_ends {answer : Except Failure String} (v : World) (hsilent : Silent answer) :
    Ends path controllers (answer, v) ((do
      let text ← Op.readText path
      Op.writeText path (patchControllers text controllers)
      return path : Op String) v) := by
  cases hread : v.files.readText path with
  | error fault =>
    have hfailed : Op.readText path v = (.error (.io path fault), v) := by
      simp only [Op.readText, hread]
    rw [Op.bind_of_error hfailed]
    exact .unreadable hsilent hread
  | ok left =>
    have hdone : Op.readText path v = (.ok left, v) := by simp only [Op.readText, hread]
    rw [Op.bind_of_ok hdone]
    cases hwrite : v.files.writeAtomic path (patchControllers left controllers).toUTF8 with
    | error e =>
      rw [Op.bind_of_error (World.writeText_of_error hwrite)]
      refine .unwritable hsilent hread fun hreplaceable => ?_
      obtain ⟨files, hfiles⟩ := FileTree.exists_writeAtomic_iff.2 hreplaceable
      cases hwrite.symm.trans hfiles
    | ok files =>
      rw [Op.bind_of_ok (World.writeText_of_ok hwrite)]
      exact .patched ⟨hsilent, hread, FileTree.exists_writeAtomic_iff.1 ⟨files, hwrite⟩⟩ hwrite

theorem generate_ends (o : Outside) (generator work : String) (first : Controller)
    (more : List Controller) (w : World) :
    Ends (Path.join work sysConfigFile) (first :: more)
      (o.call (generatorCall generator work first) w)
      (generate o generator work (first :: more) w) := by
  rw [generate, Op.bind_apply]
  generalize o.call (generatorCall generator work first) w = called
  obtain ⟨e | output, v⟩ := called
  · exact .failed rfl
  · dsimp only
    by_cases hblank : (trimmed output).isEmpty = true
    · rw [hblank, if_neg (by simp)]
      exact patch_ends v (silent_ok_iff.2 hblank)
    · rw [if_pos (by simpa using hblank)]
      exact .printed rfl (silent_ok_iff.not.2 hblank)

/-- What the generator left at a path is replaced after a clean run by the text with all controllers
listed, and kept after any other; no other place is touched and nobody else is called. -/
structure Settles (path : String) (controllers : List Controller)
    (called result : Except Failure String × World) : Prop where
  history : result.2.history = called.2.history
  succeeds : (∃ p, result.1 = .ok p) ↔ ∃ left, Clean path left called
  replaced : ∀ p, result.1 = .ok p → p = path ∧ ∃ left, Clean path left called ∧
    result.2.files.readBytes path = .ok (patchControllers left controllers).toUTF8
  kept : ∀ e, result.1 = .error e → result.2 = called.2
  current : result.2.files.current = called.2.files.current
  elsewhere : ∀ place, place ≠ FileTree.lexical called.2.files.current path →
    result.2.files.get? place = called.2.files.get? place

theorem Ends.settles (h : Ends path controllers called result) :
    Settles path controllers called result := by
  have hfailed : ∀ {e : Failure}, (∀ left, ¬Clean path left called) →
      Settles path controllers called (.error e, called.2) := fun hunclean =>
    { history := rfl
      succeeds := ⟨nofun, fun ⟨left, hclean⟩ => absurd hclean (hunclean left)⟩
      replaced := nofun
      kept := fun _ _ => rfl
      current := rfl
      elsewhere := fun _ _ => rfl }
  cases h with
  | failed he =>
    refine hfailed fun left hclean => ?_
    obtain ⟨output, hok, -⟩ := hclean.silent
    cases he.symm.trans hok
  | printed _ hprinted => exact hfailed fun left hclean => hprinted hclean.silent
  | unreadable _ hread =>
    exact hfailed fun left hclean => by cases hread.symm.trans hclean.readable
  | unwritable _ _ hstuck => exact hfailed fun left hclean => hstuck hclean.replaceable
  | @patched left files hclean hwrite =>
    obtain ⟨-, -, hfiles⟩ := FileTree.writeAtomic_ok hwrite
    have hread := FileTree.readBytes_writeAtomic hwrite
    exact
      { history := rfl
        succeeds := ⟨fun _ => ⟨left, hclean⟩, fun _ => ⟨path, rfl⟩⟩
        replaced := fun p hp => ⟨(Except.ok.inj hp).symm, left, hclean, hread⟩
        kept := nofun
        current := by rw [hfiles]; rfl
        elsewhere := fun place hplace => by
          rw [hfiles]
          exact FileTree.get?_put_other hplace }

/-- Whatever becomes of it, generating makes one call. -/
theorem generate_traces (o : Outside) (generator work : String) (first : Controller)
    (more : List Controller) (w : World) :
    w.Traces (generate o generator work (first :: more) w).2
      [⟨.ran (generatorCall generator work first)
        (o.call (generatorCall generator work first) w).1, w.files⟩] := by
  rw [World.Traces, (generate_ends o generator work first more w).settles.history]
  exact o.traces_call w _

/-- The startup configuration is made by one call of the generator, in the work directory and for
the first controller, and is put right after a clean run only. Without controllers nothing
happens. -/
theorem generate_settles (o : Outside) (generator work : String) (w : World) :
    generate o generator work [] w = (.error (.configurationMissing "controller"
      "at least one controller address is required"), w) ∧
    ∀ first more,
      (generatorCall generator work first).directory = some work ∧
      [first.ip, decimalText first.port] <:+ (generatorCall generator work first).args ∧
      w.Traces (generate o generator work (first :: more) w).2
        [⟨.ran (generatorCall generator work first)
          (o.call (generatorCall generator work first) w).1, w.files⟩] ∧
      Settles (Path.join work sysConfigFile) (first :: more)
        (o.call (generatorCall generator work first) w)
        (generate o generator work (first :: more) w) := by
  refine ⟨rfl, fun first more => ⟨rfl, List.suffix_append [_, _] _, ?_, ?_⟩⟩
  · exact generate_traces o generator work first more w
  · exact (generate_ends o generator work first more w).settles

end OpticalTestbed.SysConfig
