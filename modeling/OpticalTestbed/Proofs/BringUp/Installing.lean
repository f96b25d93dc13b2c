import OpticalTestbed.Proofs.BringUp.Start
import OpticalTestbed.Proofs.SysConfig.Generating
/-!
What a start installs, and what keeps the installed `sys.config` as it is: everything is prepared
before it is written, and nothing that a start does elsewhere reaches it.
-/
namespace OpticalTestbed

/-- Neither of two places lies below the other one. -/
def Place.Apart (p q : Place) : Prop := ¬p <+: q ∧ ¬q <+: p

open FileTree

theorem Release.lexical_sysConfig (here : Place) (r : Release) :
    lexical here r.sysConfig = lexical here r.directory ++ ["releases", "1.0", "sys.config"] := by
  have hp : Path.pieces "releases/1.0/sys.config" =
      ["releases".toList, "1.0".toList, "sys.config".toList] := by decide
  rw [Release.sysConfig, lexical_join here _ (by decide), hp]
  simp [lexicalPlace]

namespace BringUp

variable {o : Outside} {t : Testbed} {w w' : World} {text : String} {s : Synthesis}

theorem lexical_workFile (here : Place) (work : String) {file : String} (h : file ∈ workFiles) :
    lexical here (Path.join work file) = lexical here work ++ [file] := by
  have hfiles : ∀ file ∈ workFiles, Path.isAbsolute file = false ∧
      ∀ p : Place, lexicalPlace p (Path.pieces file) = p ++ [file] := by
    simp only [workFiles, List.forall_mem_cons, networkFile, emulatorFile, sysConfigFile]
    refine ⟨⟨by decide, fun p => ?_⟩, ⟨by decide, fun p => ?_⟩, ⟨by decide, fun p => ?_⟩, by simp⟩
    · have hp : Path.pieces "Topology.json" = ["Topology.json".toList] := by decide
      simp [hp, lexicalPlace]
    · have hp : Path.pieces "TopoConfig.json" = ["TopoConfig.json".toList] := by decide
      simp [hp, lexicalPlace]
    · have hp : Path.pieces "sys.config" = ["sys.config".toList] := by decide
      simp [hp, lexicalPlace]
  obtain ⟨habs, hplace⟩ := hfiles file h
  rw [lexical_join here work habs, hplace]

/-- The installed `sys.config` is out of reach: the work directory and that of the pipes are apart
from the release, and the programs leave the file alone. -/
structure OutOfReach (o : Outside) (t : Testbed) (here : Place) : Prop where
  work : Place.Apart (lexical here t.configuration.workDirectory)
    (lexical here t.release.directory)
  pipes : Place.Apart (lexical here t.release.pipeDirectory) (lexical here t.release.directory)
  programs : ∀ i, IsStartCall t i →
    (o.call i).Along (World.Leaves here (lexical here t.release.sysConfig))

theorem OutOfReach.workFile {here : Place} (h : OutOfReach o t here) {file : String}
    (hf : file ∈ workFiles) : lexical here (Path.join t.configuration.workDirectory file) ≠
      lexical here t.release.sysConfig := by
  rw [lexical_workFile here _ hf, Release.lexical_sysConfig]
  intro he
  have hstart : lexical here t.release.directory ++ ["releases", "1.0"] =
      lexical here t.configuration.workDirectory := by
    have hd := congrArg List.dropLast he
    simpa using hd.symm
  exact h.work.2 (hstart ▸ List.prefix_append _ _)

theorem OutOfReach.pipe {here : Place} (h : OutOfReach o t here) :
    ¬lexical here t.release.pipeDirectory <+: lexical here t.release.sysConfig := by
  rw [Release.lexical_sysConfig]
  intro hp
  rcases List.prefix_or_prefix_of_prefix hp (List.prefix_append _ _) with hp | hp
  · exact h.pipes.1 hp
  · exact h.pipes.2 hp

/-- The generator was called before any other program, for the first controller, and a text is what
it left with every controller listed. -/
def Generated (o : Outside) (t : Testbed) (w : World) (text : String) : Prop :=
  ∃ first more output left w₁ w₂, t.configuration.controllers = first :: more ∧
    w₁.history = w.history ∧
    o.call (SysConfig.generatorCall t.installation.generatorRoot t.configuration.workDirectory
      first) w₁ = (.ok output, w₂) ∧ (trimmed output).isEmpty = true ∧
    w₂.files.readText (Path.join t.configuration.workDirectory sysConfigFile) = .ok left ∧
    text = SysConfig.patchControllers left t.configuration.controllers

theorem generate_ok {generator work path : String} {controllers : List Controller}
    (h : SysConfig.generate o generator work controllers w = (.ok path, w')) :
    path = Path.join work sysConfigFile ∧ ∃ first more output left w₁,
      controllers = first :: more ∧
      o.call (SysConfig.generatorCall generator work first) w = (.ok output, w₁) ∧
      (trimmed output).isEmpty = true ∧ w₁.files.readText path = .ok left ∧
      Op.writeText path (SysConfig.patchControllers left controllers) w₁ = (.ok (), w') := by
  cases controllers with
  | nil => cases h
  | cons first more =>
    have hends := SysConfig.generate_ends o generator work first more w
    rw [h] at hends
    generalize hcall : o.call (SysConfig.generatorCall generator work first) w = called at hends
    obtain ⟨answer, v⟩ := called
    cases hends with
    | patched hclean hwrite =>
      obtain ⟨output, rfl, hblank⟩ := hclean.silent
      exact ⟨rfl, first, more, output, _, v, rfl, hcall, isEmpty_trimmed_iff.2 hblank,
        hclean.readable, World.writeText_of_ok hwrite⟩

theorem prepare_ok (h : prepare o t w = (.ok (text, s), w')) :
    (Synthesis.ofDomain t.topology t.domain w).1 = .ok s ∧ Generated o t w text := by
  obtain ⟨s', w₀, hs, h⟩ := Op.bind_ok h
  have hw₀ : w₀ = w := by
    rw [← (Synthesis.reads_ofDomain t.topology t.domain).world w, hs]
  obtain ⟨_, w₁, written, h⟩ := Op.bind_ok h
  have hcalls : (s'.write t.configuration.workDirectory).Along (World.Calls fun _ => False) :=
    s'.write_of_calls Op.composes_along fun _ _ text => World.writeText_calls _ text
  obtain ⟨path, w₂, generated, h⟩ := Op.bind_ok h
  obtain ⟨rfl, first, more, output, left, w₃, hc, called, hblank, found, patched⟩ :=
    generate_ok generated
  obtain ⟨text', w₄, readBack, h⟩ := Op.bind_ok h
  cases h
  obtain ⟨readBack, -⟩ := Op.readText_ok readBack
  rw [FileTree.readText_writeAtomic (World.writeText_ok patched).1] at readBack
  have hhistory := World.history_eq_of_calls (hcalls.of_eq written)
  refine ⟨by rw [hs], first, more, output, left, w₁, w₃, hc, ?_, called, hblank, found, ?_⟩
  · rw [hhistory, hw₀]
  · exact (Except.ok.inj readBack).symm

/-- A synthesis that succeeds has installed its text. -/
theorem synthesize_ok (h : synthesize o t w = (.ok (text, s), w')) :
    (Synthesis.ofDomain t.topology t.domain w).1 = .ok s ∧ Generated o t w text := by
  rw [synthesize_eq] at h
  obtain ⟨made, w₁, prepared, h⟩ := Op.bind_ok h
  obtain ⟨_, w₂, written, h⟩ := Op.bind_ok h
  cases h
  exact prepare_ok prepared

section Reach

variable {here : Place}

theorem OutOfReach.prepare (h : OutOfReach o t here) :
    (prepare o t).Along (World.Leaves here (lexical here t.release.sysConfig)) :=
  prepare_of_calls Op.composes_along (fun first => h.programs _ (.early (.generator first)))
    (fun _ hf => World.leaves_writeText (h.workFile hf))

theorem OutOfReach.launch (h : OutOfReach o t here) (sysConfig : String) :
    (launch o t sysConfig).Along (World.Leaves here (lexical here t.release.sysConfig)) :=
  launch_of_calls Op.composes_along (fun _ hi => h.programs _ (.early (.interface hi)))
    (World.leaves_clear h.pipe) (fun action => h.programs _ (.script action)) sysConfig

/-- A synthesis that fails has not touched what was installed. -/
theorem OutOfReach.synthesize_error (h : OutOfReach o t here) {e : Failure}
    (failed : synthesize o t w = (.error e, w')) :
    World.Leaves here (lexical here t.release.sysConfig) w w' := by
  rw [synthesize_eq] at failed
  rcases Op.bind_error failed with failed | ⟨made, w₁, prepared, failed⟩
  · exact h.prepare.of_eq failed
  · rcases Op.bind_error failed with failed | ⟨_, w₂, -, failed⟩
    · rw [(World.writeText_error failed).2]
      exact h.prepare.of_eq prepared
    · cases failed

/-- A synthesis that succeeds has put its text where the emulator reads it. -/
theorem OutOfReach.synthesize_ok (h : OutOfReach o t here)
    (done : synthesize o t w = (.ok (text, s), w')) (hw : w.files.current = here) :
    w'.files.current = here ∧
      w'.files.get? (lexical here t.release.sysConfig) = some (.file text.toUTF8) := by
  rw [synthesize_eq] at done
  obtain ⟨made, w₁, prepared, done⟩ := Op.bind_ok done
  obtain ⟨_, w₂, written, done⟩ := Op.bind_ok done
  cases done
  obtain ⟨hcurrent, -⟩ := h.prepare.of_eq prepared hw
  obtain ⟨hfiles, -⟩ := World.writeText_ok written
  have hget := FileTree.get?_writeAtomic hfiles
  obtain ⟨-, -, hput⟩ := FileTree.writeAtomic_ok hfiles
  rw [hcurrent] at hget
  exact ⟨by rw [hput]; exact hcurrent, hget⟩

end Reach

end BringUp

end OpticalTestbed
