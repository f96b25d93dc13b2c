import OpticalTestbed.Proofs.BringUp.Course
import OpticalTestbed.Proofs.BringUp.Preparing
/-!
The order in which a start makes its calls. What each call needs is told from the calls before it,
so that a start keeps the order wherever it is broken off.
-/
namespace OpticalTestbed

section Orderly

variable {α : Type} {F : List α → α → Prop} {past a b : List α}

/-- Each item of a list may follow what stands before it. -/
def Orderly (F : List α → α → Prop) : List α → List α → Prop
  | _, [] => True
  | past, c :: rest => F past c ∧ Orderly F (past ++ [c]) rest

theorem orderly_append : Orderly F past (a ++ b) ↔ Orderly F past a ∧ Orderly F (past ++ a) b := by
  induction a generalizing past with
  | nil => simp [Orderly]
  | cons c rest ih => simp [Orderly, ih, and_assoc]

theorem Orderly.of_mem (h : Orderly F past a) {before after : List α} {c : α}
    (ha : a = before ++ c :: after) : F (past ++ before) c := by
  rw [ha, orderly_append] at h
  exact h.2.1

/-- Items of one sort may follow each other as long as something remains true. -/
theorem orderly_of_forall {P : α → Prop} {I : List α → Prop}
    (step : ∀ past c, I past → P c → F past c ∧ I (past ++ [c])) (hp : I past)
    (ha : ∀ c ∈ a, P c) : Orderly F past a := by
  induction a generalizing past with
  | nil => trivial
  | cons c rest ih =>
    obtain ⟨hc, hrest⟩ := List.forall_mem_cons.1 ha
    obtain ⟨hfollows, hnext⟩ := step past c hp hc
    exact ⟨hfollows, ih hnext hrest⟩

end Orderly

/-- The program that makes `sys.config`. -/
def Testbed.generator (t : Testbed) : String :=
  Path.join t.installation.generatorRoot "config_generator"

/-- The program that pushes documents. -/
def Testbed.pushTool (t : Testbed) : String :=
  Path.join t.installation.onosRoot "tools/test/bin/onos-topo-cfg"

/-- The program call that an event is, if it is one. -/
def Event.call? : Event → Option Invocation
  | .ran i _ => some i
  | _ => none

/-- The calls of a trace that push documents. -/
def Testbed.pushesIn (t : Testbed) (trace : List Occurrence) : List Invocation :=
  (trace.filterMap (·.event.call?)).filter (·.program = t.pushTool)

namespace BringUp

variable {o : Outside} {t : Testbed} {b : BringUp} {w w' v : World} {sysConfig : String}
  {s : Synthesis} {late : List Failure} {first : Controller}
  {past before fetches trace : List Occurrence} {c : Occurrence}

/-- The emulator can be started now, for the first time. The text made from what the generator left
was installed when the interfaces were listed, and it still is if it is out of reach. By that
listing all the taps that it names have been provided. -/
structure Readied (o : Outside) (t : Testbed) (w : World) (past : List Occurrence)
    (files : FileTree) : Prop where
  first : ∀ c ∈ past, ¬c.event.Runs (·.program = t.release.controlScript)
  ready : ∃ text made output seen rest,
    past = made :: ⟨.ran Interfaces.showCall (.ok output), seen⟩ :: rest ∧
    Produced o t w made text ∧ seen.readText t.release.sysConfig = .ok text ∧
    (∀ tap ∈ SysConfig.taps text, Interfaces.Provides (Interfaces.names output) rest tap) ∧
    ∀ here, OutOfReach o t here → w.files.current = here → files.current = here ∧
      files.get? (FileTree.lexical here t.release.sysConfig) = some (.file text.toUTF8)

/-- The emulator was started, and its script printed nothing but blanks. -/
def Started (t : Testbed) (past : List Occurrence) : Prop :=
  ∃ c ∈ past, ∃ output, c.event = .ran (Emulator.scriptCall t.release "start") (.ok output) ∧
    (trimmed output).isEmpty = true

theorem Started.append (h : Started t past) (more : List Occurrence) :
    Started t (past ++ more) := by
  obtain ⟨c, hc, hstarted⟩ := h
  exact ⟨c, List.mem_append_left more hc, hstarted⟩

/-- These are all the calls of a start up to the end of its binding of links. -/
def Bound (o : Outside) (t : Testbed) (b : BringUp) (w : World) (before : List Occurrence) : Prop :=
  ∃ sysConfig s late v, AtBinding o t b w sysConfig s late v ∧
    w.Traces (bound o t sysConfig v).2.2 before

/-- What a call needs, told from the calls before it. -/
structure Follows (o : Outside) (t : Testbed) (b : BringUp) (w : World) (past : List Occurrence)
    (c : Occurrence) : Prop where
  generator : c.event.Runs (·.program = t.generator) → past = [] ∧ HoldsDocuments t w c.seen
  emulator : c.event.Runs (· = Emulator.scriptCall t.release "start") → Readied o t w past c.seen
  attach : ∀ node tap answer, c.event = .attached node tap answer → Started t past
  fetch : c.event.isFetch = true → ∃ before fetches, past = before ++ fetches ∧
    Bound o t b w before ∧ ∀ d ∈ fetches, d.event.isFetch = true
  push : c.event.Runs (·.program = t.pushTool) → ∃ before fetches pushes late,
    past = before ++ fetches ++ pushes ∧ Bound o t b w before ∧
    (∀ d ∈ fetches, d.event.isFetch = true) ∧
    Waiting.Over (Event.ReportsDevices t.deviceUris) t.configuration.deviceWait fetches late ∧
    ∀ d ∈ pushes, d.event.Runs (·.program = t.pushTool)

section Programs

theorem getLast?_generator (t : Testbed) : t.generator.toList.getLast? = some 'r' :=
  Path.getLast?_join _ (by decide)

theorem getLast?_pushTool (t : Testbed) : t.pushTool.toList.getLast? = some 'g' :=
  Path.getLast?_join _ (by decide)

/-- Programs are told apart by their last letters. -/
theorem program_ne {p q : String} {x y : Char} (hp : p.toList.getLast? = some x)
    (hq : q.toList.getLast? = some y) (hxy : x ≠ y) : p ≠ q := by
  rintro rfl
  exact hxy (Option.some.inj (hp.symm.trans hq))

theorem program_ne_of_or {p q : String} {x y z : Char}
    (hp : p.toList.getLast? = some x ∨ p.toList.getLast? = some y)
    (hq : q.toList.getLast? = some z) (hxz : x ≠ z) (hyz : y ≠ z) : p ≠ q :=
  hp.elim (fun hx => program_ne hx hq hxz) fun hy => program_ne hy hq hyz

theorem runs_apart {C D : Invocation → Prop} {e : Event} (h : e.Runs C) (hCD : ∀ i, C i → ¬D i) :
    ¬e.Runs D := by
  cases e with
  | ran i answer => exact hCD i h
  | _ => exact h.elim

/-- Programs that are run at any time: those that look after taps, and the emulator's script when
the emulator is to stop. -/
inductive IsCareCall (t : Testbed) : Invocation → Prop
  | interface {i : Invocation} : Interfaces.IsCall i → IsCareCall t i
  | stop : IsCareCall t (Emulator.scriptCall t.release "stop")

theorem IsCareCall.getLast? {i : Invocation} (h : IsCareCall t i) :
    i.program.toList.getLast? = some 'p' ∨ i.program.toList.getLast? = some 'c' := by
  cases h with
  | interface h =>
    have hip : "ip".toList.getLast? = some 'p' := by decide
    cases h <;> exact .inl hip
  | stop => exact .inr (getLast?_scriptCall t.release "stop")

theorem IsCareCall.ne_pushTool {i : Invocation} (h : IsCareCall t i) : i.program ≠ t.pushTool :=
  program_ne_of_or h.getLast? (getLast?_pushTool t) (by decide) (by decide)

theorem IsCareCall.ne_start {i : Invocation} (h : IsCareCall t i) :
    i ≠ Emulator.scriptCall t.release "start" := by
  cases h with
  | interface h => exact (IsEarlyCall.interface h).ne_script "start"
  | stop => simp [Emulator.scriptCall]

theorem follows_care (h : c.event.Runs (IsCareCall t)) : Follows o t b w past c := by
  obtain ⟨event, seen⟩ := c
  cases event with
  | ran i answer =>
    have hcare : IsCareCall t i := h
    have hgenerator := program_ne_of_or hcare.getLast? (getLast?_generator t) (by decide)
      (by decide)
    exact {
      generator := fun hi => absurd hi hgenerator
      emulator := fun hi => absurd hi hcare.ne_start
      attach := nofun
      fetch := nofun
      push := fun hi => absurd hi hcare.ne_pushTool }
  | _ => exact h.elim

theorem follows_generator
    (h : c.event.Runs (· = SysConfig.generatorCall t.installation.generatorRoot
      t.configuration.workDirectory first)) (hholds : HoldsDocuments t w c.seen) :
    Follows o t b w [] c := by
  obtain ⟨event, seen⟩ := c
  cases event with
  | ran i answer =>
    obtain rfl : i = _ := h
    have hgenerator := getLast?_generator t
    have hscript := program_ne hgenerator (getLast?_scriptCall t.release "start") (by decide)
    have hpush := program_ne hgenerator (getLast?_pushTool t) (by decide)
    exact {
      generator := fun _ => ⟨rfl, hholds⟩
      emulator := fun hi => absurd (congrArg Invocation.program hi) hscript
      attach := nofun
      fetch := nofun
      push := fun hi => absurd hi hpush }
  | _ => exact h.elim

end Programs

section Pushes

theorem pushesIn_append (t : Testbed) (a d : List Occurrence) :
    t.pushesIn (a ++ d) = t.pushesIn a ++ t.pushesIn d := by
  simp [Testbed.pushesIn]

theorem pushesIn_eq_nil (h : ∀ c ∈ trace, ¬c.event.Runs (·.program = t.pushTool)) :
    t.pushesIn trace = [] := by
  rw [Testbed.pushesIn, List.filter_eq_nil_iff]
  intro i hi
  obtain ⟨⟨event, seen⟩, hc, he⟩ := List.mem_filterMap.1 hi
  cases event with
  | ran call answer =>
    cases he
    simpa [Event.Runs] using h _ hc
  | _ => cases he

theorem pushesIn_pushed {controllers : List Controller}
    (h : List.Forall₂ (Pushed t) controllers trace) :
    t.pushesIn trace = controllers.map fun c => pushCall t c.ip networkFile := by
  induction h with
  | nil => rfl
  | @cons first c more rest hpushed _ ih =>
    obtain ⟨event, seen⟩ := c
    obtain ⟨answer, he⟩ := hpushed
    obtain rfl : event = _ := he
    have hone : t.pushesIn [⟨.ran (pushCall t first.ip networkFile) answer, seen⟩] =
        [pushCall t first.ip networkFile] := by
      simp [Testbed.pushesIn, Event.call?, pushCall, Push.toolCall, Testbed.pushTool]
    rw [List.map_cons, ← List.singleton_append, pushesIn_append, ih, hone]
    rfl

theorem runs_pushTool {controllers : List Controller}
    (h : List.Forall₂ (Pushed t) controllers trace) :
    ∀ d ∈ trace, d.event.Runs (·.program = t.pushTool) := by
  induction h with
  | nil => simp
  | cons hpushed _ ih =>
    obtain ⟨answer, he⟩ := hpushed
    exact List.forall_mem_cons.2 ⟨by rw [he]; rfl, ih⟩

end Pushes

/-- A trace keeps the order, and these are its pushes. -/
structure Ordered (o : Outside) (t : Testbed) (b : BringUp) (w : World) (trace : List Occurrence)
    (sent : List Invocation) : Prop where
  follows : Orderly (Follows o t b w) [] trace
  sends : t.pushesIn trace = sent

section Ordered

variable {sent : List Invocation}

theorem Ordered.append {more : List Invocation} (h : Ordered o t b w before sent)
    (follows : Orderly (Follows o t b w) before trace) (sends : t.pushesIn trace = more) :
    Ordered o t b w (before ++ trace) (sent ++ more) where
  follows := orderly_append.2 ⟨h.follows, follows⟩
  sends := by rw [pushesIn_append, h.sends, sends]

theorem Ordered.append_unsent (h : Ordered o t b w before sent)
    (follows : Orderly (Follows o t b w) before trace)
    (hnone : ∀ c ∈ trace, ¬c.event.Runs (·.program = t.pushTool)) :
    Ordered o t b w (before ++ trace) sent := by
  rw [← List.append_nil sent]
  exact h.append follows (pushesIn_eq_nil hnone)

theorem Ordered.append_care (h : Ordered o t b w before sent)
    (hcare : ∀ c ∈ trace, c.event.Runs (IsCareCall t)) : Ordered o t b w (before ++ trace) sent :=
  h.append_unsent
    (orderly_of_forall (I := fun _ => True) (fun _ _ _ hc => ⟨follows_care hc, trivial⟩) trivial
      hcare)
    fun c hc => runs_apart (hcare c hc) fun _ hi => hi.ne_pushTool

theorem Ordered.append_interfaces (h : Ordered o t b w before sent)
    (hcalls : ∀ c ∈ trace, c.event.Runs Interfaces.IsCall) :
    Ordered o t b w (before ++ trace) sent :=
  h.append_care fun c hc => Event.Runs.imp (fun _ => .interface) _ (hcalls c hc)

theorem Ordered.append_probes (h : Ordered o t b w before sent)
    (hshow : ∀ c ∈ trace, c.event.Runs (· = Interfaces.showCall)) :
    Ordered o t b w (before ++ trace) sent :=
  h.append_interfaces fun c hc => Event.Runs.imp (fun _ hi => hi ▸ .show) _ (hshow c hc)

theorem ordered_generator
    (hc : c.event.Runs (· = SysConfig.generatorCall t.installation.generatorRoot
      t.configuration.workDirectory first)) (hholds : HoldsDocuments t w c.seen) :
    Ordered o t b w [c] [] := by
  refine ⟨⟨follows_generator hc hholds, trivial⟩, pushesIn_eq_nil (List.forall_mem_singleton.2 ?_)⟩
  have hpush := program_ne (getLast?_generator t) (getLast?_pushTool t) (by decide)
  exact runs_apart hc fun i hi => hi ▸ hpush

theorem Ordered.append_start {seen : FileTree} (answer : Except Failure String)
    (h : Ordered o t b w before sent) (hready : Readied o t w before seen) :
    Ordered o t b w (before ++ [⟨.ran (Emulator.scriptCall t.release "start") answer, seen⟩])
      sent := by
  have hscript := getLast?_scriptCall t.release "start"
  have hpush := program_ne hscript (getLast?_pushTool t) (by decide)
  have hgenerator := program_ne hscript (getLast?_generator t) (by decide)
  refine h.append_unsent ⟨?_, trivial⟩ (List.forall_mem_singleton.2 hpush)
  exact {
    generator := fun hi => absurd hi hgenerator
    emulator := fun _ => hready
    attach := nofun
    fetch := nofun
    push := fun hi => absurd hi hpush }

end Ordered

section Stages

/-- Until the text is installed there is the generator's call at most. -/
theorem synthesize_ordered (o : Outside) (t : Testbed) (b : BringUp) (w : World) :
    ∃ trace, w.Traces (synthesize o t w).2 trace ∧ Ordered o t b w trace [] := by
  obtain ⟨trace, htrace, rfl | ⟨c, first, rfl, hc, hholds⟩⟩ := synthesize_trace o t w
  · exact ⟨[], htrace, trivial, rfl⟩
  · exact ⟨[c], htrace, ordered_generator hc hholds⟩

/-- A listing of interfaces after a synthesis, and the taps provided by it, make the emulator ready
to be started. -/
theorem readied (made : synthesize o t w = (.ok (sysConfig, s), v)) {output : String}
    {rest : List Occurrence} {seen : FileTree} (hc : c.event.Runs (· = SysConfig.generatorCall
      t.installation.generatorRoot t.configuration.workDirectory first))
    (hproduced : Produced o t w c sysConfig)
    (hinstalled : v.files.readText t.release.sysConfig = .ok sysConfig)
    (hrest : ∀ c ∈ rest, c.event.Runs Interfaces.IsCall)
    (hprovides : ∀ tap ∈ SysConfig.taps sysConfig,
      Interfaces.Provides (Interfaces.names output) rest tap)
    (hkept : ∀ here, OutOfReach o t here → v.files.current = here → seen.current = here ∧
      seen.get? (FileTree.lexical here t.release.sysConfig) =
        v.files.get? (FileTree.lexical here t.release.sysConfig)) :
    Readied o t w (c :: ⟨.ran Interfaces.showCall (.ok output), v.files⟩ :: rest) seen where
  first := by
    -- no call until now was one of the script
    have hearly : ∀ i, IsEarlyCall t i → i.program ≠ t.release.controlScript := fun i hi =>
      program_ne_of_or hi.getLast? (getLast?_scriptCall t.release "start") (by decide) (by decide)
    refine List.forall_mem_cons.2 ⟨runs_apart hc fun i hi => hi ▸ hearly _ (.generator first), ?_⟩
    refine List.forall_mem_cons.2 ⟨hearly _ (.interface .show), fun c hc => ?_⟩
    exact runs_apart (hrest c hc) fun _ hi => hearly _ (.interface hi)
  ready := by
    refine ⟨sysConfig, c, output, v.files, rest, rfl, hproduced, hinstalled, hprovides, ?_⟩
    intro here h hw
    obtain ⟨hcurrent, hget⟩ := h.synthesize_ok made hw
    obtain ⟨hstill, hsame⟩ := hkept here h hcurrent
    exact ⟨hstill, hsame.trans hget⟩

/-- After a synthesis the emulator is started at most, and well if the launch succeeds. -/
theorem launch_ordered (b : BringUp) (made : synthesize o t w = (.ok (sysConfig, s), v)) :
    ∃ trace, w.Traces (launch o t sysConfig v).2 trace ∧ Ordered o t b w trace [] ∧
      ((launch o t sysConfig v).1 = .ok () → Started t trace) := by
  obtain ⟨c, hmade, hholds, hproduced, hinstalled⟩ := synthesize_produces made
  obtain ⟨first, hc⟩ : ∃ first, c.event.Runs (· = SysConfig.generatorCall
      t.installation.generatorRoot t.configuration.workDirectory first) := by
    obtain ⟨first, -, output, -, -, hc, -⟩ := hproduced
    exact ⟨first, by rw [hc]; rfl⟩
  have hgenerated : Ordered o t b w [c] [] := ordered_generator hc hholds
  obtain ⟨trace, htrace, ⟨hcalls, hfailed⟩ |
    ⟨output, rest, answer, seen, more, rfl, hrest, hprovides, hkept, hstops, hdone⟩⟩ :=
      launch_trace o t sysConfig v
  · exact ⟨_, hmade.append htrace, hgenerated.append_interfaces hcalls, fun h => absurd h hfailed⟩
  · -- the script is run to start the emulator, and at most once more to stop it
    have hready := readied made hc hproduced hinstalled hrest hprovides hkept
    have hlisted : Ordered o t b w
        (c :: ⟨.ran Interfaces.showCall (.ok output), v.files⟩ :: rest) [] :=
      hgenerated.append_interfaces (List.forall_mem_cons.2 ⟨.show, hrest⟩)
    have hstarted := (hlisted.append_start answer hready).append_care fun c hc =>
      Event.Runs.imp (fun _ hi => hi ▸ .stop) _ (hstops c hc)
    refine ⟨_, hmade.append htrace, by simpa using hstarted, fun h => ?_⟩
    obtain ⟨-, printed, rfl, hblank⟩ := hdone h
    exact ⟨⟨.ran (Emulator.scriptCall t.release "start") (.ok printed), seen⟩, by simp, printed,
      rfl, hblank⟩

/-- While the emulator is being started and until links are bound, the order is kept. -/
theorem Launched.ordered (h : Launched o t b w sysConfig s v) :
    ∃ trace, w.Traces v trace ∧ Ordered o t b w trace [] ∧ Started t trace := by
  obtain ⟨-, w₁, made, launched⟩ := h
  obtain ⟨trace, htrace, hordered, hstarted⟩ := launch_ordered b made
  rw [launched] at htrace hstarted
  exact ⟨trace, htrace, hordered, hstarted rfl⟩

theorem AtBinding.ordered (h : AtBinding o t b w sysConfig s late v) :
    ∃ trace, w.Traces v trace ∧ Ordered o t b w trace [] ∧ Started t trace := by
  obtain ⟨w₁, probes, launched, hprobes, -, hshow, -⟩ := h.probes
  obtain ⟨trace, htrace, hordered, hstarted⟩ := launched.ordered
  exact ⟨_, htrace.append hprobes, hordered.append_probes hshow, hstarted.append probes⟩

/-- Links are bound by programs that look after taps and by the switch host. -/
def Binds (e : Event) : Prop :=
  e.Runs Interfaces.IsCall ∨ ∃ node tap answer, e = .attached node tap answer

theorem bound_binds (o : Outside) (t : Testbed) (sysConfig : String) (w : World) :
    ∃ trace, w.Traces (bound o t sysConfig w).2.2 trace ∧ ∀ c ∈ trace, Binds c.event := by
  have hrun : ∀ i, Interfaces.IsCall i → (o.call i).Along (World.Calls Binds) :=
    fun i hi w => World.calls_iff_traces.2
      ⟨_, o.traces_call w i, List.forall_mem_singleton.2 (.inl hi)⟩
  have hattach : ∀ node tap, (o.attachTap node tap).Along (World.Calls Binds) :=
    fun node tap w => World.calls_iff_traces.2
      ⟨_, o.traces_attachTap w node tap, List.forall_mem_singleton.2 (.inr ⟨node, tap, _, rfl⟩)⟩
  exact World.calls_iff_traces.1 (bound_along hrun hattach sysConfig w)

theorem AtBinding.bound_ordered (h : AtBinding o t b w sysConfig s late v) :
    ∃ trace, w.Traces (bound o t sysConfig v).2.2 trace ∧ Ordered o t b w trace [] := by
  obtain ⟨before, hbefore, hordered, hstarted⟩ := h.ordered
  obtain ⟨binding, hbinding, hbinds⟩ := bound_binds o t sysConfig v
  refine ⟨_, hbefore.append hbinding, hordered.append_unsent
    (orderly_of_forall (I := Started t) (fun past c hp hc => ?_) hstarted hbinds) fun c hc => ?_⟩
  · refine ⟨?_, hp.append [c]⟩
    rcases hc with hc | ⟨node, tap, answer, he⟩
    · exact follows_care (Event.Runs.imp (fun _ => .interface) _ hc)
    · obtain ⟨event, seen⟩ := c
      cases he
      exact {
        generator := nofun
        emulator := nofun
        attach := fun _ _ _ _ => hp
        fetch := nofun
        push := nofun }
  · rcases hbinds c hc with hc | ⟨node, tap, answer, he⟩
    · exact runs_apart hc fun _ hi => (IsCareCall.interface hi).ne_pushTool
    · rw [he]
      exact nofun

/-- The devices are asked for one by one when all links are bound. -/
theorem Ordered.append_fetches (h : Ordered o t b w before []) (hbound : Bound o t b w before)
    (hfetch : ∀ c ∈ fetches, c.event.isFetch = true) :
    Ordered o t b w (before ++ fetches) [] := by
  -- it remains true that only requests have been made since the end of the binding
  refine h.append_unsent (orderly_of_forall
    (I := fun past => ∃ earlier, past = before ++ earlier ∧ ∀ d ∈ earlier, d.event.isFetch = true)
    ?_ ⟨[], by simp⟩ hfetch) fun c hc => ?_
  · rintro _ ⟨event, seen⟩ ⟨earlier, rfl, hearlier⟩ hc
    refine ⟨?_, earlier ++ [⟨event, seen⟩], by simp, List.forall_mem_append.2 ⟨hearlier, by simpa⟩⟩
    cases event with
    | fetched answer =>
      exact {
        generator := nofun
        emulator := nofun
        attach := nofun
        fetch := fun _ => ⟨before, earlier, rfl, hbound, hearlier⟩
        push := nofun }
    | _ => cases hc
  · obtain ⟨event, seen⟩ := c
    have hfetched := hfetch _ hc
    cases event with
    | fetched answer => exact nofun
    | _ => cases hfetched

theorem Ordered.append_pushes (h : Ordered o t b w (before ++ fetches) [])
    (hbound : Bound o t b w before) (hfetch : ∀ c ∈ fetches, c.event.isFetch = true)
    (hover : Waiting.Over (Event.ReportsDevices t.deviceUris) t.configuration.deviceWait fetches
      late)
    (hpushed : List.Forall₂ (Pushed t) t.configuration.controllers trace) :
    Ordered o t b w (before ++ fetches ++ trace)
      (t.configuration.controllers.map fun c => pushCall t c.ip networkFile) := by
  have hpush := runs_pushTool hpushed
  -- it remains true that only pushes have been made since the end of the wait
  refine h.append (orderly_of_forall (I := fun past => ∃ earlier,
    past = before ++ fetches ++ earlier ∧ ∀ d ∈ earlier, d.event.Runs (·.program = t.pushTool))
    ?_ ⟨[], by simp⟩ hpush) (pushesIn_pushed hpushed)
  rintro _ ⟨event, seen⟩ ⟨earlier, rfl, hearlier⟩ hc
  refine ⟨?_, earlier ++ [⟨event, seen⟩], by simp, List.forall_mem_append.2 ⟨hearlier, by simpa⟩⟩
  cases event with
  | ran i answer =>
    have hgenerator := program_ne (getLast?_generator t) (getLast?_pushTool t) (by decide)
    have hscript := program_ne (getLast?_scriptCall t.release "start") (getLast?_pushTool t)
      (by decide)
    exact {
      generator := fun hi => absurd (hi.symm.trans hc) hgenerator
      emulator := fun hi => absurd ((congrArg Invocation.program hi).symm.trans hc) hscript
      attach := nofun
      fetch := nofun
      push := fun _ => ⟨before, fetches, earlier, late, rfl, hbound, hfetch, hover, hearlier⟩ }
  | _ => exact hc.elim

end Stages

/-- The calls of a start keep their order wherever it ends, and it pushes the document to every
controller exactly if it finishes. -/
theorem start_order (o : Outside) (t : Testbed) (b : BringUp) (w : World) :
    ∃ trace, w.Traces (start o t b w).2.2 trace ∧
      (∀ before c after, trace = before ++ c :: after → Follows o t b w before c) ∧
      t.pushesIn trace = match (start o t b w).1 with
        | .ok _ => t.configuration.controllers.map fun c => pushCall t c.ip networkFile
        | .error _ => [] := by
  have path := start_path o t b w
  suffices h : ∃ trace, w.Traces (start o t b w).2.2 trace ∧ Ordered o t b w trace
      (match (start o t b w).1 with
        | .ok _ => t.configuration.controllers.map fun c => pushCall t c.ip networkFile
        | .error _ => []) by
    obtain ⟨trace, htrace, hordered⟩ := h
    exact ⟨trace, htrace, fun _ _ _ => hordered.follows.of_mem, hordered.sends⟩
  generalize start o t b w = outcome at path
  cases path with
  | notIdle => exact ⟨[], World.traces_of_history_eq rfl, trivial, rfl⟩
  | notSynthesized _ failed =>
    obtain ⟨trace, htrace, hordered⟩ := synthesize_ordered o t b w
    rw [failed] at htrace
    exact ⟨trace, htrace, hordered⟩
  | notLaunched _ made failed =>
    obtain ⟨trace, htrace, hordered, -⟩ := launch_ordered b made
    rw [failed] at htrace
    exact ⟨trace, htrace, hordered⟩
  | @cancelledBeforeBinding _ _ _ w₁ _ launched waited =>
    obtain ⟨trace, htrace, hordered, -⟩ := launched.ordered
    obtain ⟨probes, hprobes, hshow, -⟩ := Waiting.forTaps_ends o t.configuration.interfaceWait
      t.topology.crossConnects.length w₁
    rw [waited] at hprobes
    exact ⟨_, htrace.append hprobes, hordered.append_probes hshow⟩
  | @cancelledAfterBinding sysConfig _ s late w₁ _ reached waited =>
    obtain ⟨before, hbefore, hordered⟩ := reached.bound_ordered
    rw [reached.expectedDevices] at waited
    obtain ⟨fetches, hfetches, hkind, -⟩ := Waiting.forDevices_ends o t.configuration.deviceWait
      t.deviceUris (bound o t sysConfig w₁).2.2
    rw [waited] at hfetches
    exact ⟨_, hbefore.append hfetches,
      hordered.append_fetches ⟨sysConfig, s, late, w₁, reached, hbefore⟩ hkind⟩
  | @finished sysConfig s late _ _ _ w₁ w₂ reached waited hlater =>
    obtain ⟨before, hbefore, hordered⟩ := reached.bound_ordered
    rw [reached.expectedDevices] at waited
    obtain ⟨fetches, hfetches, hkind, hover⟩ := devices_over waited hlater
    obtain ⟨pushes, hpushes, hpushed, -⟩ := pushAll_ends o t t.configuration.controllers w₂
    have hbound : Bound o t b w before := ⟨sysConfig, s, late, w₁, reached, hbefore⟩
    exact ⟨_, (hbefore.append hfetches).append hpushes,
      (hordered.append_fetches hbound hkind).append_pushes hbound hkind hover hpushed⟩

end BringUp

end OpticalTestbed
