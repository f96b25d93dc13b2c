import OpticalTestbed.Console
import OpticalTestbed.Emulator
import OpticalTestbed.Push
import OpticalTestbed.Synthesis
import OpticalTestbed.Waiting
import OpticalTestbed.Proofs.World
/-!
Which calls each piece of work makes, and which files it writes: the work has every property that
those calls and writes hand on to it.
-/
namespace OpticalTestbed

variable {C : (α : Type) → Op α → Prop} {R : World → World → Prop} {o : Outside}

namespace Interfaces

/-- The calls that look after interfaces. -/
inductive IsCall : Invocation → Prop
  | show : IsCall showCall
  | add (name : String) : IsCall (addCall name)
  | up (name : String) : IsCall (upCall name)

theorem present_of_calls (hC : Op.Composes C) (h : C _ (o.call showCall)) : C _ (present o) :=
  hC.bind h fun _ => hC.pure _

theorem countPresent_of_calls (hC : Op.Composes C) (h : C _ (o.call showCall)) :
    C _ (countPresent o) := hC.bind (present_of_calls hC h) fun _ => hC.pure _

theorem ensureAmong_of_calls (hC : Op.Composes C) (h : ∀ i, IsCall i → C _ (o.call i))
    (there : KeySet String) (name : String) : C _ (ensureAmong o there name) := by
  have hup : C _ (o.call (upCall name) >>= fun _ => (pure () : Op Unit)) :=
    hC.bind (h _ (.up name)) fun _ => hC.pure _
  unfold ensureAmong
  split
  · exact hC.bind (h _ (.add name)) fun _ => hup
  · exact hup

theorem ensure_of_calls (hC : Op.Composes C) (h : ∀ i, IsCall i → C _ (o.call i))
    (name : String) : C _ (ensure o name) :=
  hC.bind (present_of_calls hC (h _ .show)) fun there => ensureAmong_of_calls hC h there name

theorem ensureEach_of_calls (hC : Op.Composes C) (h : ∀ i, IsCall i → C _ (o.call i))
    (there : KeySet String) (names : List String) : C _ (ensureEach o there names) := by
  induction names with
  | nil => exact hC.pure _
  | cons name more ih =>
    exact hC.bind (ensureAmong_of_calls hC h there name) fun _ => hC.bind ih fun _ => hC.pure _

theorem ensureAll_of_calls (hC : Op.Composes C) (h : ∀ i, IsCall i → C _ (o.call i))
    (names : List String) : C _ (ensureAll o names) :=
  hC.bind (present_of_calls hC (h _ .show)) fun there => ensureEach_of_calls hC h there names

end Interfaces

namespace Waiting

variable [Std.Refl R] [IsTrans World R]

theorem outcome_world {α : Type} (what : String) (r : Except PollStop α × World) :
    (outcome what r).2 = r.2 := by
  obtain ⟨r | a, w⟩ := r <;> rfl

theorem tapProbe_along (h : (o.call Interfaces.showCall).Along R) (expected attempt : Nat)
    (w : World) : R w (tapProbe o expected attempt w).2 := by
  have hw : R w (Interfaces.countPresent o w).2 :=
    Interfaces.countPresent_of_calls Op.composes_along h w
  simp only [tapProbe]
  split <;> rename_i he <;> rw [he] at hw <;> exact hw

theorem forTaps_along (h : (o.call Interfaces.showCall).Along R) (policy : PollPolicy)
    (expected : Nat) : (forTaps o policy expected).Along R := by
  intro w
  simp only [forTaps, outcome_world]
  exact Poll.run_along policy _ _ (fun n s => tapProbe_along h expected n s) w

omit [Std.Refl R] [IsTrans World R] in
theorem deviceProbe_along (h : o.fetchDevices.Along R) (expected : KeySet String) (attempt : Nat)
    (w : World) : R w (deviceProbe o expected attempt w).2 := by
  have hw := h w
  simp only [deviceProbe]
  split <;> rename_i he <;> rw [he] at hw <;> exact hw

theorem forDevices_along (h : o.fetchDevices.Along R) (policy : PollPolicy)
    (expected : KeySet String) : (forDevices o policy expected).Along R := by
  intro w
  simp only [forDevices, outcome_world]
  exact Poll.run_along policy _ _ (fun n s => deviceProbe_along h expected n s) w

end Waiting

theorem Push.push_along {onosRoot work controller document : String} [Std.Refl R] [IsTrans World R]
    (h : (o.call (toolCall onosRoot work controller document)).Along R) :
    (push o onosRoot work controller document).Along R := by
  refine Op.composes_along.bind h fun output w => ?_
  split <;> exact refl w

namespace Emulator

/-- Stopping the emulator is one call, and answers as the call does. -/
theorem stop_apply (o : Outside) (r : Release) (w : World) :
    stop o r w = ((o.call (scriptCall r "stop") w).1.map fun _ => (),
      (o.call (scriptCall r "stop") w).2) := by
  rw [stop, Op.bind_apply]
  split <;> rename_i called <;> rw [called] <;> rfl

theorem stop_of_calls {r : Release} (hC : Op.Composes C) (h : C _ (o.call (scriptCall r "stop"))) :
    C _ (stop o r) := hC.bind h fun _ => hC.pure _

theorem start_of_calls {r : Release} (hC : Op.Composes C)
    (h : ∀ action, C _ (o.call (scriptCall r action))) : C _ (start o r) := by
  refine hC.bind (h "start") fun output => ?_
  dsimp only
  split
  · exact hC.pure _
  · exact hC.bind (hC.attempt (stop_of_calls hC (h "stop"))) fun _ =>
      hC.reads (Op.reads_fail (by simp) rfl)

end Emulator

namespace SysConfig

theorem generate_of_calls {generator work : String} (hC : Op.Composes C)
    (h : ∀ first, C _ (o.call (generatorCall generator work first)))
    (hw : ∀ text, C _ (Op.writeText (Path.join work sysConfigFile) text))
    (controllers : List Controller) : C _ (generate o generator work controllers) := by
  cases controllers with
  | nil => exact hC.reads (Op.reads_fail (by simp) rfl)
  | cons first more =>
    refine hC.bind (h first) fun output => ?_
    dsimp only
    split
    · exact hC.reads (Op.reads_fail (by simp) rfl)
    · exact hC.bind (hC.reads (Op.reads_readText _)) fun _ =>
        hC.bind (hw _) fun _ => hC.pure _

end SysConfig

namespace Synthesis

/-- Making the documents changes nothing. -/
theorem reads_ofDomain (t : Topology) (domain : Option String) : (ofDomain t domain).Reads := by
  constructor <;> intro w <;> simp only [ofDomain] <;> split
  · rfl
  · split <;> rfl
  · simp
  · split <;> simp
  · simp [Failure.isFatal]
  · split <;> simp [Failure.isFatal]

theorem write_of_calls {directory : String} (s : Synthesis) (hC : Op.Composes C)
    (h : ∀ file ∈ [networkFile, emulatorFile], ∀ text,
      C _ (Op.writeText (Path.join directory file) text)) : C _ (s.write directory) := by
  have hn := h networkFile (by simp) s.network.toJson.document
  have he := h emulatorFile (by simp) s.emulator.toJson.document
  exact hC.bind hn fun _ => hC.bind he fun _ => hC.pure _

end Synthesis

namespace World

variable {P : Event → Prop}

/-- Writing a file is no call. -/
theorem writeAtomic_calls (path : String) (bytes : ByteArray) :
    (Op.writeAtomic path bytes).Along (Calls P) := by
  intro w
  unfold Op.writeAtomic
  split
  · exact calls_of_history_eq rfl
  · exact calls_of_history_eq rfl

theorem writeText_calls (path text : String) : (Op.writeText path text).Along (Calls P) :=
  writeAtomic_calls path _

theorem tell_calls (r : Release) (c : ConsoleCommand) : (Console.tell r c).Along (Calls P) :=
  fun _ => calls_of_history_eq rfl

theorem clear_calls (r : Release) : (Console.clear r).Along (Calls P) :=
  fun _ => calls_of_history_eq rfl

end World

end OpticalTestbed
