import OpticalTestbed.Proofs.BringUp.Course
import OpticalTestbed.Proofs.BringUp.Phases
import OpticalTestbed.Proofs.Held
/-!
What a raised cancellation flag does. The flag is looked at before every probe of a wait, and
nothing lowers it. So a start is broken off, with all that it has made still in place, at the first
probe that would follow; but the flag comes too late once the last probe that the wait allows is
under way.
-/
namespace OpticalTestbed

/-- Calls, and changes of files between them, lead from one world to another one. -/
inductive Outside.Leads (o : Outside) (u : World) : World → Prop
  | here : Leads o u u
  | call {v : World} (i : Invocation) : Leads o u v → Leads o u (o.call i v).2
  | attach {v : World} (node tap : String) : Leads o u v → Leads o u (o.attachTap node tap v).2
  | fetch {v : World} : Leads o u v → Leads o u (o.fetchDevices v).2
  | write {v : World} (files : FileTree) : Leads o u v → Leads o u { v with files := files }

namespace Outside

variable {o : Outside} {u v : World}

instance : Std.Refl o.Leads := ⟨fun _ => .here⟩

instance : IsTrans World o.Leads where
  trans := by
    intro u v w h h'
    induction h' with
    | here => exact h
    | call i _ ih => exact .call i ih
    | attach node tap _ ih => exact .attach node tap ih
    | fetch _ ih => exact .fetch ih
    | write files _ ih => exact .write files ih

/-- Nothing lowers the flag. -/
theorem Leads.cancelled (h : o.Leads u v) (hu : u.cancelled = true) : v.cancelled = true := by
  induction h with
  | here => exact hu
  | call _ _ ih => exact Bool.or_eq_true_iff.2 (.inl ih)
  | attach _ _ _ ih => exact Bool.or_eq_true_iff.2 (.inl ih)
  | fetch _ ih => exact Bool.or_eq_true_iff.2 (.inl ih)
  | write _ _ ih => exact ih

end Outside

namespace BringUp

variable {o : Outside} {t : Testbed} {b : BringUp} {w w' u v : World} {sysConfig what : String}
  {s : Synthesis} {late : List Failure}

section Endings

theorem Launched.start_eq (h : Launched o t b w sysConfig s w') :
    start o t b w = connect o t sysConfig (b.synthesized sysConfig s) w' := by
  obtain ⟨idle, w₁, made, launched⟩ := h
  unfold start
  rw [if_neg (not_not.2 idle), made]
  dsimp only
  rw [launched]
  rfl

end Endings

section Calls

end Calls

section BrokenOff

end BrokenOff

end BringUp

end OpticalTestbed
