import OpticalTestbed.Proofs.BringUp.Order
import OpticalTestbed.Proofs.BringUp.Run
import OpticalTestbed.Proofs.SysConfig.TapNames
/-!
The taps that a link can be attached to were all provided before the emulator was started: the same
text is searched for taps to create and, later, for the tap behind a port.
-/
namespace OpticalTestbed.BringUp

open SysConfig (taps tapOf)

variable {t : Testbed} {rest more : List Occurrence} {c : Occurrence}

/-- Before the emulator's script is run in a trace, every tap that can be found in a text has been
created, unless the listing of that time reported it, and brought up. -/
def ProvidedFirst (t : Testbed) (text : String) (trace : List Occurrence) : Prop :=
  ∀ before c after, trace = before ++ c :: after →
    c.event.Runs (· = Emulator.scriptCall t.release "start") →
    ∃ listing there seen, ⟨.ran Interfaces.showCall (.ok listing), seen⟩ ∈ before ∧
      (∀ name, name ∈ there ↔ Interfaces.Reports listing name) ∧
      ∀ dpid port tap, tapOf text dpid port = .ok tap → Interfaces.Provides there before tap

/-- Looking after taps does not start the emulator. -/
theorem not_start_of_isCall (h : c.event.Runs Interfaces.IsCall) :
    ¬c.event.Runs (· = Emulator.scriptCall t.release "start") :=
  runs_apart h fun _ hi => (IsCareCall.interface hi).ne_start

/-- A part of a trace without a start lies before every start. -/
theorem subset_before {before after : List Occurrence}
    (h : rest ++ more = before ++ c :: after) (hc : c ∉ rest) : rest ⊆ before := by
  rcases List.append_eq_append_iff.1 h with ⟨a, rfl, -⟩ | ⟨a, rfl, hmore⟩
  · exact List.subset_append_left _ _
  · cases a with
    | nil => simp
    | cons d a =>
      obtain ⟨rfl, -⟩ := List.cons.inj hmore
      simp at hc

theorem providedFirst_launch (o : Outside) (t : Testbed) (text : String) (w : World) :
    ∃ trace, w.Traces (launch o t text w).2 trace ∧ ProvidedFirst t text trace := by
  obtain ⟨trace, htrace, hcalls⟩ := launch_trace o t text w
  refine ⟨trace, htrace, fun before c after hsplit hstart => ?_⟩
  rcases hcalls with ⟨hcare, -⟩ | ⟨listing, rest, answer, seen, more, rfl, hrest, hprovides, -⟩
  · have hmem : c ∈ trace := hsplit ▸ List.mem_append_right _ List.mem_cons_self
    exact absurd hstart (not_start_of_isCall (hcare c hmem))
  · have hcare : ∀ d ∈ ⟨.ran Interfaces.showCall (.ok listing), w.files⟩ :: rest,
        d.event.Runs Interfaces.IsCall := List.forall_mem_cons.2 ⟨.show, hrest⟩
    have hbefore := subset_before hsplit fun hc => not_start_of_isCall (hcare c hc) hstart
    refine ⟨listing, _, w.files, hbefore List.mem_cons_self, fun _ => Interfaces.mem_names_iff,
      fun dpid port tap htap => ?_⟩
    have hprovided := hprovides tap (SysConfig.tapOf_mem_taps htap)
    exact hprovided.mono (List.Subset.trans (List.subset_cons_self _ _) hbefore)

/-- The taps of a text are listed once each as they first appear, with every tap that can be found
behind a port among them. If no call fails, they are looked after by one listing, one after another
and in order, and those that it does not report are counted. All that can be found has been provided
when the emulator is started. -/
theorem taps_provisioned (text : String) :
    SysConfig.ListsTaps text.toList (taps text) ∧
    (∀ dpid port tap, tapOf text dpid port = .ok tap → tap ∈ taps text) ∧
    (∀ o, (Interfaces.ensureAll o (taps text)).Tells (Interfaces.Ensures (taps text))) ∧
    ∀ o t (w : World), ∃ trace, w.Traces (launch o t text w).2 trace ∧
      ProvidedFirst t text trace :=
  ⟨SysConfig.listsTaps_taps text, fun _ _ _ => SysConfig.tapOf_mem_taps,
    fun o => Interfaces.tells_ensureAll o _, fun o t w => providedFirst_launch o t text w⟩

namespace Sample

/-- A `sys.config` with two taps, one of them for a port. -/
def pairConfig : String :=
  "port,1,tap7\nport,2,tap8\n00:00:00:00:00:00:ff:01\nport,1,port_no,10\x7d"

/-- A listing with one of the taps. -/
def listing : String := "1: lo: <LOOPBACK,UP> mtu 65536\n4: tap7@if2: <BROADCAST> mtu 1500\n"

/-- Programs that print nothing, but for the listing. -/
def host : Outside :=
  OpenVSwitch.outside
    (fun w i => ⟨.ok (if i = Interfaces.showCall then listing else ""), w.files, false⟩)
    (fun w => ⟨.ok ⟨[]⟩, w.files, false⟩)

end Sample

/-- The tap that the listing reports is brought up only, the other one is created before. -/
theorem taps_provisioned_sample :
    tapOf Sample.pairConfig "00:00:00:00:00:00:ff:01" 10 = .ok "tap7" ∧
    "tap7" ∈ taps Sample.pairConfig ∧ Interfaces.Reports Sample.listing "tap7" ∧
    ¬Interfaces.Reports Sample.listing "tap8" ∧
    ∃ calls, Sample.world.Traces (Interfaces.ensureAll Sample.host (taps Sample.pairConfig)
        Sample.world).2 calls ∧ Interfaces.NoneFails (calls.map (·.event)) ∧
      Interfaces.Answered [⟨"ip", ["-o", "link", "show"], none⟩,
        ⟨"ip", ["link", "set", "dev", "tap7", "up"], none⟩,
        ⟨"ip", ["tuntap", "add", "dev", "tap8", "mode", "tap"], none⟩,
        ⟨"ip", ["link", "set", "dev", "tap8", "up"], none⟩] (calls.map (·.event)) ∧
      (Interfaces.ensureAll Sample.host (taps Sample.pairConfig) Sample.world).1 = .ok 1 := by
  have htap : tapOf Sample.pairConfig "00:00:00:00:00:00:ff:01" 10 = .ok "tap7" := by
    decide +kernel
  have htaps : taps Sample.pairConfig = ["tap7", "tap8"] := by decide +kernel
  have hseven : Interfaces.Reports Sample.listing "tap7" :=
    Interfaces.mem_names_iff.1 (by decide +kernel)
  have height : ¬Interfaces.Reports Sample.listing "tap8" :=
    fun h => absurd (Interfaces.mem_names_iff.2 h) (by decide +kernel)
  obtain ⟨-, hlisted, hensures, -⟩ := taps_provisioned Sample.pairConfig
  obtain ⟨calls, hcalls, hensured⟩ := hensures Sample.host Sample.world
  have hevents : calls.map (·.event) = [.ran Interfaces.showCall (.ok Sample.listing),
      .ran (Interfaces.upCall "tap7") (.ok ""), .ran (Interfaces.addCall "tap8") (.ok ""),
      .ran (Interfaces.upCall "tap8") (.ok "")] := by
    have hhistory := (hcalls.trans (List.append_nil _)).symm
    rw [← List.reverse_reverse calls, hhistory, htaps]
    rfl
  have hnone : Interfaces.NoneFails (calls.map (·.event)) := by
    simp [hevents, Interfaces.NoneFails, Event.FailsWith]
  obtain ⟨listing, there, rest, hfirst, hthere, hanswered, hcreated⟩ := hensured hnone
  -- the listing is the one that the host prints, so it tells the two taps apart
  obtain ⟨hlisting, -⟩ := List.cons.inj (hfirst.symm.trans hevents)
  obtain rfl : listing = Sample.listing := by simpa using hlisting
  have hthere₇ : "tap7" ∈ there := (hthere _).2 hseven
  have hthere₈ : "tap8" ∉ there := fun h => height ((hthere _).1 h)
  have hneeded : (taps Sample.pairConfig).flatMap (Interfaces.callsFor there) =
      [Interfaces.upCall "tap7", Interfaces.addCall "tap8", Interfaces.upCall "tap8"] := by
    simp [htaps, Interfaces.callsFor, hthere₇, hthere₈]
  rw [hneeded] at hanswered
  refine ⟨htap, hlisted _ _ _ htap, hseven, height, calls, hcalls, hnone, ?_, ?_⟩
  · rw [hfirst]
    exact .cons ⟨_, rfl⟩ hanswered
  · simpa [htaps, hthere₇, hthere₈] using hcreated

end OpticalTestbed.BringUp
