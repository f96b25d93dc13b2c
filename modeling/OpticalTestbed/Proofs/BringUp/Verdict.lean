import OpticalTestbed.Proofs.BringUp.Course
import OpticalTestbed.Proofs.BringUp.Run
/-!
What the report of a start says: how many links are attached, and that nothing went wrong.
-/
namespace OpticalTestbed.BringUp

variable {o : Outside} {t : Testbed} {b b' : BringUp} {w w' : World} {report : BringUpReport}

/-- Nothing is left to be desired of a start: the taps were seen, every cross-connect is attached,
all devices in scope were available at one time, and every controller accepted the document. -/
structure Clean (t : Testbed) (bindings : Bindings) (probes fetches pushes : List Occurrence) :
    Prop where
  taps : ∃ c ∈ probes, c.event.ShowsTaps t.topology.crossConnects.length
  links : ∀ link ∈ t.topology.crossConnects, ∃ tap, (link, tap) ∈ bindings.attached
  devices : ∃ c ∈ fetches, c.event.ReportsDevices t.deviceUris
  pushes : List.Forall₂ (Accepted t) t.configuration.controllers pushes

/-- A start that finishes counts the links that are attached, and it is not degraded exactly if it
leaves nothing to be desired. -/
theorem start_report (built : t.topology.Built) (h : start o t b w = (.ok report, b', w')) :
    report.bound = b'.bindings.attachedCount ∧
      ∃ probes binding fetches pushes, Parts o t b w w' probes binding fetches pushes ∧
        probes.length ≤ t.configuration.interfaceWait.maxAttempts ∧
        fetches.length ≤ t.configuration.deviceWait.maxAttempts ∧
        (report.degraded = false ↔ Clean t b'.bindings probes fetches pushes) := by
  have path := start_path o t b w
  rw [h] at path
  cases path with
  | @finished sysConfig s late later all answer w₁ w₂ reached waited hlater hall =>
    obtain ⟨w₀, probes, launched, hprobes, htaps, -, hseen⟩ := reached.probes
    obtain ⟨binding, hbinding, -, -⟩ := Bindings.explained_bindAll o t.topology sysConfig w₁
    rw [reached.expectedDevices] at waited
    obtain ⟨fetches, hfetches, -, hfetched⟩ := devices_over waited hlater
    obtain ⟨pushes, hpushes, -, -, haccepted⟩ := pushAll_ends o t t.configuration.controllers w₂
    have hparts : Parts o t b w _ probes binding fetches pushes := ⟨sysConfig, s, w₀, w₁, _, w₂,
      launched, htaps, rfl, by rw [waited], hprobes, hbinding, hfetches, hpushes⟩
    refine ⟨?_, probes, binding, fetches, pushes, hparts, hseen.within, hfetched.within, ?_⟩
    · exact (Bindings.attached_bindAll o t.topology sysConfig w₁).length_eq.symm
    · have hclean : (!all.isEmpty) = false ↔ all = [] := by simp
      rw [hclean, hall]
      simp only [List.append_eq_nil_iff, hseen.clean, hfetched.clean, haccepted,
        Bindings.warnings_bindAll built o sysConfig w₁]
      constructor
      · rintro ⟨⟨⟨htaps, hlinks⟩, hdevices⟩, hpushed⟩
        exact ⟨htaps, hlinks, hdevices, hpushed⟩
      · rintro ⟨htaps, hlinks, hdevices, hpushed⟩
        exact ⟨⟨⟨htaps, hlinks⟩, hdevices⟩, hpushed⟩

/-- Programs that print nothing but the listing of one tap, and a controller that reports both
devices of the testbed as available. -/
def Sample.helpful : Outside :=
  OpenVSwitch.outside
    (fun w i => ⟨.ok (if i = Interfaces.showCall then "7: tap7: <BROADCAST>" else ""), w.files,
      false⟩)
    (fun w => ⟨.ok ⟨Sample.testbed.deviceUris.map fun id => ⟨id, true⟩⟩, w.files, false⟩)

/-- A start in which nothing goes wrong. -/
theorem start_report_helpful : Sample.topology.Built ∧ ∃ report b' w',
    start Sample.helpful Sample.testbed (fresh Sample.topology) Sample.terseWorld =
        (.ok report, b', w') ∧
      report.degraded = false ∧ report.bound = b'.bindings.attachedCount ∧
      ∃ probes binding fetches pushes, Parts Sample.helpful Sample.testbed (fresh Sample.topology)
        Sample.terseWorld w' probes binding fetches pushes ∧
          Clean Sample.testbed b'.bindings probes fetches pushes := by
  have hclean : (start Sample.helpful Sample.testbed (fresh Sample.topology)
      Sample.terseWorld).1.map (·.degraded) = .ok false := by decide +kernel
  generalize hstart : start Sample.helpful Sample.testbed (fresh Sample.topology)
    Sample.terseWorld = outcome at hclean
  obtain ⟨answer, b', w'⟩ := outcome
  cases answer with
  | error e => cases hclean
  | ok report =>
    have hdegraded : report.degraded = false := Except.ok.inj hclean
    obtain ⟨hbound, probes, binding, fetches, pushes, hparts, -, -, hiff⟩ :=
      start_report Sample.built hstart
    exact ⟨Sample.built, report, b', w', rfl, hdegraded, hbound, probes, binding, fetches, pushes,
      hparts, hiff.1 hdegraded⟩

end OpticalTestbed.BringUp
