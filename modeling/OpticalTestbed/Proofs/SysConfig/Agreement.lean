import OpticalTestbed.Proofs.SysConfig.Lookup
import OpticalTestbed.Proofs.SysConfig.SwitchIds
/-!
How far the two readers of `sys.config` agree on the switches in it. A switch that is numbered is
found by the search for its taps as well, unless its id is written with dashes: these delimit octets
for the numbering, and the search leaves out colons only.
-/
namespace OpticalTestbed.SysConfig

variable {n port : Nat} {cs xs line : List Char} {text dpid : String}

section Octets

theorem delimitedOctets?_eq_some (h : delimitedOctets? cs = some xs) :
    xs <:+: cs ∧ Octets 7 xs := by
  obtain ⟨i, hat, -⟩ := delimitedOctets?_eq_some_iff.1 h
  exact ⟨hat.found.isInfix.trans (List.drop_suffix i cs).isInfix, hat.octets⟩

/-- A line whose id is written without dashes names the device for the search. -/
theorem namesDevice_of_octets (h : delimitedOctets? line = some xs) (hdash : '-' ∉ xs) :
    namesDevice (compactId xs) line = true := by
  obtain ⟨hin, hoctets⟩ := delimitedOctets?_eq_some h
  have hcolons : xs.filter (fun c => !isOctetSeparator c) = xs.filter (· ≠ ':') := by
    refine List.filter_congr fun c hc => ?_
    have hne : c ≠ '-' := fun he => hdash (he ▸ hc)
    simp [isOctetSeparator, hne]
  have hat : Text.HexAt (compactId xs) (xs.filter (· ≠ ':')) :=
    ⟨hcolons ▸ hoctets.hex, by rw [compactId, hcolons]⟩
  exact Text.contains_lowercase hat (hin.filter _)

end Octets

/-- A number comes from a line whose first delimited id is that of the switch. -/
theorem exists_line_of_numbered (numbered : (SwitchIds.ofText text).get? dpid = some n) :
    ∃ line ∈ Text.lines text.toList, ∃ octets, delimitedOctets? line = some octets ∧
      compactId octets = compactId dpid.toList := by
  have hmem : String.ofList (compactId dpid.toList) ∈
      SwitchIds.idsOfLines (Text.lines text.toList) := by
    by_contra hnot
    have hnone := @SwitchIds.get?_number_of_not_mem Dict.empty 1 _ _ hnot
    rw [Dict.get?_empty] at hnone
    rw [SwitchIds.get?, SwitchIds.ofText, hnone] at numbered
    cases numbered
  obtain ⟨line, hline, hid⟩ := List.mem_filterMap.1 hmem
  obtain ⟨octets, hoctets, hsame⟩ := Option.map_eq_some_iff.1 hid
  exact ⟨line, hline, octets, hoctets, String.ofList_injective hsame⟩

/-- The search has no block exactly if no line names the device. -/
theorem tapOf_noDeviceBlock_iff : tapOf text dpid port = .error .noDeviceBlock ↔
    ∀ line ∈ Text.lines text.toList, namesDevice (compactId dpid.toList) line = false := by
  constructor
  · intro hmiss
    obtain ⟨r, hr⟩ := exists_lookup (Text.lines text.toList) (compactId dpid.toList) port
    have hsame := (tapOf_eq text dpid port).trans hr.report_eq
    rw [hmiss] at hsame
    subst hsame
    cases hr with
    | noDeviceBlock hnone =>
      intro line hline
      by_contra hnames
      obtain ⟨b, hb⟩ := exists_blockBegins hline ((Bool.not_eq_false _).mp hnames)
      exact hnone b hb
  · intro hnone
    rw [tapOf_eq, foldl_before _ _ hnone]
    rfl

/-- A switch with a number has no block for the search exactly if its digits stand together in no
line, colons left out. That takes dashes: every line that numbers the switch writes its id with
one. -/
theorem noDeviceBlock_of_numbered (numbered : (SwitchIds.ofText text).get? dpid = some n)
    (port : Nat) :
    (tapOf text dpid port = .error .noDeviceBlock ↔ ∀ line ∈ Text.lines text.toList,
      ¬compactId dpid.toList <:+: Text.lowercase (line.filter (· ≠ ':'))) ∧
    (∃ line ∈ Text.lines text.toList, ∃ octets, delimitedOctets? line = some octets ∧
      compactId octets = compactId dpid.toList) ∧
    ∀ line ∈ Text.lines text.toList, ∀ octets, delimitedOctets? line = some octets →
      compactId octets = compactId dpid.toList → tapOf text dpid port = .error .noDeviceBlock →
      '-' ∈ octets := by
  refine ⟨?_, exists_line_of_numbered numbered, ?_⟩
  · rw [tapOf_noDeviceBlock_iff]
    exact forall₂_congr fun line _ => Text.contains_eq_false_iff
  · intro line hline octets hoctets hsame hmiss
    by_contra hdash
    have hnames := namesDevice_of_octets hoctets hdash
    rw [hsame, tapOf_noDeviceBlock_iff.1 hmiss line hline] at hnames
    cases hnames

namespace Sample

/-- A text that writes the id of its switch with dashes. -/
def dashedText : String := String.ofList (Text.join ['\n']
  ["\x7bport,2,[\x7binterface,\"tap1\"\x7d]\x7d".toList, "\x7bswitch,1,".toList,
    "\x7bdatapath_id,\"00-00-ff-ff-ff-ff-ff-01\"\x7d,".toList,
    "\x7bport,2,\x7bqueues,[]\x7d,\x7bport_no,10\x7d\x7d".toList])

end Sample

theorem noDeviceBlock_of_numbered_dashed :
    (SwitchIds.ofText Sample.dashedText).get? "0000ffffffffff01" = some 1 ∧
      tapOf Sample.dashedText "0000ffffffffff01" 10 = .error .noDeviceBlock := by
  have hnumbered : (SwitchIds.ofText Sample.dashedText).get? "0000ffffffffff01" = some 1 := by
    decide +kernel
  refine ⟨hnumbered, (noDeviceBlock_of_numbered hnumbered 10).1.2 fun line hline => ?_⟩
  rw [← Text.contains_eq_false_iff]
  have hall : ∀ line ∈ Text.lines Sample.dashedText.toList,
      Text.contains (compactId "0000ffffffffff01".toList)
        (Text.lowercase (line.filter (· ≠ ':'))) = false := by
    decide +kernel
  exact hall line hline

end OpticalTestbed.SysConfig
