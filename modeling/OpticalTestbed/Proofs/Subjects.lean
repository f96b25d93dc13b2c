import OpticalTestbed.NetworkConfig
import OpticalTestbed.Proofs.Dpid
import OpticalTestbed.Proofs.Text.Numeral
import OpticalTestbed.Proofs.Text.Split
import Mathlib.Data.List.Basic
/-!
The keys of the controller document can be taken apart again: a device URI gives back the datapath
id, a port subject also the number, and a link subject the subjects of both ends.
-/
namespace OpticalTestbed

variable {d e : Dpid} {p q : Nat}

namespace Dpid

theorem length_uri (d : Dpid) : d.uri.toList.length = 19 := by
  rw [toList_uri, List.length_append, d.wellFormed.1]
  rfl

/-- The characters of a URI: those of the scheme and hexadecimal digits. -/
theorem not_mem_uri {c : Char} (hs : c ∉ uriScheme) (hc : isLowerHex c = false) (d : Dpid) :
    c ∉ d.uri.toList := by
  rw [toList_uri, List.mem_append]
  exact fun hmem => hmem.elim hs (d.not_mem_digits hc)

end Dpid

theorem toList_portSubject (uri : String) (p : Nat) :
    (portSubject uri p).toList = uri.toList ++ '/' :: Numeral.decimal p := by
  simp [portSubject, decimalText]

/-- URIs are equally long, so the slash stands at the same place. -/
theorem portSubject_injective (h : portSubject d.uri p = portSubject e.uri q) : d = e ∧ p = q := by
  have hchars := congrArg String.toList h
  rw [toList_portSubject, toList_portSubject] at hchars
  have hlength : d.uri.toList.length = e.uri.toList.length := by rw [d.length_uri, e.length_uri]
  obtain ⟨huri, hport⟩ := List.append_inj hchars hlength
  exact ⟨Dpid.uri_injective (String.toList_injective huri),
    Numeral.decimal_injective (List.cons.inj hport).2⟩

theorem not_mem_portSubject (d : Dpid) (p : Nat) : '-' ∉ (portSubject d.uri p).toList := by
  rw [toList_portSubject, List.mem_append, List.mem_cons]
  rintro (hmem | hslash | hmem)
  · exact Dpid.not_mem_uri (by decide) (by decide) d hmem
  · exact absurd hslash (by decide)
  · exact Numeral.not_mem_decimal (by decide) p hmem

/-- A dash stands between the subjects of the ends and nowhere else. -/
theorem NetworkConfig.linkSubject_injective {l m : LinkDescriptor} (hsrc : '-' ∉ l.src.toList)
    (hdst : '-' ∉ l.dst.toList) (h : linkSubject l = linkSubject m) :
    l.src = m.src ∧ l.dst = m.dst := by
  have hchars : l.src.toList ++ '-' :: l.dst.toList = m.src.toList ++ '-' :: m.dst.toList := by
    simpa [linkSubject] using congrArg String.toList h
  obtain ⟨hs, -, hd⟩ := (List.append_cons_inj_of_notMem hsrc hdst).1 hchars
  exact ⟨String.toList_injective hs, String.toList_injective hd⟩

theorem NetworkConfig.endsOfSubject?_linkSubject {d : LinkDescriptor} (h : '-' ∉ d.src.toList) :
    endsOfSubject? (linkSubject d) = some (d.src, d.dst) := by
  have hchars : (linkSubject d).toList = d.src.toList ++ '-' :: d.dst.toList := by
    simp [linkSubject]
  rw [endsOfSubject?, hchars, Text.cutAt?_append h]
  simp

/-- Different subjects are cut into different ends. -/
theorem NetworkConfig.endsOfSubject?_injective {s s' : String} {ends : String × String}
    (h : endsOfSubject? s = some ends) (h' : endsOfSubject? s' = some ends) : s = s' := by
  obtain ⟨cut, hcut, rfl⟩ := Option.map_eq_some_iff.1 h
  obtain ⟨cut', hcut', hsame⟩ := Option.map_eq_some_iff.1 h'
  obtain ⟨hfst, hsnd⟩ := Prod.mk.inj hsame
  have hchars := Text.cutAt?_eq_some hcut
  have hchars' := Text.cutAt?_eq_some hcut'
  rw [String.ofList_injective hfst, String.ofList_injective hsnd] at hchars'
  exact String.toList_injective (hchars.trans hchars'.symm)

end OpticalTestbed
