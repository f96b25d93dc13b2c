import OpticalTestbed.Dpid
import OpticalTestbed.Proofs.Text.Chars
import OpticalTestbed.Proofs.Text.Split
/-!
The written forms of a datapath id: the delimited one is the compact one with a colon between
octets, and reading it gives the compact one back.
-/
namespace OpticalTestbed

variable {cs : List Char} {c : Char}

theorem isLowerHex_iff (c : Char) :
    isLowerHex c = true ↔ (48 ≤ c.toNat ∧ c.toNat ≤ 57) ∨ (97 ≤ c.toNat ∧ c.toNat ≤ 102) := by
  simp only [isLowerHex, Bool.or_eq_true, Bool.and_eq_true, decide_eq_true_eq]
  rfl

theorem isLowerHex_facts (h : isLowerHex c = true) :
    Text.isHexDigit c = true ∧ isOctetSeparator c = false ∧ Text.lowerAscii c = c ∧ c ≠ '/' := by
  have hn := (isLowerHex_iff c).1 h
  revert h
  exact Text.forall_below c (by omega : c.toNat < 103) (by decide)

theorem map_lowerAscii_eq_self (h : cs.all isLowerHex = true) : cs.map Text.lowerAscii = cs := by
  refine List.map_congr_left (fun c hc => ?_) |>.trans (List.map_id cs)
  exact (isLowerHex_facts (List.all_eq_true.1 h c hc)).2.2.1

/-- Digits in small letters are compact as they are. -/
theorem compactId_eq_self (h : cs.all isLowerHex = true) : compactId cs = cs := by
  have hkept : cs.filter (fun c => !isOctetSeparator c) = cs := by
    rw [List.filter_eq_self]
    intro c hc
    simp [(isLowerHex_facts (List.all_eq_true.1 h c hc)).2.1]
  rw [compactId, hkept, map_lowerAscii_eq_self h]

theorem delimitedId_scheme (h : '/' ∉ cs) :
    delimitedId (uriScheme ++ cs) = Text.join [':'] (pairs cs) := by
  have hslash : ∀ c ∈ uriScheme ++ cs, decide (c ≠ '/') = true := by
    intro c hc
    refine decide_eq_true fun he => ?_
    rcases List.mem_append.1 (he ▸ hc) with hc | hc
    · exact absurd hc (by decide)
    · exact h hc
  rw [delimitedId, List.takeWhile_eq_self_iff.2 hslash]
  rfl

/-- What follows a slash does not count. -/
theorem delimitedId_slash (uri more : List Char) :
    delimitedId (uri ++ '/' :: more) = delimitedId uri := by
  rw [delimitedId, Text.takeWhile_break (by decide), delimitedId]

theorem delimitedId_deviceUri (h : cs.all isLowerHex = true) :
    delimitedId (deviceUri cs) = Text.join [':'] (pairs cs) := by
  rw [deviceUri, compactId_eq_self h]
  exact delimitedId_scheme fun hc => (isLowerHex_facts (List.all_eq_true.1 h _ hc)).2.2.2 rfl

theorem length_of_mem_pairs {pair : List Char} (h : pair ∈ pairs cs) : pair.length = 2 := by
  fun_induction pairs cs with
  | case1 a b rest ih =>
    rcases List.mem_cons.1 h with rfl | h
    · rfl
    · exact ih h
  | case2 => cases h

theorem length_pairs (cs : List Char) : (pairs cs).length = cs.length / 2 := by
  fun_induction pairs cs with
  | case1 a b rest ih =>
    simp only [List.length_cons, ih]
    omega
  | case2 cs hshort =>
    obtain _ | ⟨a, _ | ⟨b, cs⟩⟩ := cs
    · rfl
    · simp
    · exact absurd rfl (hshort a b cs)

/-- An even number of characters is not shortened by pairing them. -/
theorem flatten_pairs (heven : 2 ∣ cs.length) : (pairs cs).flatten = cs := by
  fun_induction pairs cs with
  | case1 a b rest ih =>
    simp only [List.length_cons] at heven
    rw [List.flatten_cons, ih (by omega)]
    rfl
  | case2 cs hshort =>
    obtain _ | ⟨a, _ | ⟨b, cs⟩⟩ := cs
    · rfl
    · simp at heven
    · exact absurd rfl (hshort a b cs)

/-- Dropping the colons leaves the characters that were joined. -/
theorem filter_join_pairs {q : Char → Bool} (hq : q ':' = false) (heven : 2 ∣ cs.length)
    (hd : ∀ c ∈ cs, q c = true) : (Text.join [':'] (pairs cs)).filter q = cs := by
  rw [Text.filter_join hq, flatten_pairs heven, List.filter_eq_self.2 hd]

/-- Pairs with colons between them are compact when there are no separators and no capitals. -/
theorem compactId_join_pairs (heven : 2 ∣ cs.length) (hsep : ∀ c ∈ cs, isOctetSeparator c = false)
    (hlower : cs.map Text.lowerAscii = cs) : compactId (Text.join [':'] (pairs cs)) = cs := by
  rw [compactId, filter_join_pairs (by decide) heven fun c hc => by simp [hsep c hc], hlower]

namespace Dpid

theorem ext {d e : Dpid} (h : d.digits = e.digits) : d = e := by
  cases d
  cases e
  cases h
  rfl

theorem isLowerHex_of_mem (d : Dpid) {c : Char} (h : c ∈ d.digits) : isLowerHex c = true :=
  List.all_eq_true.1 d.wellFormed.2 c h

theorem not_mem_digits (d : Dpid) {c : Char} (hc : isLowerHex c = false) : c ∉ d.digits := by
  intro h
  rw [d.isLowerHex_of_mem h] at hc
  cases hc

theorem even (d : Dpid) : 2 ∣ d.digits.length := by
  rw [d.wellFormed.1]
  decide

theorem text_injective : Function.Injective text := fun _ _ h => ext (String.ofList_injective h)

theorem toList_uri (d : Dpid) : d.uri.toList = uriScheme ++ d.digits := by
  rw [uri, String.toList_ofList, deviceUri, compactId_eq_self d.wellFormed.2]

theorem uri_injective {d e : Dpid} (h : d.uri = e.uri) : d = e := by
  have hdigits := congrArg String.toList h
  rw [toList_uri, toList_uri] at hdigits
  exact Dpid.ext (List.append_cancel_left hdigits)

theorem toList_delimited (d : Dpid) :
    d.delimited.toList = Text.join [':'] (pairs d.digits) := by
  rw [delimited, String.toList_ofList, delimitedId_deviceUri d.wellFormed.2]

theorem filter_delimited (d : Dpid) : d.delimited.toList.filter (· ≠ ':') = d.digits := by
  rw [toList_delimited]
  refine filter_join_pairs (by decide) d.even fun c hc => ?_
  have hsep := (isLowerHex_facts (d.isLowerHex_of_mem hc)).2.1
  simp only [isOctetSeparator, Bool.or_eq_false_iff, decide_eq_false_iff_not] at hsep
  simpa using hsep.1

/-- The delimited form of an id reads as the id. -/
theorem compactId_delimited (d : Dpid) : compactId d.delimited.toList = d.digits := by
  rw [toList_delimited]
  exact compactId_join_pairs d.even
    (fun c hc => (isLowerHex_facts (d.isLowerHex_of_mem hc)).2.1)
    (map_lowerAscii_eq_self d.wellFormed.2)

theorem delimited_injective {d e : Dpid} (h : d.delimited = e.delimited) : d = e := by
  refine Dpid.ext ?_
  rw [← d.compactId_delimited, ← e.compactId_delimited, h]

theorem mem_delimited (d : Dpid) {c : Char} (h : c ∈ d.delimited.toList) :
    c = ':' ∨ isLowerHex c = true := by
  by_cases hc : c = ':'
  · exact .inl hc
  · have hmem : c ∈ d.delimited.toList.filter (· ≠ ':') := by simp [h, hc]
    rw [filter_delimited] at hmem
    exact .inr (d.isLowerHex_of_mem hmem)

end Dpid

end OpticalTestbed
