import OpticalTestbed.Proofs.Text.Lowercase
import OpticalTestbed.Proofs.Text.Numeral
/-!
The written forms of a datapath id are inverse to each other: each of them reads as the id that it
was written for, and there is one id for each 64-bit number.
-/
namespace OpticalTestbed

variable {cs : List Char} {c : Char} {d : Dpid} {s : String}

theorem isCompactDpid_map_lowerAscii : IsCompactDpid (cs.map Text.lowerAscii) ↔
    cs.length = 16 ∧ ∀ c ∈ cs, Text.isHexDigit c = true := by
  simp [IsCompactDpid, Text.isLowerHex_lowerAscii]

namespace Dpid

section Reading

/-- The characters of a text that count for the id it names: one scheme in front is dropped, and
then the separators. -/
def significant (s : String) : List Char :=
  (if uriScheme <+: s.toList then s.toList.drop 3 else s.toList).filter fun c => c ≠ ':' ∧ c ≠ '-'

theorem stripFront?_scheme (cs : List Char) :
    (Text.stripFront? uriScheme cs).getD cs = if uriScheme <+: cs then cs.drop 3 else cs := by
  cases hstrip : Text.stripFront? uriScheme cs with
  | none =>
    have hnot : ¬uriScheme <+: cs := by
      rw [← Text.startsWith_iff, Text.startsWith, hstrip]
      simp
    rw [if_neg hnot]
    rfl
  | some rest =>
    rw [Text.stripFront?_eq_some_iff] at hstrip
    subst hstrip
    rw [if_pos (List.prefix_append _ _)]
    rfl

theorem compactId_significant (s : String) :
    compactId ((Text.stripFront? uriScheme s.toList).getD s.toList) =
      (significant s).map Text.lowerAscii := by
  rw [compactId, stripFront?_scheme, significant]
  congr 2
  funext c
  simp [isOctetSeparator]

theorem ofText?_eq_ok_iff : ofText? s = .ok d ↔
    compactId ((Text.stripFront? uriScheme s.toList).getD s.toList) = d.digits := by
  unfold ofText?
  dsimp only
  split
  · rw [Except.ok.injEq]
    exact ⟨fun h => h ▸ rfl, fun h => ext h⟩
  · rename_i hnot
    refine ⟨nofun, fun h => absurd d.wellFormed ?_⟩
    rwa [← h]

theorem exists_ofText?_iff : (∃ d, ofText? s = .ok d) ↔
    (significant s).length = 16 ∧ ∀ c ∈ significant s, Text.isHexDigit c = true := by
  simp only [ofText?_eq_ok_iff, compactId_significant]
  rw [← isCompactDpid_map_lowerAscii]
  exact ⟨fun ⟨d, h⟩ => h ▸ d.wellFormed, fun h => ⟨⟨_, h⟩, rfl⟩⟩

/-- A text without a scheme is read as it stands. -/
theorem ofText?_of_compactId (hscheme : 'o' ∉ s.toList) (h : compactId s.toList = d.digits) :
    ofText? s = .ok d := by
  have hnot : ¬uriScheme <+: s.toList := fun hp => hscheme (hp.subset List.mem_cons_self)
  rw [ofText?_eq_ok_iff, stripFront?_scheme, if_neg hnot, h]

theorem ofText?_text (d : Dpid) : ofText? d.text = .ok d := by
  have hdigits : d.text.toList = d.digits := String.toList_ofList
  refine ofText?_of_compactId ?_ (by rw [hdigits, compactId_eq_self d.wellFormed.2])
  rw [hdigits]
  exact d.not_mem_digits (by decide)

theorem ofText?_uri (d : Dpid) : ofText? d.uri = .ok d := by
  rw [ofText?_eq_ok_iff, stripFront?_scheme, toList_uri, if_pos (List.prefix_append _ _)]
  exact compactId_eq_self d.wellFormed.2

theorem ofText?_delimited (d : Dpid) : ofText? d.delimited = .ok d := by
  refine ofText?_of_compactId (fun ho => ?_) (compactId_delimited d)
  rcases mem_delimited d ho with h | h
  · exact absurd h (by decide)
  · exact absurd h (by decide)

/-- Eight groups of two characters that spell the digits of an id. -/
structure SpelledBy (d : Dpid) (octets : List (List Char)) : Prop where
  eight : octets.length = 8
  two : ∀ octet ∈ octets, octet.length = 2
  digits : octets.flatten = d.digits

/-- Between its colons the delimited form has the digits in pairs. -/
theorem spelledBy_delimited (d : Dpid) : d.SpelledBy (Text.splitOn ':' d.delimited.toList) := by
  have hlength : (pairs d.digits).length = 8 := by rw [length_pairs, d.wellFormed.1]
  have hflatten := flatten_pairs d.even
  have hcolon : ∀ pair ∈ pairs d.digits, ':' ∉ pair := fun pair hpair hc => by
    have hmem := List.mem_flatten_of_mem hpair hc
    rw [hflatten] at hmem
    exact d.not_mem_digits (by decide) hmem
  have hne : pairs d.digits ≠ [] := List.ne_nil_of_length_pos (by omega)
  rw [toList_delimited, Text.splitOn_join_self hne hcolon]
  exact ⟨hlength, fun _ => length_of_mem_pairs, hflatten⟩

end Reading

section Numbers

theorem hexDigit_of_isLowerHex (h : isLowerHex c = true) : ∃ n < 16, Text.hexDigit n = c := by
  have hn := (isLowerHex_iff c).1 h
  revert h
  exact Text.forall_below c (by omega : c.toNat < 103) (by decide)

theorem lowDigits_append (n value : Nat) (tail more : List Char) :
    lowDigits n value (tail ++ more) = lowDigits n value tail ++ more := by
  induction n generalizing value tail with
  | zero => rfl
  | succ n ih => simp only [lowDigits, ← List.cons_append, ih]

/-- The digits of a number denote it, as far as they reach. -/
theorem valueFrom_lowDigits (n acc value : Nat) (tail : List Char) :
    Numeral.valueFrom 16 acc (lowDigits n value tail) =
      Numeral.valueFrom 16 (acc * 16 ^ n + value % 16 ^ n) tail := by
  induction n generalizing value tail with
  | zero => simp [lowDigits, Nat.mod_one]
  | succ n ih =>
    have hdigit : value % 16 < 16 := Nat.mod_lt _ (by decide)
    have hvalue : (acc * 16 ^ n + value / 16 % 16 ^ n) * 16 + value % 16 =
        acc * 16 ^ (n + 1) + value % 16 ^ (n + 1) := by
      rw [pow_succ', Nat.mod_mul]
      ring
    rw [lowDigits, ih, Numeral.valueFrom, Numeral.hexValue?_hexDigit_sixteen _ hdigit]
    simp only [hdigit, if_true, hvalue]

/-- Any digits in small letters are those of a number. -/
theorem exists_lowDigits (h : cs.all isLowerHex = true) :
    ∃ value < 16 ^ cs.length, lowDigits cs.length value [] = cs := by
  induction cs using List.reverseRecOn with
  | nil => exact ⟨0, by simp, rfl⟩
  | append_singleton cs c ih =>
    simp only [List.all_append, List.all_cons, List.all_nil, Bool.and_true, Bool.and_eq_true] at h
    obtain ⟨value, hvalue, hdigits⟩ := ih h.1
    obtain ⟨k, hk, rfl⟩ := hexDigit_of_isLowerHex h.2
    refine ⟨value * 16 + k, ?_, ?_⟩
    · rw [List.length_append, List.length_singleton, pow_succ]
      omega
    · have hquotient : (value * 16 + k) / 16 = value := by omega
      have hrest : (value * 16 + k) % 16 = k := by omega
      rw [List.length_append, List.length_singleton, lowDigits, hquotient, hrest]
      exact (lowDigits_append _ _ [] _).trans (by rw [hdigits])

theorem digits_ofNumber (value : UInt64) :
    (ofNumber value).digits = lowDigits 16 value.toNat [] := rfl

theorem valueFrom_ofNumber (value : UInt64) :
    Numeral.valueFrom 16 0 (ofNumber value).digits = some value.toNat := by
  have hlt : value.toNat < 16 ^ 16 := Nat.lt_of_lt_of_eq value.toNat_lt (by decide)
  rw [digits_ofNumber, valueFrom_lowDigits, Nat.mod_eq_of_lt hlt, Nat.zero_mul, Nat.zero_add]
  rfl

theorem ofNumber_bijective : Function.Bijective ofNumber := by
  constructor
  · intro v w h
    have hv := valueFrom_ofNumber v
    rw [h, valueFrom_ofNumber] at hv
    exact UInt64.toNat_inj.1 (Option.some.inj hv).symm
  · intro d
    obtain ⟨value, hvalue, hdigits⟩ := exists_lowDigits d.wellFormed.2
    rw [d.wellFormed.1] at hvalue hdigits
    have hlt : value < UInt64.size := Nat.lt_of_lt_of_eq hvalue (by decide)
    refine ⟨UInt64.ofNat value, ext ?_⟩
    rw [digits_ofNumber, UInt64.toNat_ofNat_of_lt' hlt]
    exact hdigits

end Numbers

section Conversion

/-- Text that the conversions between the forms of a device leave as it is. -/
structure Plain (cs : List Char) : Prop where
  small : ∀ c ∈ cs, ¬('A' ≤ c ∧ c ≤ 'Z')
  colon : ':' ∉ cs
  dash : '-' ∉ cs
  slash : '/' ∉ cs

theorem Plain.deviceUri_delimitedId (h : Plain cs) (heven : 2 ∣ cs.length) :
    deviceUri (delimitedId (uriScheme ++ cs)) = uriScheme ++ cs := by
  have hsep : ∀ c ∈ cs, isOctetSeparator c = false := by
    intro c hc
    have hcolon : c ≠ ':' := fun he => h.colon (he ▸ hc)
    have hdash : c ≠ '-' := fun he => h.dash (he ▸ hc)
    simp [isOctetSeparator, hcolon, hdash]
  have hlower : cs.map Text.lowerAscii = cs := by
    refine List.map_congr_left (fun c hc => ?_) |>.trans (List.map_id cs)
    exact if_neg (h.small c hc)
  rw [delimitedId_scheme h.slash, deviceUri, compactId_join_pairs heven hsep hlower]

end Conversion

/-- Reading accepts exactly the texts of sixteen hexadecimal digits, and gives each written form of
an id back as that id. The ids stand for the 64-bit numbers, and the conversions between the forms
undo each other on any text that they do not change a character of. -/
theorem forms_inverse :
    (∀ s, ((∃ d, ofText? s = .ok d) ↔
        (significant s).length = 16 ∧ ∀ c ∈ significant s, Text.isHexDigit c = true) ∧
      ∀ d, ofText? s = .ok d → d.digits = (significant s).map Text.lowerAscii) ∧
    (∀ d : Dpid, ofText? d.text = .ok d ∧ ofText? d.uri = .ok d ∧ ofText? d.delimited = .ok d ∧
      d.SpelledBy (Text.splitOn ':' d.delimited.toList)) ∧
    (∀ value, Numeral.valueFrom 16 0 (ofNumber value).digits = some value.toNat) ∧
    Function.Bijective ofNumber ∧ Function.Injective uri ∧ Function.Injective delimited ∧
    ∀ cs more, 2 ∣ cs.length → Plain cs →
      delimitedId (uriScheme ++ cs) = delimitedId (uriScheme ++ cs ++ '/' :: more) ∧
      deviceUri (delimitedId (uriScheme ++ cs)) = uriScheme ++ cs := by
  refine ⟨fun s => ⟨exists_ofText?_iff, fun d h => ?_⟩,
    fun d => ⟨ofText?_text d, ofText?_uri d, ofText?_delimited d, spelledBy_delimited d⟩,
    valueFrom_ofNumber, ofNumber_bijective, fun _ _ h => uri_injective h,
    fun _ _ h => delimited_injective h,
    fun cs more heven hplain => ⟨?_, hplain.deviceUri_delimitedId heven⟩⟩
  · rw [← ofText?_eq_ok_iff.1 h, compactId_significant]
  · exact (delimitedId_slash _ more).symm

/-- An id in dashes and capitals behind a scheme, and a device that has no such id. -/
theorem forms_inverse_sample :
    (∃ d, ofText? "of:00-00-FF-FF-FF-FF-FF-01" = .ok d ∧ d.digits = "0000ffffffffff01".toList) ∧
    2 ∣ "0é".toList.length ∧ Plain "0é".toList ∧
    delimitedId ("of:0é/10".toList) = "0é".toList ∧ deviceUri "0é".toList = "of:0é".toList := by
  obtain ⟨hreads, -, -, -, -, -, hconverts⟩ := forms_inverse
  have heven : 2 ∣ "0é".toList.length := by decide
  have hplain : Plain "0é".toList := ⟨by simp, by decide, by decide, by decide⟩
  obtain ⟨hslash, hback⟩ := hconverts "0é".toList "10".toList heven hplain
  obtain ⟨d, hd⟩ := (hreads "of:00-00-FF-FF-FF-FF-FF-01").1.2
    ⟨by decide, List.all_eq_true.1 (by decide)⟩
  exact ⟨⟨d, hd, (hreads _).2 d hd⟩, heven, hplain, hslash.symm, hback⟩

end Dpid

end OpticalTestbed
