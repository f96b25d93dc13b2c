import OpticalTestbed.Proofs.SysConfig.Markers
/-!
The terms of a `sys.config` that matter to its readers, and what the readers find in a line that
holds one of them between texts that mean nothing to them.
-/
namespace OpticalTestbed.SysConfig

open Text (isDecimalDigit isAsciiDigit infix_break_iff not_infix_of_not_mem)

section Quiet

variable {cs xs ys : List Char} {c : Char}

/-- The words that the readers look for begin with these. -/
def keywords : List (List Char) := [switchWord, tapWord, "port".toList]

/-- Text without any of the words, and without a datapath id in either form. -/
structure Quiet (cs : List Char) : Prop where
  words : ∀ word ∈ keywords, ¬word <:+: cs
  octets : ∀ xs, xs <:+: cs → ¬Octets 7 xs
  ids : ∀ w, ¬IdAt w cs

/-- Brackets, commas, dots and spaces. -/
def isPunctuation (c : Char) : Bool :=
  c ∈ ['(', ')', '[', ']', '\x7b', '\x7d', ',', '.', ' ']

theorem isPunctuation_facts (h : isPunctuation c = true) :
    isForeign c = true ∧ c ≠ 't' := by
  have hall : ['(', ')', '[', ']', '\x7b', '\x7d', ',', '.', ' '].all
      (fun c => isForeign c && c ≠ 't') = true := by decide
  simpa using List.all_eq_true.1 hall c (by simpa [isPunctuation] using h)

theorem quiet_of_punctuation (h : cs.all isPunctuation = true) : Quiet cs := by
  have hc : ∀ c ∈ cs, isForeign c = true ∧ c ≠ 't' := fun c hc =>
    isPunctuation_facts (List.all_eq_true.1 h c hc)
  constructor
  · intro word hword
    have ht : 't' ∈ word := (by decide : ∀ word ∈ keywords, 't' ∈ word) word hword
    exact not_infix_of_not_mem ht fun hmem => (hc 't' hmem).2 rfl
  · refine delimitedOctets?_eq_none_iff.1 (delimitedOctets?_eq_none ?_)
    refine List.all_eq_true.2 fun c hmem => ?_
    have hforeign := (hc c hmem).1
    simp only [isForeign, Bool.and_eq_true] at hforeign
    exact hforeign.2
  · rintro w ⟨hfound, hlen, hhex⟩
    obtain ⟨c, w, rfl⟩ := List.exists_cons_of_length_pos (by omega : 0 < w.length)
    have hmem : c ∈ cs := List.mem_of_mem_filter (hfound.subset List.mem_cons_self)
    have hforeign := (isForeign_iff.1 (hc c hmem).1).1
    simp [hforeign] at hhex

theorem Quiet.no_octets (h : Quiet cs) : delimitedOctets? cs = none :=
  delimitedOctets?_eq_none_iff.2 h.octets

theorem Quiet.not_tapWord (h : Quiet cs) : ¬tapWord <:+: cs := h.words tapWord (by decide)

theorem Quiet.not_portWord (h : Quiet cs) : ¬portWord <:+: cs := fun hin =>
  h.words "port".toList (by decide) (List.IsInfix.trans ⟨[], [','], rfl⟩ hin)

/-- The word in front of the number of a port. -/
def portNoWord : List Char := ['p', 'o', 'r', 't', '_', 'n', 'o', ',']

theorem portMarker_eq (p : Nat) : portMarker p = portNoWord ++ Numeral.decimal p ++ ['\x7d'] := rfl

theorem not_portMarker {p : Nat} (h : ¬"port".toList <:+: cs) : ¬portMarker p <:+: cs := fun hin =>
  h (List.IsInfix.trans ⟨[], ['_', 'n', 'o', ','] ++ Numeral.decimal p ++ ['\x7d'], by
    simp [portMarker_eq, portNoWord]⟩ hin)

/-- A line that holds a term, and beside it only quiet text. -/
def Shows (term line : List Char) : Prop :=
  ∃ before after, Quiet before ∧ Quiet after ∧ line = before ++ term ++ after

end Quiet

section Shows

variable {inside line word w : List Char} {close : Char}

theorem Shows.cut (h : Shows ('\x7b' :: inside ++ [close]) line) :
    ∃ before after, Quiet before ∧ Quiet after ∧
      line = before ++ '\x7b' :: (inside ++ close :: after) := by
  obtain ⟨before, after, hb, ha, rfl⟩ := h
  exact ⟨before, after, hb, ha, by simp⟩

theorem Shows.infix_iff (h : Shows ('\x7b' :: inside ++ [close]) line) (hw : word ∈ keywords)
    (hc : close ∉ word) : word <:+: line ↔ word <:+: inside := by
  obtain ⟨before, after, hb, ha, rfl⟩ := h.cut
  have hopen : '\x7b' ∉ word := (by decide : ∀ word ∈ keywords, '\x7b' ∉ word) word hw
  rw [infix_break_iff hopen, infix_break_iff hc]
  simp [hb.words word hw, ha.words word hw]

theorem Shows.octets (h : Shows ('\x7b' :: inside ++ [close]) line) (hc : isForeign close = true) :
    delimitedOctets? line = delimitedOctets? inside := by
  obtain ⟨before, after, hb, ha, rfl⟩ := h.cut
  rw [delimitedOctets?_break (by decide), delimitedOctets?_break hc, hb.no_octets, ha.no_octets]
  simp

theorem Shows.idAt_iff (h : Shows ('\x7b' :: inside ++ [close]) line)
    (hc : isForeign close = true) : IdAt w line ↔ IdAt w inside := by
  obtain ⟨before, after, hb, ha, rfl⟩ := h.cut
  rw [idAt_break (by decide), idAt_break hc]
  simp [hb.ids w, ha.ids w]

theorem Shows.numbersAfter_eq (h : Shows ('\x7b' :: inside ++ ['\x7d']) line) (hne : word ≠ [])
    (hopen : '\x7b' ∉ word) (hclose : '\x7d' ∉ word) (hquiet : ∀ {cs}, Quiet cs → ¬word <:+: cs) :
    numbersAfter word line = numbersAfter word inside := by
  obtain ⟨before, after, hb, ha, rfl⟩ := h.cut
  rw [numbersAfter_break hne hopen (by decide), numbersAfter_break hne hclose (by decide),
    numbersAfter_eq_nil (hquiet hb), numbersAfter_eq_nil (hquiet ha)]
  simp

end Shows

section Numbers

theorem length_decimal_le {n : Nat} (h : n ≤ max32) : (Numeral.decimal n).length ≤ 10 :=
  Numeral.length_decimal 9 n (by unfold max32 at h; omega)

theorem all_decimal (n : Nat) :
    (Numeral.decimal n).all (fun c => !isOctetSeparator c) = true := by
  rw [List.all_eq_true]
  intro c hc
  have hdigit := Numeral.isAsciiDigit_of_mem_decimal n c hc
  by_contra hsep
  simp only [Bool.not_eq_true', Bool.not_eq_false, isOctetSeparator, Bool.or_eq_true,
    decide_eq_true_eq] at hsep
  rcases hsep with rfl | rfl <;> exact absurd hdigit (by decide)

end Numbers

section Tap

variable {index tap : Nat} {line w : List Char}

/-- What stands in the braces of a tap declaration. -/
def tapInside (index tap : Nat) : List Char :=
  portWord ++ (Numeral.decimal index ++ ',' :: '[' :: '\x7b' :: ("interface".toList ++
    ',' :: '"' :: (tapWord ++ (Numeral.decimal tap ++ ['"', '\x7d', ']']))))

/-- The declaration of the tap of an internal port index. -/
def tapTerm (index tap : Nat) : List Char := '\x7b' :: tapInside index tap ++ ['\x7d']

theorem octets_tapInside : delimitedOctets? (tapInside index tap) = none := by
  refine delimitedOctets?_eq_none ?_
  simp only [tapInside, List.all_append, List.all_cons, Bool.and_eq_true]
  exact ⟨by decide, all_decimal index, by decide, by decide, by decide, by decide,
    by decide, by decide, by decide, all_decimal tap, by decide⟩

theorem not_idAt_tapInside (hi : index ≤ max32) (ht : tap ≤ max32) :
    ¬IdAt w (tapInside index tap) := by
  have hsplit : tapInside index tap = (portWord ++ Numeral.decimal index) ++ ',' ::
      (('[' :: '\x7b' :: "interface".toList) ++ ',' :: (('"' :: tapWord ++ Numeral.decimal tap) ++
        '"' :: ['\x7d', ']'])) := by
    simp [tapInside]
  have hni := length_decimal_le hi
  have hnt := length_decimal_le ht
  rw [hsplit, idAt_break (by decide), idAt_break (by decide), idAt_break (by decide)]
  simp only [not_or]
  refine ⟨not_idAt_of_length ?_, not_idAt_of_length ?_, not_idAt_of_length ?_,
    not_idAt_of_length ?_⟩
  · simp [portWord]
    omega
  · decide
  · simp [tapWord]
    omega
  · decide

theorem tapWord_infix_tapInside : tapWord <:+: tapInside index tap :=
  ⟨portWord ++ (Numeral.decimal index ++ ',' :: '[' :: '\x7b' :: ("interface".toList ++
    [',', '"'])), Numeral.decimal tap ++ ['"', '\x7d', ']'], by simp [tapInside]⟩

theorem numbersAfter_portWord_tapInside :
    numbersAfter portWord (tapInside index tap) = [Numeral.decimal index] := by
  rw [tapInside, portWord, numbersAfter_word index (by decide) (by decide) (by decide),
    numbersAfter_eq_nil (not_infix_of_not_mem (by decide : 'o' ∈ _) ?_)]
  have hni := Numeral.not_mem_decimal (by decide : isAsciiDigit 'o' = false) tap
  simp [tapWord, hni]

theorem numbersAfter_tapWord_tapInside :
    (numbersAfter tapWord (tapInside index tap)).head? = some (Numeral.decimal tap) := by
  have hsplit : tapInside index tap = ((portWord ++ Numeral.decimal index) ++ ',' ::
      ('[' :: '\x7b' :: "interface".toList ++ [','])) ++
        '"' :: (tapWord ++ (Numeral.decimal tap ++ '"' :: ['\x7d', ']'])) := by
    simp [tapInside]
  have hfront : ¬tapWord <:+: (portWord ++ Numeral.decimal index) ++ ',' ::
      ('[' :: '\x7b' :: "interface".toList ++ [',']) := by
    rw [infix_break_iff (by decide), not_or]
    refine ⟨not_infix_of_not_mem (by decide : 'a' ∈ _) ?_,
      not_infix_of_not_mem (by decide : 'p' ∈ _) (by decide)⟩
    have hni := Numeral.not_mem_decimal (by decide : isAsciiDigit 'a' = false) index
    simp [portWord, hni]
  rw [hsplit, numbersAfter_break (by decide) (by decide) (by decide), numbersAfter_eq_nil hfront,
    tapWord, numbersAfter_word tap (by decide) (by decide) (by decide)]
  rfl

end Tap

section Switch

variable {k : Nat} {w : List Char}

/-- The beginning of the block of a switch, behind its brace. -/
def switchInside (k : Nat) : List Char := switchWord ++ ',' :: Numeral.decimal k

/-- The beginning of the block of a switch. -/
def switchTerm (k : Nat) : List Char := '\x7b' :: switchInside k ++ [',']

theorem octets_switchInside : delimitedOctets? (switchInside k) = none := by
  refine delimitedOctets?_eq_none ?_
  simp only [switchInside, List.all_append, List.all_cons, Bool.and_eq_true]
  exact ⟨by decide, by decide, all_decimal k⟩

theorem not_idAt_switchInside (hk : k ≤ max32) : ¬IdAt w (switchInside k) := by
  have hnk := length_decimal_le hk
  rw [switchInside, idAt_break (by decide), not_or]
  exact ⟨not_idAt_of_length (by decide), not_idAt_of_length (by omega)⟩

theorem tapWord_not_infix_switchInside : ¬tapWord <:+: switchInside k := by
  refine not_infix_of_not_mem (by decide : 'a' ∈ _) ?_
  have hnk := Numeral.not_mem_decimal (by decide : isAsciiDigit 'a' = false) k
  simp [switchInside, switchWord, hnk]

end Switch

section Datapath

variable {d : Dpid} {w : List Char}

/-- The word in front of the id of a switch. -/
def datapathWord : List Char := ['d', 'a', 't', 'a', 'p', 'a', 't', 'h', '_', 'i', 'd', ',']

/-- What stands in the braces of a datapath id. -/
def datapathInside (d : Dpid) : List Char := datapathWord ++ '"' :: (d.delimited.toList ++ ['"'])

/-- The datapath id of a switch, in its delimited form. -/
def datapathTerm (d : Dpid) : List Char := '\x7b' :: datapathInside d ++ ['\x7d']

theorem octets_datapathInside :
    delimitedOctets? (datapathInside d) = some d.delimited.toList := by
  have hfront : delimitedOctets? datapathWord = none :=
    delimitedOctets?_eq_none (by decide)
  have hid : delimitedOctets? (d.delimited.toList ++ ['"']) = some d.delimited.toList := by
    rw [delimitedOctets?_break (by decide), delimitedOctets?_delimited]
    rfl
  rw [datapathInside, delimitedOctets?_break (by decide), hfront, hid]
  rfl

theorem idAt_datapathInside_iff : IdAt w (datapathInside d) ↔ w = d.digits := by
  have hfront : ¬IdAt w datapathWord := not_idAt_of_length (by decide)
  have hback : ¬IdAt w [] := not_idAt_of_length (by decide)
  have hid : IdAt w (d.delimited.toList ++ ['"']) ↔ w = d.digits := by
    rw [idAt_break (by decide), idAt_delimited_iff]
    simp [hback]
  rw [datapathInside, idAt_break (by decide), hid]
  simp [hfront]

theorem numbersAfter_portWord_datapathInside :
    numbersAfter portWord (datapathInside d) = [] := by
  refine numbersAfter_eq_nil (not_infix_of_not_mem (by decide : 'r' ∈ _) ?_)
  have hid : 'r' ∉ d.delimited.toList := by
    intro hmem
    rcases d.mem_delimited hmem with h | h <;> exact absurd h (by decide)
  simp [datapathInside, datapathWord, hid]

end Datapath

section Port

variable {index port p : Nat} {w line after : List Char}

/-- What stands in the braces of the declaration of a port. -/
def portInside (index port : Nat) : List Char :=
  portWord ++ (Numeral.decimal index ++ ',' :: '\x7b' :: ("queues,[]".toList ++
    '\x7d' :: ',' :: '\x7b' :: (portNoWord ++ (Numeral.decimal port ++ ['\x7d']))))

/-- The declaration of a port inside the block of its switch. -/
def portTerm (index port : Nat) : List Char := '\x7b' :: portInside index port ++ ['\x7d']

theorem octets_portInside : delimitedOctets? (portInside index port) = none := by
  refine delimitedOctets?_eq_none ?_
  simp only [portInside, List.all_append, List.all_cons, Bool.and_eq_true]
  exact ⟨by decide, all_decimal index, by decide, by decide, by decide, by decide,
    by decide, by decide, by decide, all_decimal port, by decide⟩

theorem not_idAt_portInside (hi : index ≤ max32) (hp : port ≤ max32) :
    ¬IdAt w (portInside index port) := by
  have hsplit : portInside index port = (portWord ++ Numeral.decimal index) ++ ',' ::
      (('\x7b' :: "queues,[]".toList ++ ['\x7d']) ++ ',' ::
        (('\x7b' :: "port_no".toList) ++ ',' :: (Numeral.decimal port ++ ['\x7d']))) := by
    simp [portInside, portNoWord]
  have hport : ¬IdAt w (('\x7b' :: "port_no".toList) ++ ',' ::
      (Numeral.decimal port ++ ['\x7d'])) := by
    rw [idAt_break (by decide), not_or]
    refine ⟨not_idAt_of_length (by decide), not_idAt_of_length ?_⟩
    have hnp := length_decimal_le hp
    simp
    omega
  have hni := length_decimal_le hi
  rw [hsplit, idAt_break (by decide), idAt_break (by decide)]
  simp only [not_or]
  refine ⟨not_idAt_of_length ?_, not_idAt_of_length (by decide), hport⟩
  simp [portWord]
  omega

theorem not_infix_portInside {word : List Char} (h : 'a' ∈ word ∨ 'w' ∈ word) :
    ¬word <:+: portInside index port := by
  have hdigits (c : Char) (hc : isAsciiDigit c = false) :
      c ∉ Numeral.decimal index ∧ c ∉ Numeral.decimal port :=
    ⟨Numeral.not_mem_decimal hc index, Numeral.not_mem_decimal hc port⟩
  rcases h with h | h <;> refine not_infix_of_not_mem h ?_
  · have hn := hdigits 'a' (by decide)
    simp [portInside, portWord, portNoWord, hn.1, hn.2]
  · have hn := hdigits 'w' (by decide)
    simp [portInside, portWord, portNoWord, hn.1, hn.2]

theorem numbersAfter_portWord_portInside :
    (numbersAfter portWord (portInside index port)).head? = some (Numeral.decimal index) := by
  rw [portInside, portWord, numbersAfter_word index (by decide) (by decide) (by decide)]
  rfl

/-- A number in a marker is not taken for another one that it begins or ends. -/
theorem portMarker_infix_front_iff (ha : Quiet after) :
    portMarker p <:+: portNoWord ++ Numeral.decimal port ++ '\x7d' :: '\x7d' :: after ↔
      p = port := by
  have hclose (n : Nat) : '\x7d' ∉ portNoWord ++ Numeral.decimal n := by
    simp [portNoWord, Numeral.not_mem_decimal (by decide : isAsciiDigit '\x7d' = false) n]
  constructor
  · intro h
    rcases Text.infix_concat_break (hclose p) (hclose port) h with hsuffix | hback
    · have hsame : portNoWord ++ Numeral.decimal p = portNoWord ++ Numeral.decimal port := by
        refine (List.suffix_cons_iff.1 hsuffix).resolve_right fun hinner => ?_
        have hp : 'p' ∈ ['o', 'r', 't', '_', 'n', 'o', ','] ++ Numeral.decimal port :=
          hinner.subset (by simp [portNoWord])
        simp [Numeral.not_mem_decimal (by decide : isAsciiDigit 'p' = false) port] at hp
      exact Numeral.decimal_injective (List.append_cancel_left hsame)
    · exfalso
      rcases List.infix_cons_iff.1 hback with hstart | hafter
      · have hp := (List.cons_prefix_cons.1 hstart).1
        exact absurd hp (by decide)
      · exact not_portMarker (ha.words "port".toList (by decide)) hafter
  · rintro rfl
    exact ⟨[], '\x7d' :: after, by simp [portMarker_eq]⟩

theorem Shows.portMarker_iff (h : Shows (portTerm index port) line) :
    portMarker p <:+: line ↔ p = port := by
  obtain ⟨before, after, hb, ha, rfl⟩ := h.cut
  have hopen : '\x7b' ∉ portMarker p := by
    have hn := Numeral.not_mem_decimal (by decide : isAsciiDigit '\x7b' = false) p
    simp [portMarker_eq, portNoWord, hn]
  have hsplit : portInside index port ++ '\x7d' :: after =
      (portWord ++ Numeral.decimal index ++ [',']) ++ '\x7b' ::
        (("queues,[]".toList ++ ['\x7d', ',']) ++
          '\x7b' :: (portNoWord ++ Numeral.decimal port ++ '\x7d' :: '\x7d' :: after)) := by
    simp [portInside]
  have hindex : ¬portMarker p <:+: portWord ++ Numeral.decimal index ++ [','] := by
    refine not_infix_of_not_mem (by simp [portMarker_eq, portNoWord] : '_' ∈ portMarker p) ?_
    simp [portWord, Numeral.not_mem_decimal (by decide : isAsciiDigit '_' = false) index]
  have hqueues : ¬portMarker p <:+: "queues,[]".toList ++ ['\x7d', ','] :=
    not_infix_of_not_mem (by simp [portMarker_eq, portNoWord] : '_' ∈ portMarker p) (by decide)
  have hbefore := not_portMarker (hb.words "port".toList (by decide)) (p := p)
  rw [hsplit, infix_break_iff hopen, infix_break_iff hopen, infix_break_iff hopen,
    portMarker_infix_front_iff ha]
  simp only [hbefore, hindex, hqueues, false_or]

end Port

end OpticalTestbed.SysConfig
