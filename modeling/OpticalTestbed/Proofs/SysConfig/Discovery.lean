import OpticalTestbed.Proofs.SysConfig.Layout
import OpticalTestbed.Proofs.SysConfig.Search
import OpticalTestbed.Proofs.SysConfig.SwitchIds
/-!
What is read from a text that is laid out well: the switches have the numbers of their blocks, and
the tap behind a port is the one declared for the index that the block of the switch gives the port.
-/
namespace OpticalTestbed.SysConfig

variable {k : Nat} {taps : List TapEntry} {switches : List SwitchEntry} {lines : List (List Char)}
  {entries : List PortEntry}

section Numbering

theorem Blocks.idsOfLines (hk : k + switches.length ≤ max32 + 1)
    (hsmall : ∀ s ∈ switches, ∀ e ∈ s.ports, e.port ≤ max32 ∧ e.index ≤ max32)
    (h : Blocks k switches lines) :
    SwitchIds.idsOfLines lines = switches.map (·.dpid.text) := by
  induction h with
  | nil => rfl
  | @switch k s switches header between naming body lines hh hb hn hbody _ ih =>
    rw [List.length_cons] at hk
    obtain ⟨hports, hmore⟩ := List.forall_mem_cons.1 hsmall
    have hfront : ∀ line ∈ header :: between, delimitedOctets? line = none :=
      List.forall_mem_cons.2 ⟨(switch_nameless (by omega) hh).octets, fun line hline =>
        (hb line hline).no_octets⟩
    have hback : ∀ line ∈ body, delimitedOctets? line = none :=
      hbody.forall (fun _ hq => hq.no_octets) fun e he _ hl => (port_nameless (hports e he) hl).octets
    rw [← List.cons_append, SwitchIds.idsOfLines_append, SwitchIds.idsOfLines_eq_nil hfront,
      SwitchIds.idsOfLines_cons (datapath_octets hn), SwitchIds.idsOfLines_append,
      SwitchIds.idsOfLines_eq_nil hback, ih (by omega) hmore, s.dpid.compactId_delimited]
    rfl

end Numbering

section Taps

theorem find?_tap (h : (taps.map (·.index)).Nodup) {t : TapEntry} (ht : t ∈ taps) :
    taps.find? (·.index = t.index) = some t := by
  cases hf : taps.find? (·.index = t.index) with
  | none => simpa using List.find?_eq_none.1 hf t ht
  | some u =>
    have hindex : u.index = t.index := by simpa using List.find?_some hf
    rw [List.inj_on_of_nodup_map h (List.mem_of_find?_eq_some hf) ht hindex]

theorem indexOf?_decimal {n : Nat} (h : n ≤ max32) : indexOf? (Numeral.decimal n) = some n :=
  Numeral.bounded?_decimal h

theorem tapOfIndex?_append (n : Nat) (xs ys : List (List Char)) :
    tapOfIndex? n (xs ++ ys) = (tapOfIndex? n xs).or (tapOfIndex? n ys) := by
  rw [tapOfIndex?, List.filter_append, List.findSome?_append]
  rfl

theorem Blocks.tapOfIndex?_eq_none (hk : k + switches.length ≤ max32 + 1)
    (h : Blocks k switches lines) (n : Nat) :
    tapOfIndex? n (lines.filter (Text.contains tapWord)) = none := by
  have hnone : (lines.filter (Text.contains tapWord)).filter
      (fun line => (numbersAfter portWord line).any (indexOf? · = some n)) = [] := by
    rw [List.filter_eq_nil_iff]
    intro line hline
    obtain ⟨hmem, htap⟩ := List.mem_filter.1 hline
    simp [h.no_tap_index hk line hmem htap]
  rw [tapOfIndex?, hnone, List.findSome?_nil]

theorem Lists.tapOfIndex?_eq (hsmall : ∀ e ∈ taps, e.index ≤ max32 ∧ e.tap ≤ max32)
    (h : Lists TapEntry.term taps lines) (n : Nat) :
    tapOfIndex? n (lines.filter (Text.contains tapWord)) =
      (taps.find? (·.index = n)).map (fun e => tapWord ++ Numeral.decimal e.tap) := by
  induction h with
  | nil => rfl
  | filler hq _ ih =>
    rw [List.filter_cons_of_neg (by simp [hq.not_contains (by decide : tapWord ∈ keywords)])]
    exact ih hsmall
  | @entry line e taps lines hl _ ih =>
    obtain ⟨he, hmore⟩ := List.forall_mem_cons.1 hsmall
    rw [List.filter_cons_of_pos (tap_mentions_tap hl), ← List.singleton_append,
      tapOfIndex?_append, ih hmore, List.find?_cons]
    have hone : tapOfIndex? n [line] =
        if e.index = n then some (tapWord ++ Numeral.decimal e.tap) else none := by
      rw [tapOfIndex?, List.filter_singleton, tap_indices hl]
      by_cases hn : e.index = n
      · subst hn
        simp [indexOf?_decimal he.1, tap_name hl]
      · simp [indexOf?_decimal he.1, hn]
    rw [hone]
    by_cases hn : e.index = n <;> simp [hn]

end Taps

section Ports

variable {s : SwitchEntry} {body : List (List Char)}

theorem Lists.no_marker (h : Lists PortEntry.term entries lines) {p : Nat}
    (hp : p ∉ entries.map (·.port)) : ∀ line ∈ lines,
      Text.contains (portMarker p) line = false ∧ Text.contains switchWord line = false := by
  refine h.forall (fun line hq => ⟨?_, hq.not_contains (by decide)⟩) fun e he line hl =>
    ⟨?_, (port_silent hl).2⟩
  · exact Text.contains_eq_false_iff.2 (not_portMarker (hq.words "port".toList (by decide)))
  · rw [Bool.eq_false_iff, ne_eq, port_contains_marker hl]
    rintro rfl
    exact hp (List.mem_map_of_mem he)

/-- A search that has come to the block of a switch finds the line of a port that it declares. -/
theorem Lists.foldl_inside_found (h : Lists PortEntry.term s.ports body) {e : PortEntry}
    (he : e ∈ s.ports) (hone : (s.ports.map (·.port)).Nodup) (id : List Char)
    (rest : List (List Char)) : ∃ line, Shows e.term line ∧
      (body ++ rest).foldl (Stage.next id (portMarker e.port)) .inside = .found line := by
  obtain ⟨earlier, later, hports⟩ := List.append_of_mem he
  rw [hports] at h hone
  obtain ⟨before, line, after, rfl, hbefore, hl, -⟩ := h.split
  have hnew : e.port ∉ earlier.map (·.port) := by
    rw [List.map_append, List.nodup_append] at hone
    intro hmem
    exact hone.2.2 _ hmem _ List.mem_cons_self rfl
  refine ⟨line, hl, ?_⟩
  rw [List.append_assoc, List.foldl_append, foldl_inside _ _ (hbefore.no_marker hnew),
    List.cons_append, List.foldl_cons]
  simp only [Stage.next, (port_contains_marker hl e.port).2 rfl, if_true]
  exact foldl_found _ _

/-- A search for another port ends inside the block or at the next one. -/
theorem Lists.foldl_inside_missing (h : Lists PortEntry.term s.ports body) {p : Nat}
    (hp : p ∉ s.ports.map (·.port)) (hrest : Blocks k switches lines) (id : List Char) :
    (body ++ lines).foldl (Stage.next id (portMarker p)) .inside = .inside ∨
      (body ++ lines).foldl (Stage.next id (portMarker p)) .inside = .after := by
  rw [List.foldl_append, foldl_inside _ _ (h.no_marker hp)]
  cases hrest with
  | nil => exact .inl rfl
  | switch hh =>
    obtain ⟨-, hswitch, hmarker⟩ := switch_contains hh p
    refine .inr ?_
    rw [List.foldl_cons]
    simp only [Stage.next, hmarker, hswitch, Bool.false_eq_true, if_false, if_true]
    exact foldl_after _ _

end Ports

section Whole

variable {text dpid : String} {s : SwitchEntry} {earlier later : List SwitchEntry}

/-- The text around the line of an id: no line in front names the switch, and the ports follow. -/
theorem LaidOut.cut (h : LaidOut text taps (earlier ++ s :: later)) : ∃ front naming body rest,
    Text.lines text.toList = front ++ naming :: (body ++ rest) ∧
      (∀ line ∈ front, namesDevice s.dpid.digits line = false) ∧
      Shows (datapathTerm s.dpid) naming ∧ Lists PortEntry.term s.ports body ∧
      Blocks (1 + earlier.length + 1) later rest := by
  obtain ⟨front, back, hlines, htaps, hblocks⟩ := h.lines
  obtain ⟨blocks, header, between, naming, body, rest, rfl, hearlier, hheader, hbetween, hnaming,
    hbody, hlater⟩ := hblocks.split
  have hcount := h.switches_small
  rw [List.length_append, List.length_cons] at hcount
  have hnew : s.dpid ∉ earlier.map (·.dpid) := by
    have hnodup := h.dpids_nodup
    rw [List.map_append, List.nodup_append] at hnodup
    intro hmem
    exact hnodup.2.2 _ hmem _ List.mem_cons_self rfl
  have hfront : ∀ line ∈ front, namesDevice s.dpid.digits line = false :=
    htaps.forall (fun _ hq => hq.nameless.not_namesDevice _) fun e he _ hl =>
      (tap_nameless (h.taps_small e he) hl).not_namesDevice _
  have hpassed : ∀ line ∈ blocks, namesDevice s.dpid.digits line = false :=
    hearlier.names_own (by omega) (fun t ht => h.ports_small t (List.mem_append_left _ ht)) hnew
  have hhead := (switch_nameless (by omega) hheader).not_namesDevice s.dpid
  refine ⟨front ++ (blocks ++ header :: between), naming, body, rest, ?_, ?_, hnaming, hbody,
    hlater⟩
  · rw [hlines]
    simp
  · simp only [List.forall_mem_append, List.forall_mem_cons]
    exact ⟨hfront, hpassed, hhead, fun line hline =>
      (hbetween line hline).nameless.not_namesDevice _⟩

/-- The search for a switch comes to the line of its id, and to no other one before. -/
theorem LaidOut.foldl_block (h : LaidOut text taps (earlier ++ s :: later)) (marker : List Char) :
    ∃ body rest, Lists PortEntry.term s.ports body ∧ Blocks (1 + earlier.length + 1) later rest ∧
      (Text.lines text.toList).foldl (Stage.next s.dpid.digits marker) .before =
        (body ++ rest).foldl (Stage.next s.dpid.digits marker) .inside := by
  obtain ⟨front, naming, body, rest, hlines, hfront, hnaming, hbody, hlater⟩ := h.cut
  refine ⟨body, rest, hbody, hlater, ?_⟩
  rw [hlines, List.foldl_append, foldl_before _ _ hfront, List.foldl_cons]
  simp only [Stage.next, (datapath_namesDevice_iff hnaming).2 rfl, if_true]

theorem LaidOut.tapOfIndex?_eq (h : LaidOut text taps switches) (n : Nat) :
    tapOfIndex? n ((Text.lines text.toList).filter (Text.contains tapWord)) =
      (taps.find? (·.index = n)).map (fun e => tapWord ++ Numeral.decimal e.tap) := by
  obtain ⟨front, back, hlines, htaps, hblocks⟩ := h.lines
  have hcount := h.switches_small
  rw [hlines, List.filter_append, tapOfIndex?_append, htaps.tapOfIndex?_eq h.taps_small,
    hblocks.tapOfIndex?_eq_none (by omega), Option.or_none]

theorem LaidOut.tapOf_port (h : LaidOut text taps switches) (hs : s ∈ switches)
    (hid : compactId dpid.toList = s.dpid.digits) {e : PortEntry} (he : e ∈ s.ports) :
    tapOf text dpid e.port = match taps.find? (·.index = e.index) with
      | some t => .ok ("tap" ++ decimalText t.tap)
      | none => .error (.noTap e.index) := by
  obtain ⟨earlier, later, rfl⟩ := List.append_of_mem hs
  obtain ⟨body, rest, hbody, -, hblock⟩ := h.foldl_block (portMarker e.port)
  obtain ⟨line, hl, hfound⟩ :=
    hbody.foldl_inside_found he (h.ports_nodup s hs) s.dpid.digits rest
  rw [tapOf_eq, hid, hblock, hfound]
  simp only [Stage.report, port_index hl, Option.bind_some,
    indexOf?_decimal (h.ports_small s hs e he).2, h.tapOfIndex?_eq]
  cases taps.find? (·.index = e.index) with
  | none => rfl
  | some t =>
    simp only [Option.map_some, String.ofList_append]
    rfl

theorem LaidOut.tapOf_missing (h : LaidOut text taps switches) (hs : s ∈ switches)
    (hid : compactId dpid.toList = s.dpid.digits) {p : Nat} (hp : p ∉ s.ports.map (·.port)) :
    tapOf text dpid p = .error .noPortLine := by
  obtain ⟨earlier, later, rfl⟩ := List.append_of_mem hs
  obtain ⟨body, rest, hbody, hlater, hblock⟩ := h.foldl_block (portMarker p)
  rw [tapOf_eq, hid, hblock]
  rcases hbody.foldl_inside_missing hp hlater s.dpid.digits with hend | hend <;> rw [hend] <;> rfl

theorem LaidOut.idsOfLines (h : LaidOut text taps switches) :
    SwitchIds.idsOfLines (Text.lines text.toList) = switches.map (·.dpid.text) := by
  obtain ⟨front, back, hlines, htaps, hblocks⟩ := h.lines
  have hcount := h.switches_small
  have hfront : ∀ line ∈ front, delimitedOctets? line = none :=
    htaps.forall (fun _ hq => hq.no_octets) fun e he _ hl =>
      (tap_nameless (h.taps_small e he) hl).octets
  rw [hlines, SwitchIds.idsOfLines_append, SwitchIds.idsOfLines_eq_nil hfront,
    hblocks.idsOfLines (by omega) h.ports_small, List.nil_append]

theorem LaidOut.get?_switch (h : LaidOut text taps (earlier ++ s :: later))
    (hid : compactId dpid.toList = s.dpid.digits) :
    (SwitchIds.ofText text).get? dpid = some (earlier.length + 1) := by
  have hlast : s.dpid.text ∉ later.map (·.dpid.text) := by
    intro hmem
    obtain ⟨t, ht, htext⟩ := List.mem_map.1 hmem
    have hsame : t.dpid = s.dpid := Dpid.ext (String.ofList_injective htext)
    have hnodup := h.dpids_nodup
    rw [List.map_append, List.map_cons, List.nodup_append, List.nodup_cons] at hnodup
    exact hnodup.2.1.1 (hsame ▸ List.mem_map_of_mem ht)
  have hnumber := @SwitchIds.get?_number Dict.empty 1 s.dpid.text
    (earlier.map (·.dpid.text)) (later.map (·.dpid.text)) hlast
  have hids := h.idsOfLines
  rw [List.map_append, List.map_cons] at hids
  rw [← hids, List.length_map, Nat.add_comm] at hnumber
  rw [SwitchIds.get?, hid]
  exact hnumber

/-- An id that no block has is not found. -/
theorem LaidOut.reads_other (h : LaidOut text taps switches) {d : Dpid}
    (hid : compactId dpid.toList = d.digits) (hd : d ∉ switches.map (·.dpid)) :
    (SwitchIds.ofText text).get? dpid = none ∧ ∀ p, tapOf text dpid p = .error .noDeviceBlock := by
  have hcount := h.switches_small
  constructor
  · have hmissing : d.text ∉ switches.map (·.dpid.text) := by
      intro hmem
      obtain ⟨t, ht, htext⟩ := List.mem_map.1 hmem
      exact hd (List.mem_map.2 ⟨t, ht, Dpid.ext (String.ofList_injective htext)⟩)
    have hnumber := @SwitchIds.get?_number_of_not_mem Dict.empty 1 _ d.text hmissing
    rw [← h.idsOfLines, Dict.get?_empty] at hnumber
    rw [SwitchIds.get?, hid]
    exact hnumber
  · intro p
    obtain ⟨front, back, hlines, htaps, hblocks⟩ := h.lines
    have hnames : ∀ line ∈ front ++ back, namesDevice d.digits line = false := by
      rw [List.forall_mem_append]
      exact ⟨htaps.forall (fun _ hq => hq.nameless.not_namesDevice d) fun e he _ hl =>
        (tap_nameless (h.taps_small e he) hl).not_namesDevice d,
        hblocks.names_own (by omega) h.ports_small hd⟩
    rw [tapOf_eq, hid, hlines, foldl_before _ _ hnames]
    rfl

/-- In a well laid out text the switches are numbered from one in their order, whatever form an id
is given in, and a port has the tap declared for the index of the port, if there is one. -/
theorem LaidOut.reads (h : LaidOut text taps switches) {k : Nat} (hk : switches[k]? = some s)
    (hid : compactId dpid.toList = s.dpid.digits) :
    (SwitchIds.ofText text).get? dpid = some (k + 1) ∧
    (∀ e ∈ s.ports, ∀ t ∈ taps, t.index = e.index →
      tapOf text dpid e.port = .ok ("tap" ++ decimalText t.tap)) ∧
    (∀ e ∈ s.ports, e.index ∉ taps.map (·.index) →
      tapOf text dpid e.port = .error (.noTap e.index)) ∧
    ∀ p ∉ s.ports.map (·.port), tapOf text dpid p = .error .noPortLine := by
  have hs : s ∈ switches := List.mem_of_getElem? hk
  refine ⟨?_, fun e he t ht hindex => ?_, fun e he hnone => ?_, fun p hp =>
    h.tapOf_missing hs hid hp⟩
  · obtain ⟨hlt, rfl⟩ := List.getElem?_eq_some_iff.1 hk
    have hcut : switches = switches.take k ++ switches[k] :: switches.drop (k + 1) := by simp
    rw [hcut] at h
    have hget := h.get?_switch hid
    rwa [List.length_take_of_le (Nat.le_of_lt hlt)] at hget
  · rw [h.tapOf_port hs hid he, ← hindex, find?_tap h.taps_nodup ht]
  · have hfind : taps.find? (·.index = e.index) = none := by
      rw [List.find?_eq_none]
      intro t ht hindex
      exact hnone (List.mem_map.2 ⟨t, ht, of_decide_eq_true hindex⟩)
    rw [h.tapOf_port hs hid he, hfind]

theorem LaidOut.reads_sample :
    LaidOut Sample.text Sample.tapTable [Sample.first, Sample.second] ∧
    [Sample.first, Sample.second][0]? = some Sample.first ∧
    compactId "00:00:FF:FF:FF:FF:FF:01".toList = Sample.first.dpid.digits ∧
    (SwitchIds.ofText Sample.text).get? "00:00:FF:FF:FF:FF:FF:01" = some 1 ∧
    tapOf Sample.text "00:00:FF:FF:FF:FF:FF:01" 1 = .ok ("tap" ++ decimalText 5) ∧
    tapOf Sample.text "00:00:FF:FF:FF:FF:FF:01" 17 = .error (.noTap 2) ∧
    tapOf Sample.text "00:00:FF:FF:FF:FF:FF:01" 2 = .error .noPortLine := by
  have hid : compactId "00:00:FF:FF:FF:FF:FF:01".toList = Sample.first.dpid.digits := by
    decide +kernel
  have hswitch : [Sample.first, Sample.second][0]? = some Sample.first := rfl
  obtain ⟨hnumber, hport, hnone, hmissing⟩ := LaidOut.reads Sample.laidOut hswitch hid
  exact ⟨Sample.laidOut, hswitch, hid, hnumber,
    hport ⟨1, 17⟩ (by simp [Sample.first]) ⟨17, 5⟩ (by simp [Sample.tapTable]) rfl,
    hnone ⟨17, 2⟩ (by simp [Sample.first]) (by decide), hmissing 2 (by decide)⟩

end Whole

end OpticalTestbed.SysConfig
