import OpticalTestbed.Proofs.SysConfig.Terms
/-!
Texts of `sys.config` that are laid out one declaration a line: first the taps, then the switches,
each with its id and its ports.
-/
namespace OpticalTestbed.SysConfig

/-- The tap of an internal port index. -/
structure TapEntry where
  index : Nat
  tap : Nat

/-- A port of a switch and the internal index of it. -/
structure PortEntry where
  port : Nat
  index : Nat

structure SwitchEntry where
  dpid : Dpid
  ports : List PortEntry

def TapEntry.term (e : TapEntry) : List Char := tapTerm e.index e.tap

def PortEntry.term (e : PortEntry) : List Char := portTerm e.index e.port

variable {α : Type} {term : α → List Char} {entries : List α} {lines : List (List Char)}

/-- Lines with one entry each, in order, and any number of quiet ones among them. -/
inductive Lists (term : α → List Char) : List α → List (List Char) → Prop
  | nil : Lists term [] []
  | filler {line entries lines} : Quiet line → Lists term entries lines →
      Lists term entries (line :: lines)
  | entry {line e entries lines} : Shows (term e) line → Lists term entries lines →
      Lists term (e :: entries) (line :: lines)

/-- The blocks of switches that are numbered from `k` on. -/
inductive Blocks : Nat → List SwitchEntry → List (List Char) → Prop
  | nil {k} : Blocks k [] []
  | switch {k s switches header between naming body lines} :
      Shows (switchTerm k) header → (∀ line ∈ between, Quiet line) →
      Shows (datapathTerm s.dpid) naming → Lists PortEntry.term s.ports body →
      Blocks (k + 1) switches lines →
      Blocks k (s :: switches) (header :: (between ++ naming :: (body ++ lines)))

/-- A text that declares some taps and some switches, all numbers being 32-bit ones. -/
structure LaidOut (text : String) (taps : List TapEntry) (switches : List SwitchEntry) : Prop where
  lines : ∃ front back, Text.lines text.toList = front ++ back ∧
    Lists TapEntry.term taps front ∧ Blocks 1 switches back
  taps_nodup : (taps.map (·.index)).Nodup
  dpids_nodup : (switches.map (·.dpid)).Nodup
  ports_nodup : ∀ s ∈ switches, (s.ports.map (·.port)).Nodup
  taps_small : ∀ e ∈ taps, e.index ≤ max32 ∧ e.tap ≤ max32
  ports_small : ∀ s ∈ switches, ∀ e ∈ s.ports, e.port ≤ max32 ∧ e.index ≤ max32
  switches_small : switches.length ≤ max32

theorem Lists.forall {P : List Char → Prop} (hquiet : ∀ line, Quiet line → P line)
    (hentry : ∀ e ∈ entries, ∀ line, Shows (term e) line → P line)
    (h : Lists term entries lines) : ∀ line ∈ lines, P line := by
  induction h with
  | nil => simp
  | filler hq _ ih => exact List.forall_mem_cons.2 ⟨hquiet _ hq, ih hentry⟩
  | entry hs _ ih =>
    obtain ⟨hhead, htail⟩ := List.forall_mem_cons.1 hentry
    exact List.forall_mem_cons.2 ⟨hhead _ hs, ih htail⟩

theorem Lists.split {earlier later : List α} {e : α}
    (h : Lists term (earlier ++ e :: later) lines) : ∃ before line after,
      lines = before ++ line :: after ∧ Lists term earlier before ∧ Shows (term e) line ∧
        Lists term later after := by
  generalize hall : earlier ++ e :: later = all at h
  induction h generalizing earlier with
  | nil => simp at hall
  | @filler line _ _ hq _ ih =>
    obtain ⟨before, shown, after, rfl, hb, hs, ha⟩ := ih hall
    exact ⟨line :: before, shown, after, rfl, .filler hq hb, hs, ha⟩
  | @entry line _ _ _ hs rest ih =>
    cases earlier with
    | nil =>
      obtain ⟨rfl, rfl⟩ := List.cons.inj hall
      exact ⟨[], line, _, rfl, .nil, hs, rest⟩
    | cons _ earlier =>
      obtain ⟨rfl, hrest⟩ := List.cons.inj hall
      obtain ⟨before, shown, after, rfl, hb, hshown, ha⟩ := ih hrest
      exact ⟨line :: before, shown, after, rfl, .entry hs hb, hshown, ha⟩

/-- A line without a datapath id. -/
structure Nameless (line : List Char) : Prop where
  octets : delimitedOctets? line = none
  ids : ∀ w, ¬IdAt w line

theorem Nameless.not_namesDevice {line : List Char} (h : Nameless line) (d : Dpid) :
    namesDevice d.digits line = false := by
  rw [Bool.eq_false_iff]
  intro hnames
  obtain ⟨w, hat, -⟩ := exists_idAt_of_namesDevice d.wellFormed hnames
  exact h.ids w hat

theorem Quiet.nameless {line : List Char} (h : Quiet line) : Nameless line := ⟨h.no_octets, h.ids⟩

theorem Quiet.not_contains {line word : List Char} (h : Quiet line) (hw : word ∈ keywords) :
    Text.contains word line = false :=
  Text.contains_eq_false_iff.2 (h.words word hw)

section Lines

variable {line : List Char} {s : SwitchEntry} {k : Nat}

theorem tap_nameless {e : TapEntry} (hs : e.index ≤ max32 ∧ e.tap ≤ max32)
    (h : Shows e.term line) : Nameless line where
  octets := (Shows.octets h (by decide)).trans octets_tapInside
  ids w := fun hat => not_idAt_tapInside hs.1 hs.2 ((Shows.idAt_iff h (by decide)).1 hat)

theorem port_nameless {e : PortEntry} (hs : e.port ≤ max32 ∧ e.index ≤ max32)
    (h : Shows e.term line) : Nameless line where
  octets := (Shows.octets h (by decide)).trans octets_portInside
  ids w := fun hat => not_idAt_portInside hs.2 hs.1 ((Shows.idAt_iff h (by decide)).1 hat)

theorem switch_nameless (hk : k ≤ max32) (h : Shows (switchTerm k) line) : Nameless line where
  octets := (Shows.octets h (by decide)).trans octets_switchInside
  ids w := fun hat => not_idAt_switchInside hk ((Shows.idAt_iff h (by decide)).1 hat)

theorem tap_mentions_tap {e : TapEntry} (h : Shows e.term line) :
    Text.contains tapWord line = true :=
  Text.contains_iff.2 ((Shows.infix_iff h (by decide) (by decide)).2 tapWord_infix_tapInside)

theorem tap_indices {e : TapEntry} (h : Shows e.term line) :
    numbersAfter portWord line = [Numeral.decimal e.index] := by
  rw [Shows.numbersAfter_eq h (by decide) (by decide) (by decide) Quiet.not_portWord,
    numbersAfter_portWord_tapInside]

theorem tap_name {e : TapEntry} (h : Shows e.term line) :
    (tapNames line).head? = some (tapWord ++ Numeral.decimal e.tap) := by
  rw [tapNames, Shows.numbersAfter_eq h (by decide) (by decide) (by decide) Quiet.not_tapWord,
    List.head?_map, numbersAfter_tapWord_tapInside]
  rfl

theorem port_silent {e : PortEntry} (h : Shows e.term line) :
    Text.contains tapWord line = false ∧ Text.contains switchWord line = false := by
  rw [Text.contains_eq_false_iff, Text.contains_eq_false_iff,
    Shows.infix_iff h (by decide) (by decide), Shows.infix_iff h (by decide) (by decide)]
  exact ⟨not_infix_portInside (.inl (by decide)), not_infix_portInside (.inr (by decide))⟩

theorem port_index {e : PortEntry} (h : Shows e.term line) :
    (numbersAfter portWord line).head? = some (Numeral.decimal e.index) := by
  rw [Shows.numbersAfter_eq h (by decide) (by decide) (by decide) Quiet.not_portWord,
    numbersAfter_portWord_portInside]

theorem port_contains_marker {e : PortEntry} (h : Shows e.term line) (p : Nat) :
    Text.contains (portMarker p) line = true ↔ p = e.port :=
  Text.contains_iff.trans (Shows.portMarker_iff h)

theorem switch_contains (h : Shows (switchTerm k) line) (p : Nat) :
    Text.contains tapWord line = false ∧ Text.contains switchWord line = true ∧
      Text.contains (portMarker p) line = false := by
  rw [Text.contains_eq_false_iff, Text.contains_eq_false_iff, Text.contains_iff,
    Shows.infix_iff h (by decide) (by decide), Shows.infix_iff h (by decide) (by decide)]
  refine ⟨tapWord_not_infix_switchInside, ⟨[], ',' :: Numeral.decimal k, by simp [switchInside]⟩,
    not_portMarker ?_⟩
  rw [Shows.infix_iff h (by decide) (by decide)]
  have hk := Numeral.not_mem_decimal (by decide : Text.isAsciiDigit 'p' = false) k
  exact Text.not_infix_of_not_mem (by decide : 'p' ∈ _) (by simp [switchInside, switchWord, hk])

theorem datapath_octets {d : Dpid} (h : Shows (datapathTerm d) line) :
    delimitedOctets? line = some d.delimited.toList :=
  (Shows.octets h (by decide)).trans octets_datapathInside

theorem datapath_idAt_iff {d : Dpid} {w : List Char} (h : Shows (datapathTerm d) line) :
    IdAt w line ↔ w = d.digits :=
  (Shows.idAt_iff h (by decide)).trans idAt_datapathInside_iff

theorem datapath_indices {d : Dpid} (h : Shows (datapathTerm d) line) :
    numbersAfter portWord line = [] := by
  rw [Shows.numbersAfter_eq h (by decide) (by decide) (by decide) Quiet.not_portWord,
    numbersAfter_portWord_datapathInside]

/-- The line of an id names that device and no other. -/
theorem datapath_namesDevice_iff {d e : Dpid} (h : Shows (datapathTerm d) line) :
    namesDevice e.digits line = true ↔ e = d := by
  constructor
  · intro hnames
    obtain ⟨w, hat, hw⟩ := exists_idAt_of_namesDevice e.wellFormed hnames
    obtain rfl := (datapath_idAt_iff h).1 hat
    rw [map_lowerAscii_eq_self d.wellFormed.2] at hw
    exact Dpid.ext hw.symm
  · rintro rfl
    exact namesDevice_of_idAt e.wellFormed ((datapath_idAt_iff h).2 rfl)

end Lines

section Blocks

variable {k : Nat} {switches : List SwitchEntry}

/-- What holds of every kind of line holds of every line of the blocks. -/
theorem Blocks.forall {P : List Char → Prop} (hquiet : ∀ line, Quiet line → P line)
    (hheader : ∀ n ≤ max32, ∀ line, Shows (switchTerm n) line → P line)
    (hnaming : ∀ s ∈ switches, ∀ line, Shows (datapathTerm s.dpid) line → P line)
    (hport : ∀ s ∈ switches, ∀ e ∈ s.ports, ∀ line, Shows e.term line → P line)
    (hk : k + switches.length ≤ max32 + 1) (h : Blocks k switches lines) :
    ∀ line ∈ lines, P line := by
  induction h with
  | nil => simp
  | @switch k s switches header between naming body lines hh hb hn hbody _ ih =>
    rw [List.forall_mem_cons] at hnaming hport
    rw [List.length_cons] at hk
    simp only [List.forall_mem_cons, List.forall_mem_append]
    exact ⟨hheader k (by omega) header hh, fun line hline => hquiet line (hb line hline),
      hnaming.1 naming hn, hbody.forall hquiet hport.1, ih hnaming.2 hport.2 (by omega)⟩

theorem Blocks.split {earlier later : List SwitchEntry} {s : SwitchEntry}
    (h : Blocks k (earlier ++ s :: later) lines) : ∃ front header between naming body rest,
      lines = front ++ header :: (between ++ naming :: (body ++ rest)) ∧ Blocks k earlier front ∧
        Shows (switchTerm (k + earlier.length)) header ∧ (∀ line ∈ between, Quiet line) ∧
        Shows (datapathTerm s.dpid) naming ∧ Lists PortEntry.term s.ports body ∧
        Blocks (k + earlier.length + 1) later rest := by
  generalize hall : earlier ++ s :: later = all at h
  induction h generalizing earlier with
  | nil => simp at hall
  | @switch k t switches header between naming body lines hh hb hn hbody hmore ih =>
    cases earlier with
    | nil =>
      obtain ⟨rfl, rfl⟩ := List.cons.inj hall
      exact ⟨[], header, between, naming, body, lines, rfl, .nil, hh, hb, hn, hbody, hmore⟩
    | cons t' earlier =>
      obtain ⟨rfl, hrest⟩ := List.cons.inj hall
      obtain ⟨front, header', between', naming', body', rest, rfl, hfront, hh', hb', hn', hbody',
        hmore'⟩ := ih hrest
      have hlen : k + (t' :: earlier).length = k + 1 + earlier.length := by
        rw [List.length_cons]
        omega
      rw [hlen]
      exact ⟨header :: (between ++ naming :: (body ++ front)), header', between', naming', body',
        rest, by simp, .switch hh hb hn hbody hfront, hh', hb', hn', hbody', hmore'⟩

theorem Blocks.names_own (hk : k + switches.length ≤ max32 + 1)
    (hsmall : ∀ s ∈ switches, ∀ e ∈ s.ports, e.port ≤ max32 ∧ e.index ≤ max32)
    (h : Blocks k switches lines) {d : Dpid} (hd : d ∉ switches.map (·.dpid)) :
    ∀ line ∈ lines, namesDevice d.digits line = false := by
  refine h.forall (fun _ hq => hq.nameless.not_namesDevice d)
    (fun _ hn _ hs => (switch_nameless hn hs).not_namesDevice d) (fun s hs line hl => ?_)
    (fun s hs e he _ hl => (port_nameless (hsmall s hs e he) hl).not_namesDevice d) hk
  rw [Bool.eq_false_iff, ne_eq, datapath_namesDevice_iff hl]
  rintro rfl
  exact hd (List.mem_map_of_mem hs)

/-- No line of a block speaks of a tap and of an index. -/
theorem Blocks.no_tap_index (hk : k + switches.length ≤ max32 + 1) (h : Blocks k switches lines) :
    ∀ line ∈ lines, Text.contains tapWord line = true → numbersAfter portWord line = [] := by
  refine h.forall (fun _ hq htap => ?_) (fun _ _ _ hs htap => ?_)
    (fun _ _ _ hl _ => datapath_indices hl) (fun _ _ _ _ _ hl htap => ?_) hk
  · simp [hq.not_contains (by decide : tapWord ∈ keywords)] at htap
  · simp [(switch_contains hs 0).1] at htap
  · simp [(port_silent hl).1] at htap

end Blocks

namespace Sample

def tapTable : List TapEntry := [⟨1, 0⟩, ⟨17, 5⟩]

def first : SwitchEntry := ⟨Dpid.ofNumber 0xffffffffff01, [⟨1, 17⟩, ⟨17, 2⟩]⟩

def second : SwitchEntry := ⟨Dpid.ofNumber 0xffffffffff02, [⟨1, 1⟩]⟩

def front : List (List Char) :=
  ["[[".toList ++ tapTerm 1 0 ++ [','], [' '] ++ tapTerm 17 5 ++ "]],".toList]

def firstPorts : List (List Char) :=
  [['['] ++ portTerm 17 1 ++ [','], [' '] ++ portTerm 2 17 ++ "]\x7d,".toList]

def secondPorts : List (List Char) :=
  ["# no queues".toList, ['['] ++ portTerm 1 1 ++ "]\x7d].".toList]

def back : List (List Char) :=
  (['['] ++ switchTerm 1 ++ []) :: ([] ++ ([] ++ datapathTerm first.dpid ++ [',']) :: (firstPorts ++
    (([] ++ switchTerm 2 ++ []) :: ([] ++ ([] ++ datapathTerm second.dpid ++ [',']) ::
      (secondPorts ++ [])))))

/-- Two switches, both with a port that has the number one. -/
def text : String := String.ofList (Text.join ['\n'] (front ++ back))

theorem shows_of_punctuation {term : List Char} (before after : List Char)
    (hb : before.all isPunctuation = true) (ha : after.all isPunctuation = true) :
    Shows term (before ++ term ++ after) :=
  ⟨before, after, quiet_of_punctuation hb, quiet_of_punctuation ha, rfl⟩

theorem quiet_remark : Quiet "# no queues".toList where
  words := by decide
  octets := delimitedOctets?_eq_none_iff.1 (by decide)
  ids _ := not_idAt_of_length (by decide)

theorem laidOut : LaidOut text tapTable [first, second] where
  lines := by
    refine ⟨front, back, ?_, ?_, ?_⟩
    · rw [text, String.toList_ofList]
      decide +kernel
    · exact .entry (shows_of_punctuation _ _ (by decide) (by decide)) <|
        .entry (shows_of_punctuation _ _ (by decide) (by decide)) .nil
    · refine .switch (shows_of_punctuation _ _ (by decide) (by decide)) (by simp)
        (shows_of_punctuation _ _ (by decide) (by decide)) ?_ <|
        .switch (shows_of_punctuation _ _ (by decide) (by decide)) (by simp)
        (shows_of_punctuation _ _ (by decide) (by decide)) ?_ .nil
      · exact .entry (shows_of_punctuation _ _ (by decide) (by decide)) <|
          .entry (shows_of_punctuation _ _ (by decide) (by decide)) .nil
      · exact .filler quiet_remark <|
          .entry (shows_of_punctuation _ _ (by decide) (by decide)) .nil
  taps_nodup := by decide
  dpids_nodup := by decide
  ports_nodup := by decide
  taps_small := by decide
  ports_small := by decide
  switches_small := by decide

end Sample

end OpticalTestbed.SysConfig
