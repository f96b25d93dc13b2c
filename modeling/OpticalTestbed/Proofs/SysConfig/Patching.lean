import OpticalTestbed.Configuration
import OpticalTestbed.Proofs.SysConfig.Alike
import OpticalTestbed.SysConfig.Controllers
/-!
Listing the controllers in a generated `sys.config` changes nothing for its readers, provided that
they take nothing from the addresses. Addresses are free text, so this has to be asked for.
-/
namespace OpticalTestbed.SysConfig

open Text (not_infix_of_not_mem)

variable {controllers : List Controller} {c : Controller} {line cs : List Char} {k : Nat}

section Clause

/-- Text that lacks a letter of each keyword, and has no id. -/
theorem quiet_of_lacking {letter : Char} (hs : 's' ∉ cs) (ha : 'a' ∉ cs)
    (hletter : letter ∈ "port".toList) (hport : letter ∉ cs) (hoctets : delimitedOctets? cs = none)
    (hids : ∀ w, ¬IdAt w cs) : Quiet cs where
  words word hword := by
    simp only [keywords, List.mem_cons, List.not_mem_nil, or_false] at hword
    rcases hword with rfl | rfl | rfl
    · exact not_infix_of_not_mem (by decide) hs
    · exact not_infix_of_not_mem (by decide) ha
    · exact not_infix_of_not_mem hletter hport
  octets := delimitedOctets?_eq_none_iff.1 hoctets
  ids := hids

/-- The label of a controller. -/
def label (k : Nat) : List Char :=
  ['S', 'w', 'i', 't', 'c'] ++ 'h' :: (Numeral.decimal k ++ '-' :: 'C' ::
    'o' :: ['n', 't', 'r', 'o', 'l', 'l', 'e', 'r'])

/-- What stands behind the address of a controller. -/
def socket (port : Nat) (closing : List Char) : List Char :=
  ',' :: (Numeral.decimal port ++ ',' :: (['t', 'c', 'p', '\x7d'] ++ closing))

theorem controllerEntry_eq (k : Nat) (c : Controller) (closing : List Char) :
    controllerEntry k c ++ closing = '\x7b' :: '"' :: (label k ++ '"' :: ',' :: '"' ::
      (c.ip.toList ++ '"' :: socket c.port closing)) := by
  simp [controllerEntry, label, socket]

theorem quiet_label (hk : k < 10 ^ 15) : Quiet (label k) := by
  have hlen : (Numeral.decimal k).length ≤ 15 := Numeral.length_decimal 14 k hk
  have hlack : ∀ c, Text.isAsciiDigit c = false →
      c ∉ ['S', 'w', 'i', 't', 'c', 'h', '-', 'C', 'o', 'n', 'r', 'l', 'e'] → c ∉ label k := by
    intro c hdigit hnot
    have hdecimal := Numeral.not_mem_decimal hdigit k
    simp only [List.mem_cons, not_or] at hnot
    simp [label, hdecimal, hnot]
  refine quiet_of_lacking (hlack 's' (by decide) (by decide)) (hlack 'a' (by decide) (by decide))
    (by decide) (hlack 'p' (by decide) (by decide)) ?_ ?_
  · have hmiddle : (Numeral.decimal k ++ ['-', 'C']).length < 23 := by
      rw [List.length_append, List.length_cons, List.length_singleton]
      omega
    have hsplit : label k = ['S', 'w', 'i', 't', 'c'] ++ 'h' ::
        ((Numeral.decimal k ++ ['-', 'C']) ++ 'o' :: ['n', 't', 'r', 'o', 'l', 'l', 'e', 'r']) := by
      rw [label, List.append_assoc]
      rfl
    rw [hsplit, delimitedOctets?_break (by decide), delimitedOctets?_break (by decide),
      delimitedOctets?_of_length (by decide), delimitedOctets?_of_length hmiddle,
      delimitedOctets?_of_length (by decide)]
    rfl
  · intro w
    rw [label, idAt_break (by decide), idAt_cut (by decide) (by decide), not_or, not_or]
    exact ⟨not_idAt_of_length (by decide), not_idAt_of_length (by omega),
      not_idAt_of_length (by decide)⟩

theorem quiet_socket {port : Nat} {closing : List Char} (hport : port ≤ max16)
    (hclosing : closing.all isPunctuation = true) (hlen : closing.length < 10) :
    Quiet (socket port closing) := by
  have hdigits : (Numeral.decimal port).length ≤ 10 :=
    length_decimal_le (Nat.le_trans hport (by decide))
  have hend : (['t', 'c', 'p', '\x7d'] ++ closing).length < 14 := by
    rw [List.length_append]
    exact Nat.add_lt_add_left hlen 4
  have hlack : ∀ c, Text.isAsciiDigit c = false → isPunctuation c = false →
      c ∉ [',', 't', 'c', 'p', '\x7d'] → c ∉ socket port closing := by
    intro c hdigit hpunctuation hnot
    have hclose : c ∉ closing := by
      intro hin
      rw [List.all_eq_true.1 hclosing c hin] at hpunctuation
      cases hpunctuation
    simp only [List.mem_cons, not_or] at hnot
    simp [socket, Numeral.not_mem_decimal hdigit port, hclose, hnot]
  refine quiet_of_lacking (hlack 's' (by decide) (by decide) (by decide))
    (hlack 'a' (by decide) (by decide) (by decide)) (by decide)
    (hlack 'o' (by decide) (by decide) (by decide)) ?_ ?_
  · rw [socket, ← List.nil_append (',' :: _), delimitedOctets?_break (by decide),
      delimitedOctets?_break (by decide), delimitedOctets?_of_length (by decide),
      delimitedOctets?_of_length (by omega), delimitedOctets?_of_length (by omega)]
    rfl
  · intro w
    rw [socket, ← List.nil_append (',' :: _), idAt_break (by decide), idAt_break (by decide),
      not_or, not_or]
    exact ⟨not_idAt_of_length (by decide), not_idAt_of_length (by omega),
      not_idAt_of_length (by omega)⟩

/-- Controllers whose addresses mean nothing to the readers, with port numbers of 16 bits. -/
def Harmless (controllers : List Controller) : Prop :=
  ∀ c ∈ controllers, Inert c.ip.toList ∧ c.port ≤ max16

theorem inert_entry {closing : List Char} (hk : k < 10 ^ 15) (hip : Inert c.ip.toList)
    (hport : c.port ≤ max16) (hclosing : closing.all isPunctuation = true)
    (hlen : closing.length < 10) : Inert (controllerEntry k c ++ closing) := by
  have hquote : Break '"' := break_of_isBreak (by decide)
  have hopen : Break '\x7b' := break_of_isBreak (by decide)
  have hcomma : Inert [','] := (quiet_of_punctuation rfl).inert
  have hsocket := (quiet_socket hport hclosing hlen).inert
  rw [controllerEntry_eq, ← List.nil_append ('\x7b' :: _), inert_break hopen,
    ← List.nil_append ('"' :: (label k ++ _)), inert_break hquote, inert_break hquote,
    ← List.singleton_append, inert_break hquote, inert_break hquote]
  exact ⟨inert_nil, inert_nil, (quiet_label hk).inert, hcomma, hip, hsocket⟩

theorem inert_entries (few : k + controllers.length ≤ 10 ^ 15) (harmless : Harmless controllers) :
    Inert (Text.join [','] (controllerEntries k controllers) ++ [']', '\x7d', ',']) := by
  have hopen : Break '\x7b' := break_of_isBreak (by decide)
  induction controllers generalizing k with
  | nil => exact (quiet_of_punctuation rfl).inert
  | cons c controllers ih =>
    obtain ⟨⟨hip, hport⟩, hrest⟩ := List.forall_mem_cons.1 harmless
    rw [List.length_cons] at few
    cases controllers with
    | nil => exact inert_entry (by omega) hip hport (by decide) (by decide)
    | cons c' controllers =>
      have hnext := @ih (k + 1) (by omega) hrest
      obtain ⟨inside, hinside⟩ : ∃ inside, Text.join [','] (controllerEntries (k + 1)
          (c' :: controllers)) ++ [']', '\x7d', ','] = '\x7b' :: inside := by
        cases controllers <;> exact ⟨_, rfl⟩
      rw [hinside, ← List.nil_append ('\x7b' :: _), inert_break hopen] at hnext
      have hsplit : Text.join [','] (controllerEntries k (c :: c' :: controllers)) ++
          [']', '\x7d', ','] = (controllerEntry k c ++ [',']) ++ '\x7b' :: inside := by
        rw [← hinside]
        simp [controllerEntries, Text.join]
      rw [hsplit, inert_break hopen]
      exact ⟨inert_entry (by omega) hip hport (by decide) (by decide), hnext.2⟩

/-- The list of controllers is inert behind its bracket. -/
theorem controllerClause_eq (few : controllers.length ≤ 10 ^ 15) (harmless : Harmless controllers) :
    ∃ rest, controllerClause controllers = '[' :: rest ∧ Inert rest :=
  ⟨_, rfl, inert_entries (by omega) harmless⟩

end Clause

section Patch

variable {text : String} {clause rest before after : List Char}

/-- What the generator is taken to write: from the controller list to the end of the line there is
nothing for the readers. -/
def Generated (text : String) : Prop :=
  ∀ line ∈ Text.splitOn '\n' text.toList, ∀ before after,
    Text.cutAt? clauseMarker line = some (before, after) → Quiet (clauseMarker ++ after)

/-- A line without its controller list. -/
def withoutClause (line : List Char) : List Char :=
  match Text.cutAt? clauseMarker line with
  | some (before, _) => before
  | none => line

theorem inert_of_mem_splitOn (h : Inert cs) : ∀ piece ∈ Text.splitOn '\n' cs, Inert piece := by
  have hnewline : Break '\n' := break_of_isBreak (by decide)
  rw [← Text.join_splitOn '\n' cs] at h
  generalize Text.splitOn '\n' cs = pieces at h
  induction pieces with
  | nil => simp
  | cons piece pieces ih =>
    cases pieces with
    | nil => simpa [Text.join] using h
    | cons piece' pieces =>
      rw [Text.join_cons_cons, inert_break hnewline] at h
      exact List.forall_mem_cons.2 ⟨h.1, ih h.2⟩

/-- Whatever the generator wrote on a line from the controller list on may be cut off. -/
theorem alike_withoutClause (h : ∀ before after,
    Text.cutAt? clauseMarker line = some (before, after) → Quiet (clauseMarker ++ after)) :
    Alike line (withoutClause line) := by
  have hbracket : Break '[' := break_of_isBreak (by decide)
  rw [withoutClause]
  split
  · rename_i before after hcut
    have hinert := (h before after hcut).inert
    rw [← List.nil_append (clauseMarker ++ after), clauseMarker, List.cons_append,
      inert_break hbracket] at hinert
    rw [Text.cutAt?_eq_some hcut]
    exact alike_cut hbracket hinert.2
  · exact .refl line

/-- So may whatever stands there after the controllers were listed, newlines in addresses included. -/
theorem reduces_patchLine (hclause : clause = '[' :: rest) (hrest : Inert rest)
    (hline : '\n' ∉ line) :
    Reduces (Text.splitOn '\n' (patchLine clause line)) [withoutClause line] := by
  have hbracket : Break '[' := break_of_isBreak (by decide)
  cases hcut : Text.cutAt? clauseMarker line with
  | none =>
    simp only [patchLine, withoutClause, hcut, Text.splitOn_eq_self hline]
    exact .keep (.refl line) .nil
  | some cut =>
    obtain ⟨before, after⟩ := cut
    simp only [patchLine, withoutClause, hcut]
    obtain ⟨piece, pieces, hpieces⟩ := List.exists_cons_of_ne_nil (Text.splitOn_ne_nil '\n' rest)
    have hinert := inert_of_mem_splitOn hrest
    rw [hpieces, List.forall_mem_cons] at hinert
    have hfront : '\n' ∉ before ++ ['['] := by
      rw [Text.cutAt?_eq_some hcut, List.mem_append, not_or] at hline
      rw [List.mem_append, not_or]
      exact ⟨hline.1, by decide⟩
    rw [hclause, List.append_cons, Text.splitOn_prefix hfront hpieces, List.append_assoc]
    exact .keep (alike_cut hbracket hinert.1) (reduces_of_inert hinert.2)

/-- Listing the controllers is invisible to the readers if the addresses mean nothing to them: switch
numbers, taps and the tap of every port are those of the text as it was generated. -/
theorem patchControllers_invisible (generated : Generated text)
    (few : controllers.length ≤ 10 ^ 15) (harmless : Harmless controllers) :
    SwitchIds.ofText (patchControllers text controllers) = SwitchIds.ofText text ∧
      taps (patchControllers text controllers) = taps text ∧
      ∀ (d : Dpid) (dpid : String), compactId dpid.toList = d.digits → ∀ port,
        tapOf (patchControllers text controllers) dpid port = tapOf text dpid port := by
  obtain ⟨rest, hclause, hrest⟩ := controllerClause_eq few harmless
  have hold : Reduces (Text.splitOn '\n' text.toList)
      ((Text.splitOn '\n' text.toList).map withoutClause) :=
    reduces_map fun line hline => alike_withoutClause (generated line hline)
  have hnew : Reduces (Text.splitOn '\n' (patchControllers text controllers).toList)
      ((Text.splitOn '\n' text.toList).map withoutClause) := by
    have hne : (Text.splitOn '\n' text.toList).map (patchLine (controllerClause controllers)) ≠ [] :=
      fun he => Text.splitOn_ne_nil '\n' text.toList (List.map_eq_nil_iff.1 he)
    rw [patchControllers, String.toList_ofList, Text.splitOn_join hne, List.flatMap_map]
    exact reduces_flatMap fun line hline =>
      reduces_patchLine hclause hrest (Text.not_mem_of_mem_splitOn hline)
  refine ⟨?_, ?_, fun d dpid hid port => ?_⟩
  · rw [hnew.ofText, hold.ofText]
  · rw [hnew.taps_text, hold.taps_text]
  · rw [hnew.tapOf hid, hold.tapOf hid]

end Patch

namespace Sample

/-- The lines of a generated text: the controllers of a switch stand before its ports. -/
def generatedLines : List (List Char) :=
  ["\x7bport,2,[\x7binterface,\"tap1\"\x7d]\x7d".toList, "\x7bswitch,1,".toList,
    "\x7bdatapath_id,\"00:00:ff:ff:ff:ff:ff:01\"\x7d,".toList,
    "\x7bcontrollers,[\x7b\"Switch0-Controller\",\"10.0.0.1\",6633,tcp\x7d]\x7d,".toList,
    "\x7bports,[\x7bport,2,\x7bqueues,[]\x7d,\x7bport_no,10\x7d\x7d]\x7d".toList]

def generatedText : String := String.ofList (Text.join ['\n'] generatedLines)

theorem quiet_clause :
    Quiet (clauseMarker ++ "0-Controller\",\"10.0.0.1\",6633,tcp\x7d]\x7d,".toList) where
  words := by decide
  octets := delimitedOctets?_eq_none_iff.1 (by decide)
  ids w := by
    have hsplit : clauseMarker ++ "0-Controller\",\"10.0.0.1\",6633,tcp\x7d]\x7d,".toList =
        "[\x7b\"S".toList ++ 'w' :: ("itch0-Co".toList ++ 'n' :: ("troller\",".toList ++
          '"' :: ("10.0.0.1\",6633,".toList ++ 't' :: "cp\x7d]\x7d,".toList))) := by decide
    rw [hsplit, idAt_break (by decide), idAt_break (by decide), idAt_break (by decide),
      idAt_break (by decide)]
    simp only [not_or]
    exact ⟨not_idAt_of_length (by decide), not_idAt_of_length (by decide),
      not_idAt_of_length (by decide), not_idAt_of_length (by decide),
      not_idAt_of_length (by decide)⟩

theorem generated : Generated generatedText := by
  have hlines : Text.splitOn '\n' generatedText.toList = generatedLines := by
    rw [generatedText, String.toList_ofList]
    decide +kernel
  have hcuts : ∀ line ∈ generatedLines, Text.cutAt? clauseMarker line = none ∨
      Text.cutAt? clauseMarker line = some ("\x7bcontrollers,".toList,
        "0-Controller\",\"10.0.0.1\",6633,tcp\x7d]\x7d,".toList) := by decide +kernel
  intro line hline before after hcut
  rcases hcuts line (hlines ▸ hline) with h | h
  · cases h.symm.trans hcut
  · cases h.symm.trans hcut
    exact quiet_clause

theorem harmless : Harmless [⟨"10.0.0.2", 6653⟩] := by
  have hquiet : Quiet "10.0.0.2".toList := ⟨by decide,
    delimitedOctets?_eq_none_iff.1 (by decide), fun _ => not_idAt_of_length (by decide)⟩
  exact List.forall_mem_singleton.2 ⟨hquiet.inert, by decide⟩

def roadm : Dpid := .ofNumber 0xffffffffff01

theorem tapOf_generatedText : tapOf generatedText roadm.text 10 = .ok "tap1" := by
  rw [tapOf_eq, generatedText, String.toList_ofList]
  decide +kernel

/-- A valid configuration whose controller has a host name. -/
def hostNamed : Configuration where
  controllers := [⟨"switch1.example", 6633⟩]
  restPort := 8181
  credentials := .standard
  user := "u"
  onosRoot := none
  emulatorRoot := none
  generatorRoot := none
  workDirectory := "/work"
  interfaceWait := ⟨.ofSeconds 1, .ofSeconds 1⟩
  deviceWait := ⟨.ofSeconds 1, .ofSeconds 1⟩

end Sample

theorem patchControllers_invisible_sample :
    Generated Sample.generatedText ∧ Harmless [⟨"10.0.0.2", 6653⟩] ∧
      compactId Sample.roadm.text.toList = Sample.roadm.digits ∧
      tapOf (patchControllers Sample.generatedText [⟨"10.0.0.2", 6653⟩]) Sample.roadm.text 10 =
        .ok "tap1" := by
  have hid : compactId Sample.roadm.text.toList = Sample.roadm.digits := by
    rw [Dpid.text, String.toList_ofList, compactId_eq_self Sample.roadm.wellFormed.2]
  obtain ⟨-, -, hports⟩ := patchControllers_invisible Sample.generated (by decide) Sample.harmless
  refine ⟨Sample.generated, Sample.harmless, hid, ?_⟩
  rw [hports Sample.roadm Sample.roadm.text hid, Sample.tapOf_generatedText]

/-- A valid configuration may name a controller by a host name with the word `switch` in it, which
ends the block of a switch before its ports. -/
theorem patchControllers_not_invisible :
    ¬∀ (c : Configuration) (text : String), c.fault? = none → Generated text →
      SwitchIds.ofText (patchControllers text c.controllers) = SwitchIds.ofText text ∧
      taps (patchControllers text c.controllers) = taps text ∧
      ∀ (d : Dpid) (port : Nat),
        tapOf (patchControllers text c.controllers) d.text port = tapOf text d.text port := by
  intro h
  obtain ⟨-, -, hports⟩ := h Sample.hostNamed Sample.generatedText (by decide) Sample.generated
  have hport := hports Sample.roadm 10
  have hlost : tapOf (patchControllers Sample.generatedText Sample.hostNamed.controllers)
      Sample.roadm.text 10 = .error .noPortLine := by
    rw [tapOf_eq, patchControllers, String.toList_ofList, Sample.generatedText,
      String.toList_ofList]
    decide +kernel
  rw [Sample.tapOf_generatedText, hlost] at hport
  cases hport

end OpticalTestbed.SysConfig
