import OpticalTestbed.Proofs.SysConfig.Markers
import OpticalTestbed.Proofs.SysConfig.SwitchIds
import Mathlib.Order.Bounds.Basic
import Mathlib.Data.List.Nodup
/-!
What the numbers of switches mean for any text: the lines with delimited octets are counted from
one, and an id has the place of the last line that begins with it, other octets left out.
-/
namespace OpticalTestbed.SwitchIds

open SysConfig (Octets FirstOctets delimitedOctets?_eq_some_iff delimitedOctets?_eq_none_iff)

section Places

variable {keys later : List String} {key : String} {j n : Nat}

/-- The places of a key in a list, from one. -/
def places (keys : List String) (key : String) : Set Nat := {j | 0 < j ∧ keys[j - 1]? = some key}

theorem key_of_mem_places {key' : String} (h : j ∈ places keys key) (h' : j ∈ places keys key') :
    key = key' := Option.some.inj (h.2.symm.trans h'.2)

theorem isGreatest_places (earlier : List String) (h : key ∉ later) :
    IsGreatest (places (earlier ++ key :: later) key) (earlier.length + 1) := by
  refine ⟨⟨Nat.succ_pos _, by simp⟩, ?_⟩
  rintro j ⟨hpos, hj⟩
  by_contra hlt
  rw [List.getElem?_append_right (by omega)] at hj
  obtain ⟨k, hk⟩ : ∃ k, j - 1 - earlier.length = k + 1 := ⟨j - 2 - earlier.length, by omega⟩
  rw [hk, List.getElem?_cons_succ] at hj
  exact h (List.mem_of_getElem? hj)

theorem places_of_nodup (h : keys.Nodup) (hj : j ∈ places keys key) :
    IsGreatest (places keys key) j := by
  refine ⟨hj, fun i hi => ?_⟩
  obtain ⟨hpos, hkey⟩ := hj
  obtain ⟨hpos', hkey'⟩ := hi
  have hlt := (List.getElem?_eq_some_iff.1 hkey).1
  have hsame := (List.getElem?_inj hlt h).1 (hkey.trans hkey'.symm)
  omega

theorem exists_last (h : key ∈ keys) :
    ∃ earlier later, keys = earlier ++ key :: later ∧ key ∉ later := by
  obtain ⟨as, bs, hkeys, hnot⟩ := List.eq_append_cons_of_mem (List.mem_reverse.2 h)
  refine ⟨bs.reverse, as.reverse, ?_, by simpa using hnot⟩
  rw [← List.reverse_reverse keys, hkeys]
  simp

/-- A key is numbered by its last place. -/
theorem get?_number_iff :
    (number Dict.empty 1 keys).get? key = some j ↔ IsGreatest (places keys key) j := by
  by_cases hkey : key ∈ keys
  · obtain ⟨earlier, later, rfl, hlater⟩ := exists_last hkey
    have hgreatest := isGreatest_places earlier hlater
    rw [get?_number earlier hlater, Option.some.injEq, Nat.add_comm]
    constructor
    · rintro rfl
      exact hgreatest
    · exact fun hj => hgreatest.unique hj
  · rw [get?_number_of_not_mem hkey, Dict.get?_empty]
    refine iff_of_false (by simp) fun hj => hkey (List.mem_of_getElem? hj.1.2)

theorem number_eq_insertAll (table : Dict String Nat) :
    number table n keys = table.insertAll (keys.zipIdx n) := by
  induction keys generalizing table n with
  | nil => rfl
  | cons key keys ih =>
    rw [number, ih, List.zipIdx_cons]
    rfl

theorem mem_keys_number : key ∈ (number Dict.empty 1 keys).keys ↔ key ∈ keys := by
  rw [number_eq_insertAll, Dict.mem_keys_insertAll, List.zipIdx_map_fst]
  simp [Dict.keys, Dict.empty]

theorem get?_number_eq_none_iff :
    (number Dict.empty 1 keys).get? key = none ↔ key ∉ keys := by
  rw [Dict.get?_eq_none_iff, mem_keys_number]

/-- No number stands for two keys. -/
theorem nodup_values_number : (number Dict.empty 1 keys).values.Nodup := by
  refine (Dict.nodup_entries _).map_on fun e he e' he' hvalue => Prod.ext ?_ hvalue
  have hlast := get?_number_iff.1 (Dict.get?_eq_some_iff.2 he)
  have hlast' := get?_number_iff.1 (Dict.get?_eq_some_iff.2 he')
  exact key_of_mem_places hlast.1 (hvalue ▸ hlast'.1)

theorem mem_values_number (h : n ∈ (number Dict.empty 1 keys).values) :
    1 ≤ n ∧ n ≤ keys.length := by
  rw [number_eq_insertAll] at h
  have hrow := Dict.mem_values_ofList h
  rw [List.zipIdx_map_snd, List.mem_range'_1] at hrow
  omega

/-- Different keys are numbered without a gap. -/
theorem values_number_perm (h : keys.Nodup) :
    (number Dict.empty 1 keys).values.Perm (List.range' 1 keys.length) := by
  have hentries := Dict.entries_ofList_perm (l := keys.zipIdx 1) (by rwa [List.zipIdx_map_fst])
  rw [number_eq_insertAll, ← List.zipIdx_map_snd]
  exact hentries.map _

end Places

section Listing

variable {α β : Type} {P : List Char → α → Prop} {Q : List Char → β → Prop}
variable {lines : List (List Char)} {line : List Char} {as : List α}

/-- What the lines with delimited octets give in order; the other lines give nothing. -/
inductive Listing (P : List Char → α → Prop) : List (List Char) → List α → Prop
  | nil : Listing P [] []
  | plain {line : List Char} {lines : List (List Char)} {as : List α} :
      (∀ xs, xs <:+: line → ¬Octets 7 xs) → Listing P lines as → Listing P (line :: lines) as
  | marked {line : List Char} {lines : List (List Char)} {a : α} {as : List α} :
      P line a → Listing P lines as → Listing P (line :: lines) (a :: as)

/-- The compact form of the leftmost octets of a line. -/
def KeyOf (line : List Char) (key : String) : Prop :=
  ∃ xs, FirstOctets line xs ∧ key = String.ofList (compactId xs)

/-- A line that has a datapath id in quotes, as the emulator writes it, and no octets before. -/
def Quotes (line : List Char) (d : Dpid) : Prop :=
  ∃ before after, line = before ++ '"' :: (d.delimited.toList ++ '"' :: after) ∧
    ∀ xs, xs <:+: before → ¬Octets 7 xs

theorem Listing.map {f : α → β} (hf : ∀ line a, P line a → Q line (f a))
    (h : Listing P lines as) : Listing Q lines (as.map f) := by
  induction h with
  | nil => exact .nil
  | plain hnone _ ih => exact .plain hnone ih
  | marked ha _ ih => exact .marked (hf _ _ ha) ih

theorem idsOfLines_plain (h : ∀ xs, xs <:+: line → ¬Octets 7 xs) :
    idsOfLines (line :: lines) = idsOfLines lines := by
  simp [idsOfLines, delimitedOctets?_eq_none_iff.2 h]

/-- The ids that are numbered are the ones listed by the lines. -/
theorem listing_keyOf_iff {keys : List String} :
    Listing KeyOf lines keys ↔ keys = idsOfLines lines := by
  constructor
  · intro h
    induction h with
    | nil => rfl
    | plain hnone _ ih => rw [idsOfLines_plain hnone, ih]
    | marked hkey _ ih =>
      obtain ⟨xs, hfirst, rfl⟩ := hkey
      rw [idsOfLines_cons (delimitedOctets?_eq_some_iff.2 hfirst), ih]
  · rintro rfl
    induction lines with
    | nil => exact .nil
    | cons line lines ih =>
      cases hline : SysConfig.delimitedOctets? line with
      | none =>
        have hnone := delimitedOctets?_eq_none_iff.1 hline
        rw [idsOfLines_plain hnone]
        exact .plain hnone ih
      | some xs =>
        rw [idsOfLines_cons hline]
        exact .marked ⟨xs, delimitedOctets?_eq_some_iff.1 hline, rfl⟩ ih

theorem Quotes.keyOf {d : Dpid} (h : Quotes line d) : KeyOf line d.text := by
  obtain ⟨before, after, rfl, hbefore⟩ := h
  refine ⟨d.delimited.toList, delimitedOctets?_eq_some_iff.1 ?_, ?_⟩
  · rw [SysConfig.delimitedOctets?_break (by decide), SysConfig.delimitedOctets?_break (by decide),
      delimitedOctets?_eq_none_iff.2 hbefore, SysConfig.delimitedOctets?_delimited]
    rfl
  · rw [d.compactId_delimited, Dpid.text]

theorem Listing.compact {keys : List String} (h : Listing KeyOf lines keys) :
    ∀ key ∈ keys, IsCompactDpid key.toList := by
  induction h with
  | nil => simp
  | plain _ _ ih => exact ih
  | marked hkey _ ih =>
    obtain ⟨xs, ⟨_, hat, _⟩, rfl⟩ := hkey
    refine List.forall_mem_cons.2 ⟨?_, ih⟩
    rw [String.toList_ofList]
    exact hat.octets.compact

end Listing

/-- A table that numbers the ids of some lines, told by their keys in order. -/
structure Numbers (t : SwitchIds) (keys : List String) : Prop where
  get?_eq_some_iff : ∀ dpid j, t.get? dpid = some j ↔
    IsGreatest (places keys (String.ofList (compactId dpid.toList))) j
  get?_eq_none_iff : ∀ dpid, t.get? dpid = none ↔ String.ofList (compactId dpid.toList) ∉ keys
  compact : ∀ key ∈ t.ids.keys, IsCompactDpid key.toList
  distinct : t.ids.values.Nodup
  within : ∀ n ∈ t.ids.values, 1 ≤ n ∧ n ≤ keys.length
  gapless : keys.Nodup → t.ids.values.Perm (List.range' 1 keys.length)

theorem numbers_ofText (text : String) :
    (ofText text).Numbers (idsOfLines (Text.lines text.toList)) where
  get?_eq_some_iff _ _ := get?_number_iff
  get?_eq_none_iff _ := get?_number_eq_none_iff
  compact _ hkey := (listing_keyOf_iff.2 rfl).compact _ (mem_keys_number.1 hkey)
  distinct := nodup_values_number
  within _ hn := mem_values_number hn
  gapless := values_number_perm

/-- The numbers of a text. Each id has the place of its last line; different ids that stand quoted
on lines of their own have the places of these. -/
theorem ofText_counts_lines (text : String) :
    (∃ keys, (∀ ids, Listing KeyOf (Text.lines text.toList) ids ↔ ids = keys) ∧
      (ofText text).Numbers keys) ∧
    ∀ dpids : List Dpid, dpids.Nodup → Listing Quotes (Text.lines text.toList) dpids →
      ∀ i d, dpids[i]? = some d → ∀ written : String, compactId written.toList = d.digits →
        (ofText text).get? written = some (i + 1) := by
  refine ⟨⟨_, fun ids => listing_keyOf_iff, numbers_ofText text⟩, ?_⟩
  intro dpids hnodup hquotes i d hd written hwritten
  have hlisted : Listing KeyOf (Text.lines text.toList) (dpids.map Dpid.text) :=
    hquotes.map fun _ _ h => h.keyOf
  have hkeys := listing_keyOf_iff.1 hlisted
  have hdistinct : (dpids.map Dpid.text).Nodup := hnodup.map Dpid.text_injective
  have hplace : i + 1 ∈ places (dpids.map Dpid.text) d.text :=
    ⟨Nat.succ_pos i, by rw [Nat.add_sub_cancel, List.getElem?_map, hd, Option.map_some]⟩
  have hgreatest := places_of_nodup hdistinct hplace
  rw [hkeys] at hgreatest
  refine ((numbers_ofText text).get?_eq_some_iff written (i + 1)).2 ?_
  rw [hwritten]
  exact hgreatest

namespace Sample

/-- Two ids in quotes, with another line between them. -/
def quoted : List Dpid := [Dpid.ofNumber 1, Dpid.ofNumber 2]

def quotedText : String := String.ofList (Text.join ['\n']
  ["\x7bdatapath_id,\"00:00:00:00:00:00:00:01\"\x7d,".toList, "\x7bports,[]\x7d,".toList,
    "\x7bdatapath_id,\"00:00:00:00:00:00:00:02\"\x7d,".toList])

theorem quotes_row {line : List Char} {d : Dpid}
    (h : line = "\x7bdatapath_id,".toList ++
      '"' :: (d.delimited.toList ++ '"' :: "\x7d,".toList)) : Quotes line d :=
  ⟨_, _, h, delimitedOctets?_eq_none_iff.1 (by decide)⟩

theorem listing_quotedText : Listing Quotes (Text.lines quotedText.toList) quoted := by
  have hlines : Text.lines quotedText.toList =
      ["\x7bdatapath_id,\"00:00:00:00:00:00:00:01\"\x7d,".toList, "\x7bports,[]\x7d,".toList,
        "\x7bdatapath_id,\"00:00:00:00:00:00:00:02\"\x7d,".toList] := by decide +kernel
  rw [hlines]
  refine .marked (quotes_row (by decide +kernel)) (.plain ?_ ?_)
  · exact delimitedOctets?_eq_none_iff.1 (by decide)
  · exact .marked (quotes_row (by decide +kernel)) .nil

end Sample

theorem ofText_counts_lines_sample :
    Sample.quoted.Nodup ∧ Listing Quotes (Text.lines Sample.quotedText.toList) Sample.quoted ∧
      (ofText Sample.quotedText).get? "00-00-00-00-00-00-00-02" = some 2 := by
  have hnodup : Sample.quoted.Nodup := by decide
  refine ⟨hnodup, Sample.listing_quotedText, ?_⟩
  exact (ofText_counts_lines Sample.quotedText).2 Sample.quoted hnodup Sample.listing_quotedText
    1 (Dpid.ofNumber 2) rfl "00-00-00-00-00-00-00-02" (by decide +kernel)

end OpticalTestbed.SwitchIds
