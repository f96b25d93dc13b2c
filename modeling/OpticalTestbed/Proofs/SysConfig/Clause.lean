import OpticalTestbed.Proofs.SysConfig.Patching
/-!
The list of controllers can be read back. If no address holds a quote, quotes stand around labels
and addresses only, so an entry is found at its own position or nowhere.
-/
namespace OpticalTestbed.SysConfig

variable {a b more : List Controller} {c : Controller} {i k port : Nat} {ip piece rest : List Char}
  {pieces : List (List Char)}

/-- Controllers whose addresses hold no quote. -/
def Unquoted (controllers : List Controller) : Prop := ∀ c ∈ controllers, '"' ∉ c.ip.toList

instance (controllers : List Controller) : Decidable (Unquoted controllers) :=
  inferInstanceAs (Decidable (∀ c ∈ controllers, _))

section Parts

theorem label_injective (h : label i = label k) : i = k := by
  have hdecimal : ∀ n, '-' ∉ Numeral.decimal n := Numeral.not_mem_decimal (by decide)
  have hrest := (List.cons.inj (List.append_cancel_left h)).2
  exact Numeral.decimal_injective (Text.append_cons_inj (hdecimal i) (hdecimal k) hrest).1

theorem socket_injective {port' : Nat} {closing closing' : List Char}
    (h : socket port closing = socket port' closing') : port = port' := by
  have hdecimal : ∀ n, ',' ∉ Numeral.decimal n := Numeral.not_mem_decimal (by decide)
  have hrest := (List.cons.inj h).2
  exact Numeral.decimal_injective (Text.append_cons_inj (hdecimal port) (hdecimal port') hrest).1

/-- Neither a label nor a lone comma is what stands behind an address. -/
theorem label_ne_socket {closing : List Char} : label i ≠ socket port closing := by
  simp [label, socket]

theorem comma_ne_socket {closing : List Char} : [','] ≠ socket port closing := by
  simp [socket]

theorem label_ne_comma : label i ≠ [','] := by
  simp [label]

theorem quote_not_mem_label (i : Nat) : '"' ∉ label i := by
  simp [label, Numeral.not_mem_decimal (c := '"') (by decide)]

theorem quote_not_mem_socket (port : Nat) : '"' ∉ socket port [] := by
  simp [socket, Numeral.not_mem_decimal (c := '"') (by decide)]

end Parts

section Pieces

/-- What stands behind the last entry of a list, and between two of them up to the quote. -/
def closing : List Controller → List Char
  | [] => [']', '\x7d', ',']
  | _ :: _ => [',', '\x7b']

/-- The pieces between the quotes of a list, behind its first quote. -/
def quotePieces (k : Nat) : List Controller → List (List Char)
  | [] => []
  | c :: more =>
    label k :: [','] :: c.ip.toList :: socket c.port (closing more) :: quotePieces (k + 1) more

theorem splitOn_entry (hip : '"' ∉ c.ip.toList) (hrest : Text.splitOn '"' rest = piece :: pieces) :
    Text.splitOn '"' (controllerEntry k c ++ rest) =
      ['\x7b'] :: label k :: [','] :: c.ip.toList :: socket c.port piece :: pieces := by
  have hsocket : ∀ cs, socket c.port cs = socket c.port [] ++ cs := by simp [socket]
  have hopen : '\x7b' :: '"' :: (label k ++ '"' :: ',' :: '"' :: (c.ip.toList ++
      '"' :: socket c.port rest)) = ['\x7b'] ++ '"' :: (label k ++ '"' :: ([','] ++
        '"' :: (c.ip.toList ++ '"' :: socket c.port rest))) := rfl
  rw [controllerEntry_eq, hopen, Text.splitOn_append, Text.splitOn_append, Text.splitOn_append,
    Text.splitOn_append, Text.splitOn_eq_self (by decide),
    Text.splitOn_eq_self (quote_not_mem_label k), Text.splitOn_eq_self (by decide),
    Text.splitOn_eq_self hip, hsocket,
    Text.splitOn_prefix (quote_not_mem_socket c.port) hrest, ← hsocket]
  rfl

theorem splitOn_entries (h : Unquoted (c :: more)) :
    Text.splitOn '"' (Text.join [','] (controllerEntries k (c :: more)) ++ closing []) =
      ['\x7b'] :: quotePieces k (c :: more) := by
  induction more generalizing k c with
  | nil => exact splitOn_entry (h c List.mem_cons_self) (Text.splitOn_eq_self (by decide))
  | cons c' more ih =>
    have hnext := @ih c' (k + 1) (List.forall_mem_cons.1 h).2
    have hsplit : Text.join [','] (controllerEntries k (c :: c' :: more)) ++ closing [] =
        controllerEntry k c ++ ([','] ++ (Text.join [','] (controllerEntries (k + 1) (c' :: more)) ++
          closing [])) := by simp [controllerEntries, Text.join]
    rw [hsplit, splitOn_entry (h c List.mem_cons_self) (Text.splitOn_prefix (by decide) hnext)]
    rfl

theorem tail_splitOn_clause (h : Unquoted a) :
    (Text.splitOn '"' (controllerClause a)).tail = quotePieces 0 a := by
  cases a with
  | nil => rfl
  | cons c more =>
    have hclause : controllerClause (c :: more) =
        ['['] ++ (Text.join [','] (controllerEntries 0 (c :: more)) ++ closing []) := rfl
    rw [hclause, Text.splitOn_prefix (by decide) (splitOn_entries h)]
    rfl

end Pieces

section Entries

/-- The pieces of an entry are found where that entry stands: a label is neither a comma nor what
stands behind an address, and no lone comma follows an address that reads as a label. -/
theorem getElem?_of_pieces
    (h : label i :: [','] :: ip :: socket port piece :: pieces <:+ quotePieces k a) :
    ∃ j, i = k + j ∧ a[j]? = some ⟨String.ofList ip, port⟩ := by
  induction a generalizing k with
  | nil => simp [quotePieces] at h
  | cons c more ih =>
    simp only [quotePieces, List.suffix_cons_iff] at h
    rcases h with h | h | h | h | h
    · obtain ⟨hlabel, h⟩ := List.cons.inj h
      obtain ⟨-, h⟩ := List.cons.inj h
      obtain ⟨hip, h⟩ := List.cons.inj h
      obtain ⟨hsocket, -⟩ := List.cons.inj h
      rw [hip, socket_injective hsocket, String.ofList_toList]
      exact ⟨0, label_injective hlabel, rfl⟩
    · exact absurd (List.cons.inj h).1 label_ne_comma
    · exact absurd (List.cons.inj (List.cons.inj h).2).1 comma_ne_socket
    · exact absurd (List.cons.inj h).1 label_ne_socket
    · obtain ⟨j, hi, hfound⟩ := ih h
      exact ⟨j + 1, by omega, hfound⟩

theorem entry_mem_entries (h : a[i]? = some c) :
    controllerEntry (k + i) c ∈ controllerEntries k a := by
  induction a generalizing i k with
  | nil => cases h
  | cons c' more ih =>
    cases i with
    | zero =>
      obtain rfl : c' = c := by simpa using h
      exact List.mem_cons_self
    | succ i =>
      have hmem := @ih i (k + 1) (by simpa using h)
      rw [Nat.add_right_comm] at hmem
      exact List.mem_cons_of_mem _ hmem

/-- An entry stands in the list if and only if it is that of the controller at its position. -/
theorem entry_infix_iff (h : Unquoted a) (hip : '"' ∉ c.ip.toList) :
    controllerEntry i c <:+: controllerClause a ↔ a[i]? = some c := by
  constructor
  · rintro ⟨before, after, hclause⟩
    obtain ⟨piece, pieces, hafter⟩ := List.exists_cons_of_ne_nil (Text.splitOn_ne_nil '"' after)
    have hsuffix := Text.tail_splitOn_suffix '"' before (controllerEntry i c ++ after)
    rw [← List.append_assoc, hclause, tail_splitOn_clause h, splitOn_entry hip hafter] at hsuffix
    obtain ⟨j, rfl, hfound⟩ := getElem?_of_pieces hsuffix
    rw [String.ofList_toList] at hfound
    rwa [Nat.zero_add]
  · intro hfound
    have hmem := @entry_mem_entries a c i 0 hfound
    rw [Nat.zero_add] at hmem
    have hjoin : Text.join [','] (controllerEntries 0 a) <:+: controllerClause a :=
      ⟨['['], [']', '\x7d', ','], rfl⟩
    exact (Text.infix_join hmem).trans hjoin

end Entries

/-- The list of controllers has one entry for each of them, labelled with its position, and no other
text in it reads as an entry. So different controllers have different lists. -/
theorem controllerClause_unambiguous (h : Unquoted a) :
    (∀ i c, '"' ∉ c.ip.toList →
      (controllerEntry i c <:+: controllerClause a ↔ a[i]? = some c)) ∧
    ∀ b, Unquoted b → controllerClause a = controllerClause b → a = b := by
  refine ⟨fun i c hip => entry_infix_iff h hip, fun b hb hsame => List.ext_getElem? fun i => ?_⟩
  -- an address in either list holds no quote, so its entry is in both
  refine Option.ext fun c => ⟨fun hc => ?_, fun hc => ?_⟩
  · have hip := h c (List.mem_of_getElem? hc)
    exact (entry_infix_iff hb hip).1 (hsame ▸ (entry_infix_iff h hip).2 hc)
  · have hip := hb c (List.mem_of_getElem? hc)
    exact (entry_infix_iff h hip).1 (hsame ▸ (entry_infix_iff hb hip).2 hc)

namespace Sample

/-- Controllers with a label and with separators for addresses. -/
def misleading : List Controller := [⟨"Switch1-Controller", 1⟩, ⟨"1,1,tcp\x7d,\x7b", 2⟩]

/-- The same with a digit moved from an address to a port. -/
def shifted : List Controller := [⟨"Switch1-Controller", 11⟩, ⟨",1,tcp\x7d,\x7b", 2⟩]

end Sample

theorem controllerClause_unambiguous_sample :
    Unquoted Sample.misleading ∧ Unquoted Sample.shifted ∧
    controllerEntry 1 ⟨"1,1,tcp\x7d,\x7b", 2⟩ <:+: controllerClause Sample.misleading ∧
    controllerClause Sample.misleading ≠ controllerClause Sample.shifted := by
  have hmisleading : Unquoted Sample.misleading := by decide
  have hshifted : Unquoted Sample.shifted := by decide
  obtain ⟨hentries, hlists⟩ := controllerClause_unambiguous hmisleading
  refine ⟨hmisleading, hshifted, (hentries 1 _ (by decide)).2 rfl, fun hsame => ?_⟩
  exact absurd (hlists _ hshifted hsame) (by decide)

end OpticalTestbed.SysConfig
