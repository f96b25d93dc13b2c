import OpticalTestbed.Proofs.Dict
import OpticalTestbed.SysConfig.SwitchIds
/-!
The numbers of the switches: an id has the place of its last mention.
-/
namespace OpticalTestbed.SwitchIds

variable {table : Dict String Nat} {next : Nat} {ids : List String} {id : String}

theorem get?_number_of_not_mem (h : id ∉ ids) :
    (number table next ids).get? id = table.get? id := by
  induction ids generalizing table next with
  | nil => rfl
  | cons first ids ih =>
    rw [List.mem_cons, not_or] at h
    rw [number, ih h.2, Dict.get?_insert_other table next h.1]

theorem get?_number (earlier : List String) {later : List String} (h : id ∉ later) :
    (number table next (earlier ++ id :: later)).get? id = some (next + earlier.length) := by
  induction earlier generalizing table next with
  | nil =>
    rw [List.nil_append, number, get?_number_of_not_mem h, Dict.get?_insert_same]
    rfl
  | cons first earlier ih =>
    rw [List.cons_append, number, ih, List.length_cons]
    congr 1
    omega

theorem idsOfLines_append (xs ys : List (List Char)) :
    idsOfLines (xs ++ ys) = idsOfLines xs ++ idsOfLines ys :=
  List.filterMap_append

theorem idsOfLines_eq_nil {lines : List (List Char)}
    (h : ∀ line ∈ lines, SysConfig.delimitedOctets? line = none) : idsOfLines lines = [] := by
  rw [idsOfLines, List.filterMap_eq_nil_iff]
  intro line hline
  rw [h line hline]
  rfl

theorem idsOfLines_cons {line octets : List Char} {lines : List (List Char)}
    (h : SysConfig.delimitedOctets? line = some octets) :
    idsOfLines (line :: lines) = String.ofList (compactId octets) :: idsOfLines lines := by
  simp [idsOfLines, h]

end OpticalTestbed.SwitchIds
