import OpticalTestbed.Dict
import Mathlib.Data.List.Sort
import Mathlib.Tactic.Tauto
/-!
What look-ups, keys and entries become when a sorted dictionary changes.
-/
namespace OpticalTestbed

namespace Dict

variable {κ α : Type} [KeyOrder κ]

theorem mem_insertSorted_iff {k : κ} {v : α} {l : List (κ × α)}
    (h : l.Pairwise (fun a b => a.1 < b.1)) (e : κ × α) :
    e ∈ insertSorted k v l ↔ e = (k, v) ∨ e.1 ≠ k ∧ e ∈ l := by
  induction l with
  | nil => simp [insertSorted]
  | cons x r ih =>
    obtain ⟨k', v'⟩ := x
    obtain ⟨hx, hr⟩ := List.pairwise_cons.1 h
    -- keys behind a greater one are greater, so none of them is `k`
    have above : ∀ {c : κ}, (∀ y ∈ r, c < y.1) → e ∈ r → e.1 ≠ c := by
      rintro c hc he rfl
      exact KeyOrder.irrefl _ (hc e he)
    simp only [insertSorted]
    split
    · rename_i hk
      have hne : k' ≠ k := by rintro rfl; exact KeyOrder.irrefl _ hk
      have hrk := above (c := k) (fun y hy => KeyOrder.trans hk (hx y hy))
      simp only [List.mem_cons]
      constructor
      · rintro (he | rfl | he)
        · exact .inl he
        · exact .inr ⟨hne, .inl rfl⟩
        · exact .inr ⟨hrk he, .inr he⟩
      · rintro (he | ⟨-, he⟩)
        · exact .inl he
        · exact .inr he
    · rename_i hk
      split
      · rename_i hk'
        have hne : k' ≠ k := by rintro rfl; exact KeyOrder.irrefl _ hk'
        simp only [List.mem_cons, ih hr]
        constructor
        · rintro (rfl | he | ⟨hek, he⟩)
          · exact .inr ⟨hne, .inl rfl⟩
          · exact .inl he
          · exact .inr ⟨hek, .inr he⟩
        · rintro (he | ⟨hek, he | he⟩)
          · exact .inr (.inl he)
          · exact .inl he
          · exact .inr (.inr ⟨hek, he⟩)
      · rename_i hk'
        obtain rfl := KeyOrder.connex hk hk'
        have hrk := above hx
        simp only [List.mem_cons]
        constructor
        · rintro (he | he)
          · exact .inl he
          · exact .inr ⟨hrk he, .inr he⟩
        · rintro (he | ⟨hek, rfl | he⟩)
          · exact .inl he
          · exact absurd rfl hek
          · exact .inr he

@[simp] theorem entries_empty : (empty : Dict κ α).entries = [] := rfl

@[simp] theorem mem_entries_insert (d : Dict κ α) (k : κ) (v : α) (e : κ × α) :
    e ∈ (d.insert k v).entries ↔ e = (k, v) ∨ e.1 ≠ k ∧ e ∈ d.entries :=
  mem_insertSorted_iff d.sorted e

@[simp] theorem mem_entries_erase [DecidableEq κ] (d : Dict κ α) (k : κ) (e : κ × α) :
    e ∈ (d.erase k).entries ↔ e.1 ≠ k ∧ e ∈ d.entries := by
  simp [erase, filter, and_comm]

theorem mem_keys {d : Dict κ α} {k : κ} : k ∈ d.keys ↔ ∃ v, (k, v) ∈ d.entries := by
  simp [keys]

@[simp] theorem keys_empty : (empty : Dict κ α).keys = [] := rfl

@[simp] theorem mem_keys_insert (d : Dict κ α) (k k' : κ) (v : α) :
    k' ∈ (d.insert k v).keys ↔ k' = k ∨ k' ∈ d.keys := by
  simp only [mem_keys, mem_entries_insert, Prod.mk.injEq]
  constructor
  · rintro ⟨x, ⟨rfl, -⟩ | ⟨-, hx⟩⟩
    · exact .inl rfl
    · exact .inr ⟨x, hx⟩
  · rintro (rfl | ⟨x, hx⟩)
    · exact ⟨v, .inl ⟨rfl, rfl⟩⟩
    · by_cases h : k' = k
      · exact ⟨v, .inl ⟨h, rfl⟩⟩
      · exact ⟨x, .inr ⟨h, hx⟩⟩

@[simp] theorem mem_keys_erase [DecidableEq κ] (d : Dict κ α) (k k' : κ) :
    k' ∈ (d.erase k).keys ↔ k' ≠ k ∧ k' ∈ d.keys := by
  simp [mem_keys]

/-- A key has one value. -/
theorem value_unique {d : Dict κ α} {k : κ} {v v' : α} (h : (k, v) ∈ d.entries)
    (h' : (k, v') ∈ d.entries) : v = v' := by
  have hne : ∀ {a b : κ × α}, a.1 < b.1 → a.1 ≠ b.1 :=
    fun hab hk => KeyOrder.irrefl _ (hk ▸ hab)
  have hall := List.Pairwise.forall_of_forall_of_flip (R := fun a b : κ × α => a.1 = b.1 → a = b)
    (fun _ _ _ => rfl) (d.sorted.imp fun hab hk => absurd hk (hne hab))
    (d.sorted.imp fun hab hk => absurd hk.symm (hne hab))
  exact congrArg Prod.snd (hall h h' rfl)

theorem get?_eq_some_iff [DecidableEq κ] {d : Dict κ α} {k : κ} {v : α} :
    d.get? k = some v ↔ (k, v) ∈ d.entries := by
  constructor
  · intro h
    obtain ⟨e, he, rfl⟩ := Option.map_eq_some_iff.1 h
    have hk : e.1 = k := by simpa using List.find?_some he
    subst hk
    exact List.mem_of_find?_eq_some he
  · intro h
    cases hf : d.entries.find? (·.1 = k) with
    | none => simpa using List.find?_eq_none.1 hf _ h
    | some e =>
      have hk : e.1 = k := by simpa using List.find?_some hf
      have he : (k, e.2) ∈ d.entries := hk ▸ List.mem_of_find?_eq_some hf
      simp [get?, hf, value_unique he h]

theorem get?_eq_none_iff [DecidableEq κ] {d : Dict κ α} {k : κ} :
    d.get? k = none ↔ k ∉ d.keys := by
  simp only [Option.eq_none_iff_forall_ne_some, ne_eq, get?_eq_some_iff, mem_keys, not_exists]

theorem get?_of_isEmpty [DecidableEq κ] {d : Dict κ α} (h : d.isEmpty = true) (k : κ) : d.get? k = none := by
  rw [get?_eq_none_iff, keys, List.isEmpty_iff.1 h]
  exact List.not_mem_nil

theorem isSome_get?_iff [DecidableEq κ] {d : Dict κ α} {k : κ} :
    (d.get? k).isSome = true ↔ k ∈ d.keys := by
  simp only [Option.isSome_iff_exists, get?_eq_some_iff, mem_keys]

theorem contains_iff [DecidableEq κ] {d : Dict κ α} {k : κ} :
    d.contains k = true ↔ k ∈ d.keys := isSome_get?_iff

@[simp] theorem get?_empty [DecidableEq κ] (k : κ) : (empty : Dict κ α).get? k = none := rfl

theorem get?_insert [DecidableEq κ] (d : Dict κ α) (k k' : κ) (v : α) :
    (d.insert k v).get? k' = if k' = k then some v else d.get? k' := by
  apply Option.ext
  intro x
  rw [get?_eq_some_iff, mem_entries_insert]
  by_cases h : k' = k
  · simp [h, eq_comm]
  · simp [h, get?_eq_some_iff]

@[simp] theorem get?_insert_same [DecidableEq κ] (d : Dict κ α) (k : κ) (v : α) :
    (d.insert k v).get? k = some v := by simp [get?_insert]

theorem get?_insert_other [DecidableEq κ] (d : Dict κ α) {k k' : κ} (v : α) (h : k' ≠ k) :
    (d.insert k v).get? k' = d.get? k' := by simp [get?_insert, h]

theorem get?_erase [DecidableEq κ] (d : Dict κ α) (k k' : κ) :
    (d.erase k).get? k' = if k' = k then none else d.get? k' := by
  apply Option.ext
  intro x
  rw [get?_eq_some_iff, mem_entries_erase]
  by_cases h : k' = k
  · simp [h]
  · simp [h, get?_eq_some_iff]

/-- The bindings of a list, the last one of a key standing, over those that were there. -/
theorem mem_keys_insertAll (l : List (κ × α)) (d : Dict κ α) (k : κ) :
    k ∈ (d.insertAll l).keys ↔ k ∈ l.map (·.1) ∨ k ∈ d.keys := by
  induction l generalizing d with
  | nil => simp [insertAll]
  | cons e l ih =>
    have h := ih (d.insert e.1 e.2)
    simp only [insertAll, List.foldl_cons, List.map_cons, List.mem_cons] at h ⊢
    rw [h, mem_keys_insert]
    tauto

@[simp] theorem mem_keys_ofList (l : List (κ × α)) (k : κ) :
    k ∈ (ofList l).keys ↔ k ∈ l.map (·.1) := by
  simp [ofList, mem_keys_insertAll]

/-- Every entry comes from the list or was there before. -/
theorem mem_of_mem_insertAll {l : List (κ × α)} {d : Dict κ α} {e : κ × α}
    (h : e ∈ (d.insertAll l).entries) : e ∈ l ∨ e ∈ d.entries := by
  induction l generalizing d with
  | nil => exact .inr h
  | cons x l ih =>
    rcases ih (d := d.insert x.1 x.2) h with h | h
    · exact .inl (List.mem_cons_of_mem _ h)
    · rcases (mem_entries_insert d x.1 x.2 e).1 h with rfl | h
      · exact .inl List.mem_cons_self
      · exact .inr h.2

theorem mem_of_mem_ofList {l : List (κ × α)} {e : κ × α} (h : e ∈ (ofList l).entries) :
    e ∈ l := by
  simpa using mem_of_mem_insertAll h

/-- Keys are listed in one way only. -/
theorem keys_eq_of_mem_iff {β : Type} {d : Dict κ α} {d' : Dict κ β}
    (h : ∀ k, k ∈ d.keys ↔ k ∈ d'.keys) : d.keys = d'.keys := by
  have hirrefl : Std.Irrefl (fun a b : κ => a < b) := ⟨KeyOrder.irrefl⟩
  have hanti : Std.Antisymm (fun a b : κ => a < b) :=
    ⟨fun a b hab hba => absurd (KeyOrder.trans hab hba) (KeyOrder.irrefl a)⟩
  exact List.Pairwise.eq_of_mem_iff (List.pairwise_map.2 d.sorted) (List.pairwise_map.2 d'.sorted)
    h

/-- A dictionary is determined by its entries, -/
theorem ext_of_mem_iff {d d' : Dict κ α} (h : ∀ e, e ∈ d.entries ↔ e ∈ d'.entries) : d = d' := by
  have hirrefl : Std.Irrefl (fun a b : κ × α => a.1 < b.1) := ⟨fun a => KeyOrder.irrefl a.1⟩
  have hanti : Std.Antisymm (fun a b : κ × α => a.1 < b.1) :=
    ⟨fun a b hab hba => absurd (KeyOrder.trans hab hba) (KeyOrder.irrefl a.1)⟩
  have hentries := List.Pairwise.eq_of_mem_iff d.sorted d'.sorted h
  obtain ⟨entries, sorted⟩ := d
  obtain ⟨entries', sorted'⟩ := d'
  obtain rfl : entries = entries' := hentries
  rfl

/-- and by its look-ups. -/
theorem ext_get? [DecidableEq κ] {d d' : Dict κ α} (h : ∀ k, d.get? k = d'.get? k) : d = d' :=
  ext_of_mem_iff fun e => by rw [← get?_eq_some_iff, h, get?_eq_some_iff]

theorem nodup_keys (d : Dict κ α) : d.keys.Nodup := by
  refine List.pairwise_map.2 (d.sorted.imp fun {a b} hab heq => ?_)
  exact KeyOrder.irrefl _ (heq ▸ hab)

theorem nodup_entries (d : Dict κ α) : d.entries.Nodup := .of_map _ (nodup_keys d)

theorem entries_insert_perm [DecidableEq κ] (d : Dict κ α) (k : κ) (v : α) :
    (d.insert k v).entries.Perm ((k, v) :: (d.erase k).entries) := by
  have herased : ((k, v) :: (d.erase k).entries).Nodup :=
    List.nodup_cons.2 ⟨by simp, nodup_entries _⟩
  refine (List.perm_ext_iff_of_nodup (nodup_entries _) herased).2 fun e => ?_
  rw [mem_entries_insert, List.mem_cons, mem_entries_erase]

theorem entries_perm_of_get? [DecidableEq κ] {d : Dict κ α} {k : κ} {v : α}
    (h : d.get? k = some v) : d.entries.Perm ((k, v) :: (d.erase k).entries) := by
  have hmem := get?_eq_some_iff.1 h
  have herased : ((k, v) :: (d.erase k).entries).Nodup :=
    List.nodup_cons.2 ⟨by simp, nodup_entries _⟩
  refine (List.perm_ext_iff_of_nodup (nodup_entries _) herased).2 fun e => ?_
  rw [List.mem_cons, mem_entries_erase]
  constructor
  · intro he
    by_cases hk : e.1 = k
    · subst hk
      exact .inl (Prod.ext rfl (value_unique he hmem))
    · exact .inr ⟨hk, he⟩
  · rintro (rfl | ⟨-, he⟩)
    · exact hmem
    · exact he

theorem erase_of_get?_none [DecidableEq κ] {d : Dict κ α} {k : κ} (h : d.get? k = none) :
    (d.erase k).entries = d.entries := by
  refine List.filter_eq_self.2 fun e he => ?_
  have hne : e.1 ≠ k := fun hk => get?_eq_none_iff.1 h (mem_keys.2 ⟨e.2, hk ▸ he⟩)
  simpa using hne

/-- Bindings of different keys all stand. -/
theorem entries_ofList_perm {l : List (κ × α)} (h : (l.map (·.1)).Nodup) :
    (ofList l).entries.Perm l := by
  refine (List.perm_ext_iff_of_nodup (nodup_entries _) (.of_map _ h)).2 fun e =>
    ⟨mem_of_mem_ofList, ?_⟩
  intro he
  have hkey : e.1 ∈ (ofList l).keys := (mem_keys_ofList l e.1).2 (List.mem_map_of_mem he)
  obtain ⟨v, hv⟩ := mem_keys.1 hkey
  have hsame := List.inj_on_of_nodup_map h he (mem_of_mem_ofList hv) rfl
  exact hsame ▸ hv

/-- The order in which different keys are bound does not matter. -/
theorem ofList_eq_of_perm {l l' : List (κ × α)} (h : (l.map (·.1)).Nodup) (hp : l.Perm l') :
    ofList l = ofList l' := by
  have h' : (l'.map (·.1)).Nodup := (hp.map _).nodup_iff.1 h
  refine ext_of_mem_iff fun e => ?_
  rw [(entries_ofList_perm h).mem_iff, (entries_ofList_perm h').mem_iff, hp.mem_iff]

/-- The entries of a dictionary make it up again. -/
theorem ofList_entries (d : Dict κ α) : ofList d.entries = d :=
  ext_of_mem_iff fun _ => (entries_ofList_perm (nodup_keys d)).mem_iff

theorem mem_values_insertAll {base : Dict κ α} {l : List (κ × α)} {v : α}
    (h : v ∈ (base.insertAll l).values) : v ∈ l.map (·.2) ∨ v ∈ base.values := by
  obtain ⟨e, he, rfl⟩ := List.mem_map.1 h
  exact (mem_of_mem_insertAll he).imp List.mem_map_of_mem List.mem_map_of_mem

theorem mem_values_ofList {l : List (κ × α)} {v : α} (h : v ∈ (ofList l).values) :
    v ∈ l.map (·.2) := (mem_values_insertAll h).resolve_right List.not_mem_nil

theorem keys_ofList_perm {l : List (κ × α)} (h : (l.map (·.1)).Nodup) :
    (ofList l).keys.Perm (l.map (·.1)) := (entries_ofList_perm h).map _

theorem get?_ofList [DecidableEq κ] {l : List (κ × α)} {k : κ} {v : α}
    (h : (l.map (·.1)).Nodup) (hm : (k, v) ∈ l) : (ofList l).get? k = some v :=
  get?_eq_some_iff.2 ((entries_ofList_perm h).mem_iff.2 hm)

section Tables

variable {β : Type} {key : β → κ} {value : β → α} {rows : List β}

/-- A table of rows with different keys has one entry for each row. -/
theorem keys_ofList_rows (h : (rows.map key).Nodup) :
    (ofList (rows.map fun r => (key r, value r))).keys.Perm (rows.map key) := by
  have hkeys : (rows.map fun r => (key r, value r)).map (·.1) = rows.map key := List.map_map
  exact hkeys ▸ keys_ofList_perm (hkeys ▸ h)

theorem get?_ofList_rows [DecidableEq κ] (h : (rows.map key).Nodup) {r : β} (hr : r ∈ rows) :
    (ofList (rows.map fun r => (key r, value r))).get? (key r) = some (value r) := by
  have hkeys : (rows.map fun r => (key r, value r)).map (·.1) = rows.map key := List.map_map
  exact get?_ofList (hkeys ▸ h) (List.mem_map_of_mem hr)

end Tables

theorem get?_insertAll_list [DecidableEq κ] (d : Dict κ α) {l : List (κ × α)}
    (h : (l.map (·.1)).Nodup) (k : κ) :
    (d.insertAll l).get? k = ((l.find? (·.1 = k)).map (·.2)).or (d.get? k) := by
  induction l generalizing d with
  | nil => simp [insertAll]
  | cons e l ih =>
    rw [List.map_cons, List.nodup_cons] at h
    rw [show d.insertAll (e :: l) = (d.insert e.1 e.2).insertAll l from rfl, ih _ h.2, get?_insert]
    by_cases he : k = e.1
    · -- the key is not bound again later
      have hnone : l.find? (·.1 = k) = none := by
        simp only [List.find?_eq_none, decide_eq_true_eq]
        rintro e' he' rfl
        exact h.1 (he ▸ List.mem_map_of_mem he')
      simp [he ▸ hnone, he]
    · simp [he, Ne.symm he]

/-- What a dictionary binds comes before what it is laid over binds. -/
theorem get?_insertAll [DecidableEq κ] (base upper : Dict κ α) (k : κ) :
    (base.insertAll upper.entries).get? k = (upper.get? k).or (base.get? k) :=
  get?_insertAll_list base (nodup_keys upper) k

end Dict

namespace KeySet

variable {κ : Type} [KeyOrder κ]

@[simp] theorem mem_toList_ofList (l : List κ) (k : κ) : k ∈ (ofList l).toList ↔ k ∈ l := by
  simp [ofList, toList]

@[simp] theorem mem_toList_add (s : KeySet κ) (k k' : κ) :
    k' ∈ (s.add k).toList ↔ k' = k ∨ k' ∈ s.toList := by
  simp [add, toList]

@[simp] theorem mem_toList_erase [DecidableEq κ] (s : KeySet κ) (k k' : κ) :
    k' ∈ toList (Dict.erase s k) ↔ k' ≠ k ∧ k' ∈ s.toList := by
  simp [toList]

/-- A set is determined by its members. -/
theorem ext_of_mem_iff {s s' : KeySet κ} (h : ∀ k, k ∈ s.toList ↔ k ∈ s'.toList) : s = s' :=
  Dict.ext_of_mem_iff fun e => by simpa [toList, Dict.mem_keys, Unique.exists_iff] using h e.1

theorem contains_iff [DecidableEq κ] {s : KeySet κ} {k : κ} :
    Dict.contains s k = true ↔ k ∈ s.toList := Dict.contains_iff

end KeySet

end OpticalTestbed
