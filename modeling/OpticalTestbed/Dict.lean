/-!
Sorted dictionaries: association lists in strictly increasing key order. The order is part of the
type, so a dictionary is determined by its look-ups and is always listed by ascending key.
-/
namespace OpticalTestbed

/-- A strict total order on keys, with the laws that sorted lists rest on. -/
class KeyOrder (κ : Type) extends LT κ where
  decideLt : DecidableRel (α := κ) (· < ·)
  irrefl : ∀ a : κ, ¬a < a
  trans : ∀ {a b c : κ}, a < b → b < c → a < c
  connex : ∀ {a b : κ}, ¬a < b → ¬b < a → a = b

instance KeyOrder.decidableLt [KeyOrder κ] : DecidableRel (α := κ) (· < ·) := KeyOrder.decideLt

instance : KeyOrder String where
  decideLt := inferInstance
  irrefl := String.lt_irrefl
  trans := String.lt_trans
  connex h g := String.le_antisymm (String.not_lt.1 g) (String.not_lt.1 h)

instance : KeyOrder Nat where
  decideLt := inferInstance
  irrefl := Nat.lt_irrefl
  trans := Nat.lt_trans
  connex h g := Nat.le_antisymm (Nat.not_lt.1 g) (Nat.not_lt.1 h)

/-- A finite map whose entries are listed by strictly increasing key. -/
structure Dict (κ α : Type) [KeyOrder κ] where
  entries : List (κ × α)
  sorted : entries.Pairwise (fun a b => a.1 < b.1)

namespace Dict

variable {κ α : Type} [KeyOrder κ]

/-- Insertion into a sorted list; an equal key is replaced. -/
def insertSorted (k : κ) (v : α) : List (κ × α) → List (κ × α)
  | [] => [(k, v)]
  | (k', v') :: r =>
    if k < k' then (k, v) :: (k', v') :: r
    else if k' < k then (k', v') :: insertSorted k v r
    else (k, v) :: r

theorem mem_insertSorted {k : κ} {v : α} {l : List (κ × α)} {e : κ × α}
    (h : e ∈ insertSorted k v l) : e = (k, v) ∨ e ∈ l := by
  induction l with
  | nil => simpa [insertSorted] using h
  | cons x r ih =>
    obtain ⟨k', v'⟩ := x
    simp only [insertSorted] at h
    split at h
    · simpa using h
    · split at h
      · rcases List.mem_cons.1 h with h | h
        · exact .inr (h ▸ List.mem_cons_self)
        · exact (ih h).imp id (List.mem_cons_of_mem _)
      · rcases List.mem_cons.1 h with h | h
        · exact .inl h
        · exact .inr (List.mem_cons_of_mem _ h)

theorem pairwise_insertSorted (k : κ) (v : α) {l : List (κ × α)}
    (h : l.Pairwise (fun a b => a.1 < b.1)) :
    (insertSorted k v l).Pairwise (fun a b => a.1 < b.1) := by
  induction l with
  | nil => simp [insertSorted]
  | cons x r ih =>
    obtain ⟨k', v'⟩ := x
    rw [List.pairwise_cons] at h
    simp only [insertSorted]
    split
    · rename_i hk
      refine List.pairwise_cons.2 ⟨fun e he => ?_, List.pairwise_cons.2 h⟩
      rcases List.mem_cons.1 he with rfl | he
      · exact hk
      · exact KeyOrder.trans hk (h.1 e he)
    · rename_i hk
      split
      · rename_i hk'
        refine List.pairwise_cons.2 ⟨fun e he => ?_, ih h.2⟩
        rcases mem_insertSorted he with rfl | he
        · exact hk'
        · exact h.1 e he
      · rename_i hk'
        cases KeyOrder.connex hk hk'
        exact List.pairwise_cons.2 ⟨h.1, h.2⟩

/-- The dictionary without entries. -/
def empty : Dict κ α := ⟨[], .nil⟩

instance : EmptyCollection (Dict κ α) := ⟨empty⟩

instance : Inhabited (Dict κ α) := ⟨empty⟩

/-- Binds `k` to `v`, replacing what `k` was bound to. -/
def insert (d : Dict κ α) (k : κ) (v : α) : Dict κ α :=
  ⟨insertSorted k v d.entries, pairwise_insertSorted k v d.sorted⟩

/-- The value bound to `k`. -/
def get? [DecidableEq κ] (d : Dict κ α) (k : κ) : Option α :=
  (d.entries.find? (·.1 = k)).map (·.2)

def contains [DecidableEq κ] (d : Dict κ α) (k : κ) : Bool :=
  (d.get? k).isSome

def getD [DecidableEq κ] (d : Dict κ α) (k : κ) (fallback : α) : α :=
  (d.get? k).getD fallback

/-- Keeps the entries that pass the test. -/
def filter (d : Dict κ α) (p : κ → α → Bool) : Dict κ α :=
  ⟨d.entries.filter (fun e => p e.1 e.2), d.sorted.filter _⟩

/-- Removes the entry of `k`, if there is one. -/
def erase [DecidableEq κ] (d : Dict κ α) (k : κ) : Dict κ α :=
  d.filter (fun k' _ => k' ≠ k)

/-- Applies `f` to every value. -/
def mapValues {β : Type} (f : κ → α → β) (d : Dict κ α) : Dict κ β :=
  ⟨d.entries.map (fun e => (e.1, f e.1 e.2)), by
    rw [List.pairwise_map]; exact d.sorted⟩

def keys (d : Dict κ α) : List κ := d.entries.map (·.1)

def values (d : Dict κ α) : List α := d.entries.map (·.2)

def size (d : Dict κ α) : Nat := d.entries.length

def isEmpty (d : Dict κ α) : Bool := d.entries.isEmpty

/-- Inserts the entries of a list from left to right, so that the last binding of a key stands. -/
def insertAll (d : Dict κ α) (l : List (κ × α)) : Dict κ α :=
  l.foldl (fun d e => d.insert e.1 e.2) d

def ofList (l : List (κ × α)) : Dict κ α := insertAll empty l

end Dict

/-- A finite set, listed in increasing order. -/
abbrev KeySet (κ : Type) [KeyOrder κ] : Type := Dict κ Unit

namespace KeySet

variable {κ : Type} [KeyOrder κ]

def ofList (l : List κ) : KeySet κ := Dict.ofList (l.map (·, ()))

def add (s : KeySet κ) (k : κ) : KeySet κ := Dict.insert s k ()

/-- The members in increasing order. -/
def toList (s : KeySet κ) : List κ := Dict.keys s

end KeySet

end OpticalTestbed
