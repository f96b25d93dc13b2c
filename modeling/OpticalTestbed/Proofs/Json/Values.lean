import OpticalTestbed.Json.Printer
import OpticalTestbed.Proofs.Dict
/-!
What a reader makes of a value that was written: the members of every object by ascending name. Of
all values only numbers may change on the way, those with a fraction or beyond 64 bits.
-/
namespace OpticalTestbed

namespace Json

mutual

/-- The value with the members of every object in the order in which a reader gives them; of two
with one name the later stands. -/
def canonical : Json → Json
  | arr items => arr (canonicalItems items)
  | obj members => ofDict (Dict.ofList (canonicalMembers members))
  | v => v

def canonicalItems : List Json → List Json
  | [] => []
  | v :: vs => canonical v :: canonicalItems vs

def canonicalMembers : List (String × Json) → List (String × Json)
  | [] => []
  | (name, v) :: members => (name, canonical v) :: canonicalMembers members

end

mutual

/-- Whole numbers have 64 bits, and all others are among the given ones. -/
def Admits (reals : Binary64 → Prop) : Json → Prop
  | int n => -(Nat.pow 2 63 : Int) ≤ n ∧ n ≤ max64
  | real x => reals x
  | arr items => AdmitsItems reals items
  | obj members => AdmitsMembers reals members
  | _ => True

def AdmitsItems (reals : Binary64 → Prop) : List Json → Prop
  | [] => True
  | v :: vs => Admits reals v ∧ AdmitsItems reals vs

def AdmitsMembers (reals : Binary64 → Prop) : List (String × Json) → Prop
  | [] => True
  | (_, v) :: members => Admits reals v ∧ AdmitsMembers reals members

end

mutual

/-- How many levels of arrays and objects are nested in a value. -/
def depth : Json → Nat
  | arr items => depthOfItems items + 1
  | obj members => depthOfMembers members + 1
  | _ => 0

def depthOfItems : List Json → Nat
  | [] => 0
  | v :: vs => max (depth v) (depthOfItems vs)

def depthOfMembers : List (String × Json) → Nat
  | [] => 0
  | (_, v) :: members => max (depth v) (depthOfMembers members)

end

/-- The only number with a fraction or an exponent that the program writes on its own. -/
abbrev OnlyZero (x : Binary64) : Prop := x = Binary64.zero false

/-- Numbers are whole or among the given ones, and levels are no more than a limit. -/
def Within (reals : Binary64 → Prop) (limit : Nat) (v : Json) : Prop :=
  v.Admits reals ∧ v.depth ≤ limit

/-- A value within these limits whose members are in order. -/
structure Plain (reals : Binary64 → Prop) (limit : Nat) (v : Json) : Prop where
  ordered : v.canonical = v
  within : v.Within reals limit

/-- A reader of texts gives back every value within some limits, as it was written. -/
def Restores (reals : Binary64 → Prop) (limit : Nat) (parse : String → Option Json) : Prop :=
  ∀ v : Json, v.Within reals limit → parse v.document = some v.canonical

variable {reals : Binary64 → Prop} {limit : Nat}

section Canonical

theorem canonicalItems_eq (items : List Json) : canonicalItems items = items.map canonical := by
  induction items with
  | nil => rfl
  | cons v vs ih => rw [canonicalItems, ih, List.map_cons]

theorem canonicalMembers_eq (members : List (String × Json)) :
    canonicalMembers members = members.map fun m => (m.1, m.2.canonical) := by
  induction members with
  | nil => rfl
  | cons m members ih => rw [canonicalMembers, ih, List.map_cons]

@[simp] theorem canonical_null : null.canonical = null := rfl
@[simp] theorem canonical_bool (b : Bool) : (bool b).canonical = bool b := rfl
@[simp] theorem canonical_int (n : Int) : (int n).canonical = int n := rfl
@[simp] theorem canonical_nat (n : Nat) : (nat n).canonical = nat n := rfl
@[simp] theorem canonical_real (x : Binary64) : (real x).canonical = real x := rfl
@[simp] theorem canonical_str (s : String) : (str s).canonical = str s := rfl

theorem canonical_arr (items : List Json) :
    (arr items).canonical = arr (items.map canonical) := by rw [canonical, canonicalItems_eq]

theorem canonical_obj (members : List (String × Json)) :
    (obj members).canonical =
      ofDict (Dict.ofList (members.map fun m => (m.1, m.2.canonical))) := by
  rw [canonical, canonicalMembers_eq]

/-- The members of a dictionary are in order already. -/
theorem canonical_ofDict (d : Dict String Json) :
    (ofDict d).canonical = ofDict (d.mapValues fun _ => canonical) := by
  rw [ofDict, canonical_obj]
  exact congrArg ofDict (d.mapValues fun _ => canonical).ofList_entries

end Canonical

section Within

theorem admitsItems_iff {items : List Json} :
    AdmitsItems reals items ↔ ∀ v ∈ items, v.Admits reals := by
  induction items with
  | nil => simp [AdmitsItems]
  | cons v vs ih => rw [AdmitsItems, ih, List.forall_mem_cons]

theorem admitsMembers_iff {members : List (String × Json)} :
    AdmitsMembers reals members ↔ ∀ m ∈ members, m.2.Admits reals := by
  induction members with
  | nil => simp [AdmitsMembers]
  | cons m members ih => rw [AdmitsMembers, ih, List.forall_mem_cons]

theorem depthOfItems_le {items : List Json} :
    depthOfItems items ≤ limit ↔ ∀ v ∈ items, v.depth ≤ limit := by
  induction items with
  | nil => simp [depthOfItems]
  | cons v vs ih => rw [depthOfItems, Nat.max_le, ih, List.forall_mem_cons]

theorem depthOfMembers_le {members : List (String × Json)} :
    depthOfMembers members ≤ limit ↔ ∀ m ∈ members, m.2.depth ≤ limit := by
  induction members with
  | nil => simp [depthOfMembers]
  | cons m members ih => rw [depthOfMembers, Nat.max_le, ih, List.forall_mem_cons]

theorem within_arr {items : List Json} :
    (arr items).Within reals (limit + 1) ↔ ∀ v ∈ items, v.Within reals limit := by
  rw [Within, Admits, depth, Nat.add_le_add_iff_right, admitsItems_iff, depthOfItems_le]
  exact forall₂_and.symm

theorem within_obj {members : List (String × Json)} :
    (obj members).Within reals (limit + 1) ↔ ∀ m ∈ members, m.2.Within reals limit := by
  rw [Within, Admits, depth, Nat.add_le_add_iff_right, admitsMembers_iff, depthOfMembers_le]
  exact forall₂_and.symm

theorem within_ofDict {d : Dict String Json} :
    (ofDict d).Within reals (limit + 1) ↔ ∀ v ∈ d.values, v.Within reals limit := by
  rw [ofDict, within_obj, Dict.values, List.forall_mem_map]

@[simp] theorem within_null : null.Within reals limit := ⟨trivial, Nat.zero_le _⟩
@[simp] theorem within_bool (b : Bool) : (bool b).Within reals limit := ⟨trivial, Nat.zero_le _⟩
@[simp] theorem within_str (s : String) : (str s).Within reals limit := ⟨trivial, Nat.zero_le _⟩

theorem within_nat {n : Nat} (h : n ≤ max64) : (nat n).Within reals limit :=
  ⟨⟨by omega, Int.ofNat_le.2 h⟩, Nat.zero_le _⟩

theorem within_real {x : Binary64} (h : reals x) : (real x).Within reals limit :=
  ⟨h, Nat.zero_le _⟩

theorem Within.mono {k : Nat} {v : Json} (h : v.Within reals k) (hk : k ≤ limit) :
    v.Within reals limit := ⟨h.1, h.2.trans hk⟩

end Within

end Json

end OpticalTestbed
