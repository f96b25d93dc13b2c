import OpticalTestbed.Inventory
import OpticalTestbed.Proofs.Json.Values
/-!
Records are read back from the documents that they are written to: from the fields of an object, and
in lists and maps entry by entry.
-/
namespace OpticalTestbed

namespace Json

variable {α β : Type} {name : String}

@[simp] theorem member?_cons (m : String × Json) (members : List (String × Json)) (name : String) :
    (obj (m :: members)).member? name =
      if m.1 = name then some m.2 else (obj members).member? name := by
  by_cases h : m.1 = name <;> simp [member?, h]

/-- The fields of a document are the members of the value that was written. -/
theorem exists_fields {v : Json} {members : List (String × Json)} (hv : v = obj members)
    (h : (members.map (·.1)).Nodup) : ∃ f : String → Option Json,
      (∀ specs, Source.fields? false specs v.canonical = some f) ∧
        ∀ name, f name = ((obj members).member? name).map canonical := by
  have hkeys : ((members.map fun m => (m.1, m.2.canonical)).map (·.1)).Nodup := by
    rwa [List.map_map]
  rw [hv, canonical_obj]
  refine ⟨_, fun _ => rfl, fun name => ?_⟩
  have hget := Dict.get?_insertAll_list Dict.empty hkeys name
  rw [Dict.get?_empty, Option.or_none, List.find?_map, Option.map_map] at hget
  rw [member?, Option.map_map]
  exact hget

theorem required_eq {f : String → Option Json} {read : Json → Option α} {x : Json} {a : α}
    (hfield : f name = some x) (hread : read x = some a) :
    Source.required f name read = some a := by
  rw [Source.required, hfield, Option.bind_some, hread]

/-- Fields are read one after another. -/
theorem read_then {x : Option α} {next : α → Option β} {a : α} {b : β} (hx : x = some a)
    (h : next a = some b) : (x >>= next) = some b := Option.bind_eq_some_iff.2 ⟨a, hx, h⟩

theorem upTo?_nat {limit n : Nat} (h : n ≤ limit) : Source.upTo? limit (nat n) = some n :=
  Option.filter_eq_some_iff.2 ⟨rfl, decide_eq_true h⟩

theorem mapM_eq_some {γ : Type} {f : γ → Option β} {g : γ → β} {xs : List γ}
    (h : ∀ x ∈ xs, f x = some (g x)) : xs.mapM f = some (xs.map g) := by
  induction xs with
  | nil => rfl
  | cons x xs ih =>
    rw [List.forall_mem_cons] at h
    rw [List.mapM_cons, h.1, ih h.2]
    rfl

/-- Lists are read back entry by entry. -/
theorem list?_arr {read : Json → Option β} {f : α → Json} {g : α → β} {xs : List α}
    (h : ∀ x ∈ xs, read (f x).canonical = some (g x)) :
    Source.list? read (arr (xs.map f)).canonical = some (xs.map g) := by
  rw [canonical_arr, List.map_map]
  have hitems : ((xs.map (canonical ∘ f)).mapM read) = some (xs.map g) := by
    rw [List.mapM_map]
    exact mapM_eq_some h
  exact hitems

/-- Maps are read back entry by entry. -/
theorem dict?_ofDict {read : Json → Option α} {f : String → α → Json} {d : Dict String α}
    (h : ∀ e ∈ d.entries, read (f e.1 e.2).canonical = some e.2) :
    Source.dict? read (ofDict (d.mapValues f)).canonical = some d := by
  have hentries : (((d.mapValues f).mapValues fun _ => canonical).entries.mapM
      fun e => (read e.2).map (e.1, ·)) = some d.entries := by
    rw [Dict.mapValues, Dict.mapValues, List.mapM_map, List.mapM_map]
    refine (mapM_eq_some fun e he => ?_).trans (congrArg some (List.map_id d.entries))
    simp [h e he]
  rw [canonical_ofDict]
  refine (congrArg (Option.map Dict.ofList) hentries).trans ?_
  rw [Option.map_some, Dict.ofList_entries]

end Json

theorem PortKind.ofName?_typeName (k : PortKind) : ofName? k.typeName = some k := by
  cases k <;> rfl

theorem Port.read?_toJson {p : Port} (hport : p.port ≤ max32) (hspeed : p.speed ≤ max64) :
    read? p.toJson.canonical = some p := by
  have hkind : (Source.choice? (Json.str p.kind.typeName)).bind PortKind.ofName? = some p.kind :=
    PortKind.ofName?_typeName p.kind
  obtain ⟨f, hf, hmember⟩ := Json.exists_fields (rfl : p.toJson = _) (by simp)
  simp [read?, hf, hmember, Source.required, Json.upTo?_nat, hport, hspeed, hkind]

end OpticalTestbed
