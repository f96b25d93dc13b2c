import OpticalTestbed.Devices
import OpticalTestbed.Proofs.Dict
import Mathlib.Data.List.Perm.Subperm
/-!
What a report of devices comes to. It is ready exactly if every expected device is available in it:
that there are enough entries is no condition of its own, since different devices take as many. The
order of the entries does not matter, and neither do entries that are added.
-/
namespace OpticalTestbed

theorem Readiness.isReady_iff {readiness : Readiness} :
    readiness.isReady = true ↔ readiness = .ready := by
  cases readiness <;> simp [isReady]

theorem KeySet.length_toList {κ : Type} [KeyOrder κ] (s : KeySet κ) :
    s.toList.length = Dict.size s := List.length_map _

namespace DeviceList

variable {r r' : DeviceList} {expected : KeySet String} {id : String}

/-- Some entry of the report shows the device as available. -/
def Available (r : DeviceList) (id : String) : Prop :=
  ∃ d ∈ r.devices, d.id = id ∧ d.available = true

theorem hasAvailable_iff : r.hasAvailable id = true ↔ r.Available id := by
  simp [hasAvailable, Available]

theorem hasAvailable_eq (h : ∀ d, d ∈ r.devices ↔ d ∈ r'.devices) :
    r.hasAvailable = r'.hasAvailable := by
  funext id
  rw [Bool.eq_iff_iff, hasAvailable_iff, hasAvailable_iff]
  exact exists_congr fun d => and_congr_left fun _ => h d

/-- Devices that are all available have an entry each. -/
theorem size_le_of_available (h : ∀ id ∈ expected.toList, r.Available id) :
    Dict.size expected ≤ r.devices.length := by
  have hsub : expected.toList ⊆ r.devices.map (·.id) := by
    intro id hid
    obtain ⟨d, hd, hname, -⟩ := h id hid
    exact List.mem_map.2 ⟨d, hd, hname⟩
  have hnodup : expected.toList.Nodup := Dict.nodup_keys expected
  have hle := (List.subperm_of_subset hnodup hsub).length_le
  rwa [List.length_map, KeySet.length_toList] at hle

/-- The expected devices that are not available, in ascending order. -/
def pending (expected : KeySet String) (r : DeviceList) : List String :=
  expected.toList.filter (fun id => !r.hasAvailable id)

theorem mem_pending : id ∈ r.pending expected ↔ id ∈ expected.toList ∧ ¬r.Available id := by
  rw [pending, List.mem_filter, Bool.not_eq_true', ← Bool.not_eq_true, hasAvailable_iff]

theorem pending_eq_nil_iff : r.pending expected = [] ↔ ∀ id ∈ expected.toList, r.Available id := by
  rw [List.eq_nil_iff_forall_not_mem]
  exact forall_congr' fun id => by rw [mem_pending, not_and, not_not]

theorem sorted_pending (expected : KeySet String) (r : DeviceList) :
    (r.pending expected).Pairwise (· < ·) :=
  List.Pairwise.filter _ (List.pairwise_map.2 expected.sorted)

/-- An ascending list is determined by its members. -/
theorem eq_pending {ids : List String} (hsorted : ids.Pairwise (· < ·))
    (h : ∀ id, id ∈ ids ↔ id ∈ expected.toList ∧ ¬r.Available id) : ids = r.pending expected := by
  have hirrefl : Std.Irrefl (fun a b : String => a < b) := ⟨String.lt_irrefl⟩
  have hanti : Std.Antisymm (fun a b : String => a < b) :=
    ⟨fun a _ hab hba => absurd (String.lt_trans hab hba) (String.lt_irrefl a)⟩
  exact hsorted.eq_of_mem_iff (sorted_pending expected r) fun id => by rw [h, mem_pending]

theorem check_few (h : r.devices.length < Dict.size expected) :
    r.check expected = .registering r.devices.length (Dict.size expected) := if_pos h

theorem check_enough (h : Dict.size expected ≤ r.devices.length) :
    r.check expected =
      if r.pending expected = [] then .ready else .unavailable (r.pending expected) := by
  rw [check, if_neg (Nat.not_lt.2 h)]
  split
  · rename_i hnone
    exact (if_pos hnone).symm
  · rename_i hsome
    exact (if_neg hsome).symm

theorem check_eq_ready_iff :
    r.check expected = .ready ↔ ∀ id ∈ expected.toList, r.Available id := by
  rcases Nat.lt_or_ge r.devices.length (Dict.size expected) with hfew | henough
  · rw [check_few hfew]
    exact iff_of_false Readiness.noConfusion fun hall =>
      Nat.not_le.2 hfew (size_le_of_available hall)
  · rw [check_enough henough, ← pending_eq_nil_iff]
    split <;> simp_all

theorem check_eq_registering_iff {reported size : Nat} :
    r.check expected = .registering reported size ↔
      r.devices.length < Dict.size expected ∧ reported = r.devices.length ∧
        size = Dict.size expected := by
  rcases Nat.lt_or_ge r.devices.length (Dict.size expected) with hfew | henough
  · rw [check_few hfew, Readiness.registering.injEq, eq_comm, eq_comm (a := Dict.size expected)]
    exact ⟨fun h => ⟨hfew, h⟩, And.right⟩
  · rw [check_enough henough]
    refine iff_of_false ?_ fun h => Nat.not_lt.2 henough h.1
    split <;> exact Readiness.noConfusion

theorem check_eq_unavailable_iff {ids : List String} :
    r.check expected = .unavailable ids ↔
      Dict.size expected ≤ r.devices.length ∧ ids ≠ [] ∧ ids.Pairwise (· < ·) ∧
        ∀ id, id ∈ ids ↔ id ∈ expected.toList ∧ ¬r.Available id := by
  rcases Nat.lt_or_ge r.devices.length (Dict.size expected) with hfew | henough
  · rw [check_few hfew]
    exact iff_of_false Readiness.noConfusion fun h => Nat.not_le.2 hfew h.1
  · rw [check_enough henough]
    constructor
    · intro h
      split at h
      · cases h
      · rename_i hsome
        cases h
        exact ⟨henough, hsome, sorted_pending expected r, fun id => mem_pending⟩
    · rintro ⟨-, hsome, hsorted, hmem⟩
      obtain rfl := eq_pending hsorted hmem
      rw [if_neg hsome]

/-- The report is compared with the expected devices by its length and by what is available. -/
theorem check_perm (h : r.devices.Perm r'.devices) : r'.check expected = r.check expected := by
  have hmem : r'.hasAvailable = r.hasAvailable := hasAvailable_eq fun _ => h.mem_iff.symm
  rw [check, check, h.length_eq, hmem]

theorem ready_mono {fewer : KeySet String} (h : r.check expected = .ready)
    (hexpected : fewer.toList ⊆ expected.toList) (hreported : r.devices ⊆ r'.devices) :
    r'.check fewer = .ready := by
  rw [check_eq_ready_iff] at h ⊢
  intro id hid
  obtain ⟨d, hd, hshown⟩ := h id (hexpected hid)
  exact ⟨d, hreported hd, hshown⟩

/-- A report is ready exactly if it shows every expected device as available, in whichever entry.
Otherwise it has fewer entries than devices are expected, or those that are not available are
pending. The order of its entries does not matter, and a report that is ready stays so when entries
are added or fewer devices are expected. -/
theorem check_covers (expected : KeySet String) (r : DeviceList) :
    (r.check expected = .ready ↔ ∀ id ∈ expected.toList, r.Available id) ∧
    (∀ reported size, r.check expected = .registering reported size ↔
      r.devices.length < Dict.size expected ∧ reported = r.devices.length ∧
        size = Dict.size expected) ∧
    (∀ ids, r.check expected = .unavailable ids ↔
      Dict.size expected ≤ r.devices.length ∧ ids ≠ [] ∧ ids.Pairwise (· < ·) ∧
        ∀ id, id ∈ ids ↔ id ∈ expected.toList ∧ ¬r.Available id) ∧
    (∀ r' : DeviceList, r.devices.Perm r'.devices → r'.check expected = r.check expected) ∧
    ∀ (fewer : KeySet String) (r' : DeviceList), r.check expected = .ready →
      fewer.toList ⊆ expected.toList → r.devices ⊆ r'.devices → r'.check fewer = .ready :=
  ⟨check_eq_ready_iff, fun _ _ => check_eq_registering_iff, fun _ => check_eq_unavailable_iff,
    fun _ => check_perm, fun _ _ => ready_mono⟩

namespace Sample

def two : KeySet String := KeySet.ofList ["A", "B"]

/-- Two devices with three entries; one of them shows its device as not available. -/
def report : DeviceList := ⟨[⟨"B", false⟩, ⟨"A", true⟩, ⟨"B", true⟩]⟩

end Sample

theorem check_covers_sample :
    Sample.report.check Sample.two = .ready ∧
      (mk Sample.report.devices.reverse).check Sample.two = .ready ∧
      (mk (Sample.report.devices ++ [⟨"C", false⟩])).check (KeySet.ofList ["B"]) = .ready ∧
      (mk [⟨"B", false⟩, ⟨"C", true⟩]).check Sample.two = .unavailable ["A", "B"] := by
  obtain ⟨hready, -, -, hperm, hmono⟩ := check_covers Sample.two Sample.report
  obtain ⟨-, -, hpending, -⟩ := check_covers Sample.two (mk [⟨"B", false⟩, ⟨"C", true⟩])
  have hall : Sample.report.check Sample.two = .ready := by
    rw [hready]
    simp [Sample.two, Sample.report, Available]
  have hfewer : (KeySet.ofList ["B"]).toList ⊆ Sample.two.toList := by
    intro id
    simp +contextual [Sample.two]
  refine ⟨hall, (hperm _ (List.reverse_perm _).symm).trans hall,
    hmono _ _ hall hfewer (List.subset_append_left _ _), (hpending _).2 ⟨?_, ?_, ?_, ?_⟩⟩
  · decide
  · decide
  · decide
  · intro id
    rw [Sample.two, KeySet.mem_toList_ofList]
    refine ⟨fun hid => ⟨hid, ?_⟩, And.left⟩
    rcases List.mem_pair.1 hid with rfl | rfl <;> simp [Available]

end DeviceList

end OpticalTestbed
