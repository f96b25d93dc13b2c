import OpticalTestbed.Proofs.NetworkConfig
import OpticalTestbed.Proofs.TopoConfig
import OpticalTestbed.Proofs.Topology.Reordering
/-!
The order in which switches and links are written does not matter to the controller: its document
and the devices that it waits for are the same. The emulator document has the same entries.
-/
namespace OpticalTestbed

variable {t t' : Topology} {scope : Scope} {macOf : String → Option String}

namespace Topology.Reordered

theorem nodesIn (h : t.Reordered t') (scope : Scope) : (t.nodesIn scope).Perm (t'.nodesIn scope) :=
  h.nodes.filter _

theorem ofNode (h : t.Reordered t') (macOf : String → Option String) :
    DeviceDescriptor.ofNode t macOf = DeviceDescriptor.ofNode t' macOf := by
  funext n
  unfold DeviceDescriptor.ofNode
  rw [h.ports]

theorem ofLink? (h : t.Reordered t') :
    LinkDescriptor.ofLink? t = LinkDescriptor.ofLink? t' := by
  funext l
  unfold LinkDescriptor.ofLink?
  rw [h.node?]

theorem devices (h : t.Reordered t') (scope : Scope) (macOf : String → Option String) :
    (Inventory.ofTopology t scope macOf).devices.Perm
      (Inventory.ofTopology t' scope macOf).devices := by
  unfold Inventory.ofTopology
  rw [h.ofNode]
  exact (h.nodesIn scope).map _

theorem descriptors (h : t.Reordered t') (scope : Scope) (macOf : String → Option String) :
    (Inventory.ofTopology t scope macOf).links.Perm (Inventory.ofTopology t' scope macOf).links := by
  unfold Inventory.ofTopology
  rw [h.ofLink?]
  exact (h.links.filter _).filterMap _

theorem deviceUris (h : t.Reordered t') (scope : Scope) (macOf : String → Option String) :
    KeySet.ofList (Inventory.ofTopology t scope macOf).deviceUris =
      KeySet.ofList (Inventory.ofTopology t' scope macOf).deviceUris := by
  refine KeySet.ext_of_mem_iff fun uri => ?_
  rw [KeySet.mem_toList_ofList, KeySet.mem_toList_ofList]
  exact ((h.devices scope macOf).map _).mem_iff

/-- Every entry of the controller document has a key of its own, so that none depends on which came
first. -/
theorem networkConfig (h : t.Reordered t') (scope : Scope) (macOf : String → Option String) :
    NetworkConfig.ofInventory (Inventory.ofTopology t scope macOf) =
      NetworkConfig.ofInventory (Inventory.ofTopology t' scope macOf) := by
  have hdeviceKeys : (((Inventory.ofTopology t scope macOf).devices.map fun d =>
      (d.uri, NetworkConfig.deviceBasics d)).map (·.1)).Nodup := by
    have huris := h.left.nodeUris_nodup scope
    rw [← Inventory.deviceUris_ofTopology t scope macOf] at huris
    rwa [List.map_map]
  have hportKeys : ((Inventory.ofTopology t scope macOf).portEntries.map (·.1)).Nodup :=
    (h.left.portEntries_keys scope macOf).nodup_iff.2 (h.left.portSubjects_nodup scope)
  have hlinkKeys : (((Inventory.ofTopology t scope macOf).links.map fun l =>
      (NetworkConfig.linkSubject l, NetworkConfig.linkBasics l)).map (·.1)).Nodup := by
    rw [List.map_map]
    exact h.left.linkKeys_nodup scope macOf
  exact (NetworkConfig.mk.injEq ..).mpr
    ⟨Dict.ofList_eq_of_perm hdeviceKeys ((h.devices scope macOf).map _),
      Dict.ofList_eq_of_perm hportKeys ((h.devices scope macOf).flatMap_right _),
      Dict.ofList_eq_of_perm hlinkKeys ((h.descriptors scope macOf).map _)⟩

theorem switches (h : t.Reordered t') (scope : Scope) (macOf : String → Option String) :
    (TopoConfig.switchesOf (Inventory.ofTopology t scope macOf)).Perm
      (TopoConfig.switchesOf (Inventory.ofTopology t' scope macOf)) :=
  ((h.devices scope macOf).filter _).map _

/-- A datapath id stands for one ROADM, so its name does not depend on which came first. -/
theorem names (h : t.Reordered t') (scope : Scope) (macOf : String → Option String) :
    TopoConfig.names (Inventory.ofTopology t scope macOf) =
      TopoConfig.names (Inventory.ofTopology t' scope macOf) := by
  have hkeys : ((TopoConfig.switchesOf (Inventory.ofTopology t scope macOf)).map
      fun s => (s.nodeDpid, s.name)).map (·.1) |>.Nodup := by
    rw [List.map_map]
    exact TopoConfig.map_nodeDpid t scope macOf ▸ h.left.roadmDpids_nodup scope
  exact Dict.ofList_eq_of_perm hkeys ((h.switches scope macOf).map _)

end Topology.Reordered

namespace TopoConfig

section LinksFrom

variable {names : Dict String String} {l : LinkDescriptor} {links links' : List LinkDescriptor}
  {entries : List LinkConfig}

theorem linksFrom_cons_ok_iff : linksFrom names (l :: links) = .ok entries ↔
    ∃ e es, LinkConfig.ofLink? names l = .ok e ∧ linksFrom names links = .ok es ∧
      entries = e :: es := by
  simp only [linksFrom]
  split
  · rename_i fault hfault
    simp [hfault]
  · rename_i e he
    split
    · rename_i fault hfault
      simp [hfault]
    · rename_i es hes
      simp [he, hes, eq_comm]

/-- Links have their entries each for itself. -/
theorem linksFrom_perm (hp : links.Perm links') (h : linksFrom names links = .ok entries) :
    ∃ entries', linksFrom names links' = .ok entries' ∧ entries.Perm entries' := by
  induction hp generalizing entries with
  | nil => exact ⟨entries, h, .refl _⟩
  | cons l _ ih =>
    obtain ⟨e, es, he, hes, rfl⟩ := linksFrom_cons_ok_iff.1 h
    obtain ⟨es', hes', hperm⟩ := ih hes
    exact ⟨e :: es', linksFrom_cons_ok_iff.2 ⟨e, es', he, hes', rfl⟩, hperm.cons e⟩
  | swap l m more =>
    obtain ⟨f, rest, hf, hrest, rfl⟩ := linksFrom_cons_ok_iff.1 h
    obtain ⟨e, es, he, hes, rfl⟩ := linksFrom_cons_ok_iff.1 hrest
    have hlater : linksFrom names (m :: more) = .ok (f :: es) :=
      linksFrom_cons_ok_iff.2 ⟨f, es, hf, hes, rfl⟩
    exact ⟨e :: f :: es, linksFrom_cons_ok_iff.2 ⟨e, f :: es, he, hlater, rfl⟩, .swap e f es⟩
  | trans _ _ ih ih' =>
    obtain ⟨entries', h', hperm⟩ := ih h
    obtain ⟨entries'', h'', hperm'⟩ := ih' h'
    exact ⟨entries'', h'', hperm.trans hperm'⟩

end LinksFrom

/-- The emulator document of a topology in another order has the same entries in another order. -/
theorem ofInventory?_reordered (h : t.Reordered t') {c : TopoConfig}
    (ok : ofInventory? (Inventory.ofTopology t scope macOf) = .ok c) :
    ∃ c', ofInventory? (Inventory.ofTopology t' scope macOf) = .ok c' ∧
      c.switches.Perm c'.switches ∧ c.links.Perm c'.links := by
  unfold ofInventory? at ok
  dsimp only at ok
  split at ok
  · cases ok
  · rename_i entries hentries
    cases ok
    rw [linksOf, ← names, h.names] at hentries
    obtain ⟨entries', hentries', hperm⟩ :=
      linksFrom_perm ((h.descriptors scope macOf).filter _) hentries
    refine ⟨⟨switchesOf (Inventory.ofTopology t' scope macOf), entries'⟩, ?_,
      h.switches scope macOf, hperm⟩
    rw [ofInventory?, linksOf, ← names, hentries']

end TopoConfig

/-- A description is accepted in whichever order it lists its switches, its links and the members
of its domains. Of the topologies that are built, the scopes and the ports of each node are the
same, and for each scope so are the controller document and the devices that it waits for; the
emulator documents, which there are if the ports fit, have the same entries. -/
theorem TopologyDescription.build_reordered {d d' : TopologyDescription} (h : d.Reordered d') :
    ((∃ t, d.build = .ok t) ↔ ∃ t', d'.build = .ok t') ∧
    ∀ t t', d.build = .ok t → d'.build = .ok t' →
      (∀ domain, t.scope domain = t'.scope domain) ∧ (∀ name, t.ports name = t'.ports name) ∧
      ∀ scope macOf,
        let i := Inventory.ofTopology t scope macOf
        let i' := Inventory.ofTopology t' scope macOf
        NetworkConfig.ofInventory i = NetworkConfig.ofInventory i' ∧
        KeySet.ofList i.deviceUris = KeySet.ofList i'.deviceUris ∧
        (d.Fits → ∃ c, TopoConfig.ofInventory? i = .ok c) ∧
        ∀ c, TopoConfig.ofInventory? i = .ok c → ∃ c', TopoConfig.ofInventory? i' = .ok c' ∧
          c.switches.Perm c'.switches ∧ c.links.Perm c'.links := by
  refine ⟨?_, fun t t' ok ok' => ?_⟩
  · rw [build_iff, build_iff]
    exact ⟨h.acceptable, h.symm.acceptable⟩
  · have hsame := Topology.reordered_of_build h ok ok'
    refine ⟨hsame.scope, hsame.ports, fun scope macOf => ⟨hsame.networkConfig scope macOf,
      hsame.deviceUris scope macOf, fun fits => ?_,
      fun c hc => TopoConfig.ofInventory?_reordered hsame hc⟩⟩
    obtain ⟨entries, hc, -⟩ :=
      TopoConfig.exists_ofInventory hsame.left (fits.ports ok) scope macOf
    exact ⟨_, hc⟩

namespace TopologyDescription

namespace Sample

/-- Two ROADMs, a packet switch at the first one, and a domain of these two. -/
def description : TopologyDescription where
  switches := [⟨"r1", "0000ffffffffff01", .roadm, none, none, .empty⟩,
    ⟨"r2", "0000ffffffffff02", .roadm, none, none, .empty⟩,
    ⟨"s1", "0000ffffffff0001", .switch, none, none, .empty⟩]
  links := [⟨"r1", 20, "r2", 20, 100, 100, .optical, .empty⟩,
    ⟨"s1", 1, "r1", 10, 0, 100, .optical, .empty⟩]
  domains := Dict.empty.insert "left" ["r1", "s1"]

/-- The same, written the other way round. -/
def reversed : TopologyDescription where
  switches := description.switches.reverse
  links := description.links.reverse
  domains := Dict.empty.insert "left" ["s1", "r1"]

theorem reordered : description.Reordered reversed where
  switches := (List.reverse_perm _).symm
  links := (List.reverse_perm _).symm
  domains := .cons ⟨rfl, .swap _ _ _⟩ .nil

end Sample

theorem build_reordered_sample : Sample.description.Reordered Sample.reversed ∧
    ∃ t t', Sample.description.build = .ok t ∧ Sample.reversed.build = .ok t' ∧
      t.nodes.map (·.name) = ["r1", "r2", "s1"] ∧ t'.nodes.map (·.name) = ["s1", "r2", "r1"] ∧
      t.ports "r1" = t'.ports "r1" ∧ t.scope (some "left") = t'.scope (some "left") ∧
      ∃ c c', TopoConfig.ofInventory? (.ofTopology t .all fun _ => none) = .ok c ∧
        TopoConfig.ofInventory? (.ofTopology t' .all fun _ => none) = .ok c' ∧
        c.switches.Perm c'.switches ∧ c.links.Perm c'.links := by
  have fits : Sample.description.Fits := by
    simp [Fits, Sample.description, max32]
  obtain ⟨haccepted, hsame⟩ := build_reordered Sample.reordered
  have built : ∃ t, Sample.description.build = .ok t := ⟨_, rfl⟩
  obtain ⟨t', ok'⟩ := haccepted.1 built
  obtain ⟨t, ok⟩ := built
  obtain ⟨hscope, hports, hdocuments⟩ := hsame t t' ok ok'
  obtain ⟨-, -, hmade, hemulator⟩ := hdocuments .all fun _ => none
  obtain ⟨c, hc⟩ := hmade fits
  obtain ⟨c', hc', hperm⟩ := hemulator c hc
  refine ⟨Sample.reordered, t, t', ok, ok', ?_, ?_, hports "r1", hscope (some "left"),
    c, c', hc, hc', hperm⟩
  · rw [(build_eq ok).2.2.2.1]
    rfl
  · rw [(build_eq ok').2.2.2.1]
    rfl

end TopologyDescription

end OpticalTestbed
