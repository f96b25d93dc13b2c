import OpticalTestbed.Proofs.BringUp.Restarting
import OpticalTestbed.Proofs.FileTree
import OpticalTestbed.Proofs.NetworkConfig
import OpticalTestbed.Proofs.Topology.Partition
/-!
The document that tells of the cross-connects of one ROADM. Its entries are made from links found by
their ids, those of the document of the whole topology from all links in their order. Where both
have an entry it is the same.
-/
namespace OpticalTestbed

namespace Topology

variable {t : Topology} {name : String}

/-- The subject of the link with an id. -/
def subjectOf? (t : Topology) (id : LinkId) : Option String := (t.link? id).bind t.linkSubject?

theorem filterMap_link?_range (t : Topology) :
    (List.range t.links.length).filterMap t.link? = t.links := by
  have hall : (List.range t.links.length).map t.link? = t.links.map some := by
    refine List.ext_getElem (by simp) fun i hi _ => ?_
    rw [List.length_map, List.length_range] at hi
    simp [link?, hi]
  have hkept := congrArg (List.filterMap id) hall
  simpa [List.filterMap_map] using hkept

/-- The cross-connects of a ROADM are optical links, in the order of the topology. -/
theorem links_crossConnectsOf (t : Topology) (name : String) :
    ((t.crossConnectsOf name).filterMap t.link?).Sublist t.opticalLinks := by
  have hids : (t.crossConnectsOf name).Sublist (List.range t.links.length) :=
    List.filter_sublist.trans t.crossConnects_sublist
  have hlinks := (hids.filterMap t.link?).filter Link.isOptical
  rw [filterMap_link?_range] at hlinks
  have hall : ∀ l ∈ (t.crossConnectsOf name).filterMap t.link?, l.isOptical = true := by
    intro l hl
    obtain ⟨id, hid, hl⟩ := List.mem_filterMap.1 hl
    obtain ⟨l', hl', hkind, -⟩ := mem_crossConnectsOf.1 hid
    obtain rfl := Option.some.inj (hl.symm.trans hl')
    exact decide_eq_true (WellFormed.opticalKind?_eq_some.1 hkind).1
  rwa [List.filter_eq_self.2 hall] at hlinks

/-- On any node, the cross-connects that touch it are listed. -/
theorem WellFormed.mem_crossConnectsOf_bridges (h : t.WellFormed) {id : LinkId} :
    id ∈ t.crossConnectsOf name ↔ ∃ l roadm packet, t.link? id = some l ∧
      t.Bridges l roadm packet ∧ (roadm.node = name ∨ packet.node = name) := by
  have hon : ∀ {l roadm packet}, t.Bridges l roadm packet →
      ((l.a.node = name ∨ l.b.node = name) ↔ (roadm.node = name ∨ packet.node = name)) := by
    intro l roadm packet bridges
    rcases bridges.joins with ⟨rfl, rfl⟩ | ⟨rfl, rfl⟩
    · exact .rfl
    · exact or_comm
  simp only [mem_crossConnectsOf, h.isCrossConnect_iff]
  constructor
  · rintro ⟨l, hl, ⟨roadm, packet, bridges⟩, htouch⟩
    exact ⟨l, roadm, packet, hl, bridges, (hon bridges).1 htouch⟩
  · rintro ⟨l, roadm, packet, hl, bridges, htouch⟩
    exact ⟨l, hl, ⟨roadm, packet, bridges⟩, (hon bridges).2 htouch⟩

end Topology

namespace NetworkConfig

/-- A document that has, of another one, the links with certain ids and nothing else. -/
structure Restricts (t : Topology) (ids : List LinkId) (full part : NetworkConfig) : Prop where
  devices : part.devices = .empty
  ports : part.ports = .empty
  /-- Each link has an entry of its own. -/
  keys : (part.links.keys.map some).Perm (ids.map t.subjectOf?)
  /-- An entry is that of the other document. -/
  links : ∀ subject basics, part.links.get? subject = some basics ↔
    full.links.get? subject = some basics ∧ ∃ id ∈ ids, t.subjectOf? id = some subject

/-- With different subjects, an entry is that of a descriptor. -/
theorem get?_links_iff {i : Inventory} (h : (i.links.map linkSubject).Nodup) {subject : String}
    {basics : Dict String Json} : (ofInventory i).links.get? subject = some basics ↔
      ∃ d ∈ i.links, linkSubject d = subject ∧ linkBasics d = basics := by
  have hrows : (i.links.map fun d => (linkSubject d, linkBasics d)).map (·.1) =
      i.links.map linkSubject := List.map_map
  have hperm := Dict.entries_ofList_perm (hrows ▸ h)
  rw [ofInventory, Dict.get?_eq_some_iff, hperm.mem_iff]
  simp

/-- Of the descriptors of a document some make a part of the document. -/
theorem get?_linksOnly_iff {i : Inventory} {part : List LinkDescriptor}
    (h : (i.links.map linkSubject).Nodup) (hsub : part.Sublist i.links) {subject : String}
    {basics : Dict String Json} : (linksOnly part).links.get? subject = some basics ↔
      (ofInventory i).links.get? subject = some basics ∧ subject ∈ part.map linkSubject := by
  have hpart : (part.map linkSubject).Nodup := h.sublist (hsub.map _)
  rw [linksOnly, get?_links_iff hpart, get?_links_iff h]
  constructor
  · rintro ⟨d, hd, rfl, rfl⟩
    exact ⟨⟨d, hsub.subset hd, rfl, rfl⟩, List.mem_map_of_mem hd⟩
  · rintro ⟨⟨d, hd, hsubject, rfl⟩, hmem⟩
    obtain ⟨e, he, hsame⟩ := List.mem_map.1 hmem
    obtain rfl := List.inj_on_of_nodup_map h hd (hsub.subset he) (hsubject.trans hsame.symm)
    exact ⟨d, he, hsubject, rfl⟩

end NetworkConfig

namespace BringUp

variable {t : Testbed} {name : String}

theorem crossConnectDescriptors_sublist (t : Testbed) (name : String) (scope : Scope)
    (macOf : String → Option String) : (crossConnectDescriptors t name).Sublist
      (Inventory.ofTopology t.topology scope macOf).links :=
  (t.topology.links_crossConnectsOf name).filterMap _

/-- Each cross-connect of a ROADM has a descriptor, which has its subject. -/
theorem map_subjectOf? (h : t.topology.WellFormed) (name : String) :
    (t.topology.crossConnectsOf name).map t.topology.subjectOf? =
      ((crossConnectDescriptors t name).map NetworkConfig.linkSubject).map some := by
  have hids : List.Forall₂ (fun id l => t.topology.link? id = some l ∧ l ∈ t.topology.links)
      (t.topology.crossConnectsOf name)
      ((t.topology.crossConnectsOf name).filterMap t.topology.link?) := by
    refine forall₂_filterMap fun id hid => ?_
    obtain ⟨l, hl, -⟩ := Topology.mem_crossConnectsOf.1 hid
    exact ⟨l, hl, hl, List.mem_of_getElem? hl⟩
  have hlinks : List.Forall₂ (fun l d => d.Describes t.topology l)
      ((t.topology.crossConnectsOf name).filterMap t.topology.link?)
      (crossConnectDescriptors t name) := by
    refine forall₂_filterMap fun l hl => ?_
    exact h.exists_describes (Topology.mem_opticalLinks.1
      ((t.topology.links_crossConnectsOf name).subset hl)).1
  rw [List.map_map]
  refine map_eq_map_of_forall₂ ((forall₂_comp hids hlinks).imp ?_)
  rintro id d ⟨l, ⟨hl, -⟩, hd⟩
  rw [Topology.subjectOf?, hl]
  exact Topology.WellFormed.linkSubject?_eq hd

/-- The document of a ROADM's cross-connects is that of the topology, restricted to them. -/
theorem crossConnectDocument_restricts (h : t.topology.WellFormed) (name : String) (scope : Scope)
    (macOf : String → Option String) :
    NetworkConfig.Restricts t.topology (t.topology.crossConnectsOf name)
      (.ofInventory (.ofTopology t.topology scope macOf)) (crossConnectDocument t name) := by
  have hnodup := h.linkKeys_nodup scope macOf
  have hsub := crossConnectDescriptors_sublist t name scope macOf
  have hsubjects := map_subjectOf? h name
  constructor
  case devices => rfl
  case ports => rfl
  case keys =>
    rw [hsubjects]
    exact (Dict.keys_ofList_rows (hnodup.sublist (hsub.map _))).map some
  case links =>
    intro subject basics
    rw [crossConnectDocument, NetworkConfig.get?_linksOnly_iff hnodup hsub]
    have hmem : some subject ∈ (t.topology.crossConnectsOf name).map t.topology.subjectOf? ↔
        some subject ∈ ((crossConnectDescriptors t name).map NetworkConfig.linkSubject).map some :=
      by rw [hsubjects]
    refine and_congr_right fun _ => ?_
    simpa using hmem.symm

/-- Whatever a topology was asked for and whatever is bound: to start a ROADM leaves a document with
no devices and no ports, whose links are those of the document of the topology in any scope,
restricted to the cross-connects that touch the ROADM. It is in its place when the controller is
told of it. -/
theorem startSwitch_leaves (requests : List Topology.Request) (base : Testbed) (o : Outside)
    (name : String) (b : BringUp) (w : World) (scope : Scope) (macOf : String → Option String) :
    let t : Testbed := { base with topology := (Topology.run requests .empty).2 }
    let document := crossConnectDocument t name
    NetworkConfig.Restricts t.topology (t.topology.crossConnectsOf name)
        (.ofInventory (.ofTopology t.topology scope macOf)) document ∧
      (∀ id, id ∈ t.topology.crossConnectsOf name ↔ ∃ l roadm packet,
        t.topology.link? id = some l ∧ t.topology.Bridges l roadm packet ∧
          (roadm.node = name ∨ packet.node = name)) ∧
      ∀ report b' w', startSwitch o t name b w = (.ok report, b', w') → ∃ w₁,
        w₁.files.readText (crossConnectPath t) = .ok document.toJson.document ∧
          w' = (pushCrossConnects o t w₁).2 := by
  intro t document
  have hwell : t.topology.WellFormed := (Topology.run_built requests .empty).wellFormed
  refine ⟨crossConnectDocument_restricts hwell name scope macOf,
    fun _ => hwell.mem_crossConnectsOf_bridges, ?_⟩
  intro report b' w' hok
  have path := startSwitch_restartPath o t name b w
  rw [hok] at path
  cases path with
  | @restarted _ _ _ w₁ _ _ written =>
    exact ⟨w₁, FileTree.readText_writeAtomic (World.writeText_ok written).1, rfl⟩

/-- The ROADM of the small testbed is started, and the document that is left has its link. -/
theorem startSwitch_leaves_sample :
    let t : Testbed := { Sample.testbed with topology := (Topology.run [.addNode Sample.roadm,
      .addNode Sample.packetSwitch, .addLink Sample.crossConnect] .empty).2 }
    (crossConnectDocument t "r1").links.keys = ["of:000000000000ff01/10-of:0000000000000001/1"] ∧
      ∃ report b' w', startSwitch Sample.outside t "r1" (fresh t.topology) Sample.terseWorld =
        (.ok report, b', w') ∧ ∃ w₁, w₁.files.readText (crossConnectPath t) =
          .ok (crossConnectDocument t "r1").toJson.document ∧
            w' = (pushCrossConnects Sample.outside t w₁).2 := by
  intro t
  have hok : (startSwitch Sample.outside t "r1" (fresh t.topology)
      Sample.terseWorld).1.toOption.isSome = true := by decide +kernel
  obtain ⟨-, -, hleaves⟩ := startSwitch_leaves [.addNode Sample.roadm,
    .addNode Sample.packetSwitch, .addLink Sample.crossConnect] Sample.testbed Sample.outside "r1"
    (fresh t.topology) Sample.terseWorld .all fun _ => none
  refine ⟨by decide +kernel, ?_⟩
  match hs : startSwitch Sample.outside t "r1" (fresh t.topology) Sample.terseWorld with
  | (.ok report, b', w') => exact ⟨report, b', w', rfl, hleaves report b' w' hs⟩
  | (.error e, b', w') =>
    rw [hs] at hok
    cases hok

end BringUp

end OpticalTestbed
