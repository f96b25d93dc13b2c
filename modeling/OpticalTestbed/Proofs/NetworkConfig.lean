import OpticalTestbed.Proofs.Inventory
import OpticalTestbed.Proofs.Topology.Ports
import OpticalTestbed.Proofs.Topology.Requests
import Mathlib.Data.List.Perm.Basic
/-!
The controller document of a topology: every device in scope, every port of such a device and every
optical link stands in it once, under a key that nothing else has.
-/
namespace OpticalTestbed

/-- Annotations laid over fixed properties: where both have a key the annotation stands. -/
def LaidOver (annotations fixed basics : Dict String Json) : Prop :=
  ∀ key, basics.get? key = (annotations.get? key).or (fixed.get? key)

/-- The MAC address that a node is shown with: its own; else twelve times `f` and the last two
digits of its id for a ROADM, and what is found under its name for a packet switch, if anything
is. -/
inductive Node.ShownMac (macOf : String → Option String) (n : Node) : String → Prop
  | own {mac : String} : n.mac = some mac → ShownMac macOf n mac
  | emulated {front octet : List Char} : n.mac = none → n.kind = .roadm →
    n.dpid.digits = front ++ octet → octet.length = 2 →
    ShownMac macOf n ("ffffffffffff" ++ String.ofList octet)
  | found {mac : String} : n.mac = none → n.kind = .switch → macOf n.name = some mac →
    ShownMac macOf n mac
  | missing : n.mac = none → n.kind = .switch → macOf n.name = none → ShownMac macOf n ""

/-- The properties of a node that do not come from annotations. -/
structure Node.FixedProperties (macOf : String → Option String) (n : Node)
    (fixed : Dict String Json) : Prop where
  keys : fixed.keys.Perm ["driver", "mfr", "mac", "type"]
  driver : fixed.get? "driver" = some (.str (if n.kind = .roadm then "LINC-OE" else "PK"))
  manufacturer : fixed.get? "mfr" = some (.str n.manufacturer)
  mac : ∃ mac, n.ShownMac macOf mac ∧ fixed.get? "mac" = some (.str mac)
  type : fixed.get? "type" = some (.str (if n.kind = .roadm then "ROADM" else "SWITCH"))

/-- The properties of a device that do not come from annotations. -/
def DeviceDescriptor.fixed (d : DeviceDescriptor) : Dict String Json :=
  Dict.ofList [("driver", .str d.hardware), ("mfr", .str d.manufacturer), ("mac", .str d.mac),
    ("type", .str d.type)]

namespace Topology

/-- The subjects of the ports in a scope, one for every endpoint of a link on a node. -/
def portSubjects (t : Topology) (scope : Scope) : List String :=
  (t.nodesIn scope).flatMap fun n =>
    (t.endpointsOn n.name).map fun e => portSubject n.dpid.uri e.port

end Topology

/-- The document has the devices and ports in a scope and the optical links, and nothing else. -/
structure NetworkConfig.Describes (t : Topology) (scope : Scope) (macOf : String → Option String)
    (c : NetworkConfig) : Prop where
  devices : c.devices.keys.Perm ((t.nodesIn scope).map (·.dpid.uri))
  deviceBasics : ∀ n ∈ t.nodesIn scope, ∃ fixed basics, n.FixedProperties macOf fixed ∧
    c.devices.get? n.dpid.uri = some basics ∧ LaidOver n.annotations fixed basics ∧
    ∀ key ∈ ["driver", "mfr", "mac", "type"], key ∈ basics.keys
  ports : c.ports.keys.Perm (t.portSubjects scope)
  portViews : ∀ n ∈ t.nodesIn scope, ∀ e ∈ t.endpointsOn n.name, ∃ p ∈ t.ports n.name,
    p.port = e.port ∧ c.ports.get? (portSubject n.dpid.uri e.port) = some p
  links : (c.links.keys.map some).Perm (t.opticalLinks.map t.linkSubject?)
  linkBasics : ∀ l ∈ t.opticalLinks, ∃ subject basics, t.linkSubject? l = some subject ∧
    c.links.get? subject = some basics ∧
    LaidOver l.annotations (Dict.ofList [("type", .str l.kind.typeName)]) basics

variable {t : Topology} {scope : Scope} {macOf : String → Option String} {n : Node} {l m : Link}

theorem DeviceDescriptor.ofNode_shownMac (t : Topology) (macOf : String → Option String)
    (n : Node) : n.ShownMac macOf (ofNode t macOf n).mac := by
  simp only [ofNode]
  cases hmac : n.mac with
  | some mac => exact .own hmac
  | none =>
    cases hkind : n.kind with
    | roadm =>
      refine .emulated hmac hkind (List.take_append_drop 14 _).symm ?_
      rw [List.length_drop, n.dpid.wellFormed.1]
    | switch =>
      cases hfound : macOf n.name with
      | some mac => exact .found hmac hkind hfound
      | none => exact .missing hmac hkind hfound

/-- A descriptor has the fixed properties of the node that it is made of. -/
theorem DeviceDescriptor.ofNode_fixed (t : Topology) (macOf : String → Option String) (n : Node) :
    n.FixedProperties macOf (ofNode t macOf n).fixed := by
  have hkeys : (["driver", "mfr", "mac", "type"] : List String).Nodup := by decide
  constructor
  case keys => exact Dict.keys_ofList_perm hkeys
  case driver =>
    refine Dict.get?_ofList hkeys ?_
    cases hkind : n.kind <;> simp [ofNode, hkind, NodeKind.hardware]
  case manufacturer => exact Dict.get?_ofList hkeys (by simp [ofNode])
  case mac => exact ⟨_, ofNode_shownMac t macOf n, Dict.get?_ofList hkeys (by simp)⟩
  case type =>
    refine Dict.get?_ofList hkeys ?_
    cases hkind : n.kind <;> simp [ofNode, hkind, NodeKind.typeName]

theorem deviceBasics_laidOver (d : DeviceDescriptor) :
    LaidOver d.annotations d.fixed (NetworkConfig.deviceBasics d) := Dict.get?_insertAll _ _

theorem linkBasics_laidOver (d : LinkDescriptor) :
    LaidOver d.annotations (Dict.ofList [("type", .str d.type)]) (NetworkConfig.linkBasics d) :=
  Dict.get?_insertAll _ _

theorem mem_keys_deviceBasics (d : DeviceDescriptor) {key : String}
    (h : key ∈ ["driver", "mfr", "mac", "type"]) : key ∈ (NetworkConfig.deviceBasics d).keys := by
  rw [NetworkConfig.deviceBasics, Dict.mem_keys_insertAll, Dict.mem_keys_ofList]
  exact .inr h

/-- The entries of the ports in a scope. -/
def Inventory.portEntries (i : Inventory) : List (String × Port) :=
  i.devices.flatMap fun d => d.ports.map fun p => (portSubject d.uri p.port, p)

theorem Inventory.deviceUris_ofTopology (t : Topology) (scope : Scope)
    (macOf : String → Option String) :
    (ofTopology t scope macOf).deviceUris = (t.nodesIn scope).map (·.dpid.uri) := List.map_map

namespace Topology.WellFormed

open NetworkConfig (linkSubject)

theorem nodeUris_nodup (h : t.WellFormed) (scope : Scope) :
    ((t.nodesIn scope).map (·.dpid.uri)).Nodup := by
  have hdpids : ((t.nodesIn scope).map (·.dpid)).Nodup :=
    h.dpids.sublist (List.filter_sublist.map _)
  have huris := hdpids.map fun _ _ => Dpid.uri_injective
  rwa [List.map_map] at huris

/-- A device has as many ports as there are endpoints on it, under the same numbers. -/
theorem portEntries_keys (h : t.WellFormed) (scope : Scope) (macOf : String → Option String) :
    ((Inventory.ofTopology t scope macOf).portEntries.map (·.1)).Perm (t.portSubjects scope) := by
  rw [Inventory.portEntries, Inventory.ofTopology, List.flatMap_map, List.map_flatMap]
  refine List.Perm.flatMap_left _ fun n hn => ?_
  have hnumbers := (h.ports_numbers (mem_nodesIn.1 hn).1).map (portSubject n.dpid.uri)
  rw [List.map_map, List.map_map] at hnumbers
  rwa [List.map_map]

theorem portSubjects_nodup (h : t.WellFormed) (scope : Scope) :
    (t.portSubjects scope).Nodup := by
  refine List.nodup_flatMap.2 ⟨fun n _ => ?_, ?_⟩
  · have hnumbers := (h.portNumbers_nodup n.name).map (f := portSubject n.dpid.uri)
      fun _ _ he => (portSubject_injective he).2
    rwa [List.map_map] at hnumbers
  · -- the subjects of different devices differ in the id
    refine (List.pairwise_map.1 (h.nodeUris_nodup scope)).imp fun {m n} hne => ?_
    intro subject hm hn
    obtain ⟨e, -, rfl⟩ := List.mem_map.1 hm
    obtain ⟨f, -, hsame⟩ := List.mem_map.1 hn
    exact hne (congrArg Dpid.uri (portSubject_injective hsame).1.symm)

theorem linkSubject?_eq {d : LinkDescriptor} (hd : d.Describes t l) :
    t.linkSubject? l = some (linkSubject d) := by
  simp [linkSubject?, hd.src, hd.dst, linkSubject]

/-- The keys of the links are the subjects of the optical links, each of which has one. -/
theorem map_linkSubject? (h : t.WellFormed) (scope : Scope) (macOf : String → Option String) :
    t.opticalLinks.map t.linkSubject? =
      ((Inventory.ofTopology t scope macOf).links.map linkSubject).map some := by
  rw [List.map_map]
  exact map_eq_map_of_forall₂ ((h.links_describe scope macOf).imp fun _ _ => linkSubject?_eq)

theorem linkSubject?_injective (h : t.WellFormed) (hl : l ∈ t.links) (hm : m ∈ t.links)
    (hsame : t.linkSubject? l = t.linkSubject? m) : l.a.place = m.a.place := by
  obtain ⟨d, -, hd⟩ := h.exists_describes hl
  obtain ⟨e, -, he⟩ := h.exists_describes hm
  have hsubject : linkSubject d = linkSubject e := by
    rw [linkSubject?_eq hd, linkSubject?_eq he] at hsame
    exact Option.some.inj hsame
  obtain ⟨hsrc, -⟩ := NetworkConfig.linkSubject_injective (not_mem_endSubject? hd.src)
    (not_mem_endSubject? hd.dst) hsubject
  exact h.endSubject?_injective hd.src (hsrc ▸ he.src)

/-- A port is on one link only, so no two links have the same subject. -/
theorem linkSubjects_nodup (h : t.WellFormed) : (t.opticalLinks.map t.linkSubject?).Nodup := by
  have hports := h.ports
  rw [endpoints, List.map_flatMap, List.nodup_flatMap] at hports
  have hapart := hports.2.sublist (List.filter_sublist (p := Link.isOptical))
  refine List.pairwise_map.2 (hapart.imp_of_mem fun {l m} hl hm hlm hsame => ?_)
  have hplace := h.linkSubject?_injective (mem_opticalLinks.1 hl).1 (mem_opticalLinks.1 hm).1 hsame
  have hleft : l.a.place ∈ l.ends.map Endpoint.place := List.mem_cons_self
  have hright : m.a.place ∈ m.ends.map Endpoint.place := List.mem_cons_self
  exact hlm hleft (hplace ▸ hright)

theorem linkKeys_nodup (h : t.WellFormed) (scope : Scope) (macOf : String → Option String) :
    ((Inventory.ofTopology t scope macOf).links.map linkSubject).Nodup :=
  .of_map some (h.map_linkSubject? scope macOf ▸ h.linkSubjects_nodup)

theorem linkKeys_perm (h : t.WellFormed) (scope : Scope) (macOf : String → Option String) :
    (NetworkConfig.ofInventory (Inventory.ofTopology t scope macOf)).links.keys.Perm
      ((Inventory.ofTopology t scope macOf).links.map linkSubject) :=
  Dict.keys_ofList_rows (h.linkKeys_nodup scope macOf)

theorem describes (h : t.WellFormed) (scope : Scope) (macOf : String → Option String) :
    (NetworkConfig.ofInventory (Inventory.ofTopology t scope macOf)).Describes t scope macOf := by
  have hdevices : (Inventory.ofTopology t scope macOf).deviceUris.Nodup := by
    rw [Inventory.deviceUris_ofTopology]
    exact h.nodeUris_nodup scope
  have hports : ((Inventory.ofTopology t scope macOf).portEntries.map (·.1)).Nodup :=
    (h.portEntries_keys scope macOf).nodup_iff.2 (h.portSubjects_nodup scope)
  constructor
  case devices =>
    exact Inventory.deviceUris_ofTopology t scope macOf ▸ Dict.keys_ofList_rows hdevices
  case deviceBasics =>
    intro n hn
    have hd : DeviceDescriptor.ofNode t macOf n ∈ (Inventory.ofTopology t scope macOf).devices :=
      List.mem_map_of_mem hn
    exact ⟨_, _, DeviceDescriptor.ofNode_fixed t macOf n, Dict.get?_ofList_rows hdevices hd,
      deviceBasics_laidOver _, fun _ => mem_keys_deviceBasics _⟩
  case ports => exact (Dict.keys_ofList_perm hports).trans (h.portEntries_keys scope macOf)
  case portViews =>
    intro n hn e he
    have hnumbers := h.ports_numbers (mem_nodesIn.1 hn).1
    obtain ⟨p, hp, hport⟩ := List.mem_map.1 (hnumbers.mem_iff.2 (List.mem_map_of_mem he))
    have hentry : (portSubject n.dpid.uri e.port, p) ∈
        (Inventory.ofTopology t scope macOf).portEntries :=
      List.mem_flatMap.2 ⟨_, List.mem_map_of_mem hn, List.mem_map.2 ⟨p, hp, hport ▸ rfl⟩⟩
    exact ⟨p, hp, hport, Dict.get?_ofList hports hentry⟩
  case links =>
    rw [h.map_linkSubject? scope macOf]
    exact (h.linkKeys_perm scope macOf).map some
  case linkBasics =>
    intro l hl
    obtain ⟨d, hof, hd⟩ := h.exists_describes (mem_opticalLinks.1 hl).1
    have hmem : d ∈ (Inventory.ofTopology t scope macOf).links :=
      List.mem_filterMap.2 ⟨l, hl, hof⟩
    refine ⟨_, _, linkSubject?_eq hd,
      Dict.get?_ofList_rows (h.linkKeys_nodup scope macOf) hmem, ?_⟩
    rw [← hd.annotations, ← hd.type]
    exact linkBasics_laidOver d

end Topology.WellFormed

end OpticalTestbed
