import OpticalTestbed.Proofs.NetworkConfig
import OpticalTestbed.Proofs.Text.Split
import OpticalTestbed.Proofs.Topology.Description
import OpticalTestbed.TopoConfig
/-!
The emulator document of a topology shows the optical graph that the controller document shows: its
entries are read back from the subjects of ports, and lead to the same subjects again.
-/
namespace OpticalTestbed

section Subjects

theorem delimitedIdOf_uri (d : Dpid) : delimitedIdOf d.uri = d.delimited := by
  rw [delimitedIdOf, Dpid.uri, String.toList_ofList, Dpid.delimited]

/-- A subject stands for the device in front of its slash. -/
theorem delimitedIdOf_portSubject (d : Dpid) (p : Nat) :
    delimitedIdOf (portSubject d.uri p) = d.delimited := by
  rw [← delimitedIdOf_uri, delimitedIdOf, delimitedIdOf, toList_portSubject, delimitedId_slash]

theorem portOfSubject?_portSubject (d : Dpid) {p : Nat} (h : p ≤ max32) :
    LinkConfig.portOfSubject? (portSubject d.uri p) = .ok p := by
  have huri : '/' ∉ d.uri.toList := Dpid.not_mem_uri (by decide) (by decide) d
  have hport : '/' ∉ Numeral.decimal p := Numeral.not_mem_decimal (by decide) p
  simp only [LinkConfig.portOfSubject?, toList_portSubject, Text.splitOn_append,
    Text.splitOn_eq_self huri, Text.splitOn_eq_self hport, List.singleton_append,
    Numeral.bounded?_decimal h]

/-- The device URI of an id in any written form. -/
def deviceUriOf (dpid : String) : String := String.ofList (deviceUri dpid.toList)

theorem deviceUriOf_delimited (d : Dpid) : deviceUriOf d.delimited = d.uri := by
  rw [deviceUriOf, deviceUri, Dpid.compactId_delimited, Dpid.uri, deviceUri,
    compactId_eq_self d.wellFormed.2]

end Subjects

/-- The subject of a link, from its entry. -/
def LinkConfig.subject (e : LinkConfig) : String :=
  portSubject (deviceUriOf e.nodeDpid1) e.port1 ++ "-" ++
    portSubject (deviceUriOf e.nodeDpid2) e.port2

/-- An endpoint is shown by the id of its node and by its port, and named as the switch entry of the
node is. Packet switches and nodes out of scope have no switch entry and no name. -/
structure Endpoint.Shown (t : Topology) (scope : Scope) (switches : List SwitchConfig)
    (e : Endpoint) (nodeDpid nodeName : String) (port : Nat) (n : Node) : Prop where
  node : n ∈ t.nodes ∧ n.name = e.node
  dpid : nodeDpid = n.dpid.delimited
  port : port = e.port
  named : scope.contains n.name = true → n.isRoadm = true →
    ∃ s ∈ switches, s.nodeDpid = nodeDpid ∧ s.name = nodeName
  unnamed : scope.contains n.name = false ∨ n.isRoadm = false → nodeName = unknownName

structure LinkConfig.Describes (t : Topology) (scope : Scope) (switches : List SwitchConfig)
    (l : Link) (e : LinkConfig) : Prop where
  fst : ∃ n, l.a.Shown t scope switches e.nodeDpid1 e.nodeName1 e.port1 n
  snd : ∃ n, l.b.Shown t scope switches e.nodeDpid2 e.nodeName2 e.port2 n
  subject : t.linkSubject? l = some e.subject
  type : e.type = "wdmLink" ↔ Link.isWdm l.annotations = true

/-- A switch entry shows a node under its id and its name. -/
structure SwitchConfig.Describes (n : Node) (s : SwitchConfig) : Prop where
  dpid : s.nodeDpid = n.dpid.delimited
  name : s.name = n.displayName

variable {t : Topology} {scope : Scope} {macOf : String → Option String} {n : Node} {l : Link}
  {switches : List SwitchConfig}

section Switches

/-- The ROADMs in a scope. -/
def Topology.roadmsIn (t : Topology) (scope : Scope) : List Node :=
  (t.nodesIn scope).filter (·.isRoadm)

theorem Topology.mem_roadmsIn :
    n ∈ t.roadmsIn scope ↔ n ∈ t.nodes ∧ scope.contains n.name = true ∧ n.isRoadm = true := by
  rw [roadmsIn, List.mem_filter, mem_nodesIn, and_assoc]

theorem isRoadm_iff_type (t : Topology) (macOf : String → Option String) (n : Node) :
    decide ((DeviceDescriptor.ofNode t macOf n).type = NodeKind.roadm.typeName) = n.isRoadm := by
  cases hk : n.kind <;> simp [DeviceDescriptor.ofNode, Node.isRoadm, hk, NodeKind.typeName]

theorem TopoConfig.switchesOf_ofTopology (t : Topology) (scope : Scope)
    (macOf : String → Option String) :
    switchesOf (Inventory.ofTopology t scope macOf) = (t.roadmsIn scope).map
      (fun n => SwitchConfig.ofDevice (DeviceDescriptor.ofNode t macOf n)) := by
  rw [switchesOf, Inventory.ofTopology, List.filter_map, List.map_map]
  have hroadm : (fun d : DeviceDescriptor => decide (d.type = NodeKind.roadm.typeName)) ∘
      DeviceDescriptor.ofNode t macOf = (·.isRoadm) := funext (isRoadm_iff_type t macOf)
  rw [hroadm]
  rfl

theorem TopoConfig.map_nodeDpid (t : Topology) (scope : Scope) (macOf : String → Option String) :
    (switchesOf (Inventory.ofTopology t scope macOf)).map (·.nodeDpid) =
      (t.roadmsIn scope).map (·.dpid.delimited) := by
  rw [switchesOf_ofTopology, List.map_map]
  exact List.map_congr_left fun n _ => delimitedIdOf_uri n.dpid

theorem SwitchConfig.describes_ofNode (h : n.Described) :
    SwitchConfig.Describes n (SwitchConfig.ofDevice (DeviceDescriptor.ofNode t macOf n)) := by
  obtain ⟨v, hv⟩ := h.named
  refine ⟨delimitedIdOf_uri n.dpid, ?_⟩
  simp [ofDevice, shownName, DeviceDescriptor.ofNode, Node.displayName, hv]

end Switches

section Names

/-- The names that the link entries find. -/
def TopoConfig.names (i : Inventory) : Dict String String := namesOf Dict.empty (switchesOf i)

theorem TopoConfig.names_ofTopology (t : Topology) (scope : Scope)
    (macOf : String → Option String) :
    names (Inventory.ofTopology t scope macOf) = Dict.ofList ((t.roadmsIn scope).map fun n =>
      (n.dpid.delimited, SwitchConfig.shownName (DeviceDescriptor.ofNode t macOf n))) := by
  rw [names, namesOf, switchesOf_ofTopology, List.map_map, ← Dict.ofList]
  refine congrArg Dict.ofList (List.map_congr_left fun n _ => ?_)
  exact Prod.ext (delimitedIdOf_uri n.dpid) rfl

namespace Topology.WellFormed

theorem roadmDpids_nodup (h : t.WellFormed) (scope : Scope) :
    ((t.roadmsIn scope).map (·.dpid.delimited)).Nodup := by
  have hdpids : ((t.roadmsIn scope).map (·.dpid)).Nodup :=
    h.dpids.sublist ((List.filter_sublist.trans List.filter_sublist).map _)
  have hdelimited := hdpids.map fun _ _ => Dpid.delimited_injective
  rwa [List.map_map] at hdelimited

/-- Ends are named as their switch entries are. -/
theorem shown (h : t.WellFormed) {e : Endpoint} (hn : n ∈ t.nodes) (hname : n.name = e.node) :
    e.Shown t scope (TopoConfig.switchesOf (Inventory.ofTopology t scope macOf)) n.dpid.delimited
      ((TopoConfig.names (Inventory.ofTopology t scope macOf)).getD n.dpid.delimited unknownName)
      e.port n := by
  rw [TopoConfig.switchesOf_ofTopology, TopoConfig.names_ofTopology, Dict.getD]
  have hkeys := h.roadmDpids_nodup scope
  constructor
  case node => exact ⟨hn, hname⟩
  case dpid => rfl
  case port => rfl
  case named =>
    intro hscope hroadm
    have hmem : n ∈ t.roadmsIn scope := mem_roadmsIn.2 ⟨hn, hscope, hroadm⟩
    rw [@Dict.get?_ofList_rows _ _ _ _ (fun n : Node => n.dpid.delimited) _ _ _ hkeys _ hmem]
    exact ⟨_, List.mem_map_of_mem hmem, delimitedIdOf_uri n.dpid, rfl⟩
  case unnamed =>
    intro hout
    rw [Dict.get?_eq_none_iff.2, Option.getD_none]
    intro hkey
    rw [Dict.mem_keys_ofList, List.map_map] at hkey
    obtain ⟨m, hm, hsame⟩ := List.mem_map.1 hkey
    obtain ⟨hm, hscope, hroadm⟩ := mem_roadmsIn.1 hm
    obtain rfl := List.inj_on_of_nodup_map h.dpids hm hn (Dpid.delimited_injective hsame)
    simp [hscope, hroadm] at hout

end Topology.WellFormed

end Names

section Links

/-- The entry that shows a described link. -/
theorem LinkConfig.exists_ofLink (h : t.WellFormed) (hl : l ∈ t.links) (ha : l.a.port ≤ max32)
    (hb : l.b.port ≤ max32) {d : LinkDescriptor} (hd : d.Describes t l) :
    ∃ e, ofLink? (TopoConfig.names (Inventory.ofTopology t scope macOf)) d = .ok e ∧
      e.Describes t scope (TopoConfig.switchesOf (Inventory.ofTopology t scope macOf)) l := by
  obtain ⟨src, hsrc, hsrcName, hfind⟩ := h.exists_node (Topology.mem_endpoints hl).1
  obtain ⟨dst, hdst, hdstName, hfind'⟩ := h.exists_node (Topology.mem_endpoints hl).2
  have hds : d.src = portSubject src.dpid.uri l.a.port := by
    simpa [Topology.endSubject?, hfind, eq_comm] using hd.src
  have hdd : d.dst = portSubject dst.dpid.uri l.b.port := by
    simpa [Topology.endSubject?, hfind', eq_comm] using hd.dst
  simp only [ofLink?, hds, hdd, portOfSubject?_portSubject _ ha, portOfSubject?_portSubject _ hb,
    delimitedIdOf_portSubject]
  refine ⟨_, rfl, ⟨src, h.shown hsrc hsrcName⟩, ⟨dst, h.shown hdst hdstName⟩, ?_, ?_⟩
  · rw [Topology.WellFormed.linkSubject?_eq hd]
    simp only [NetworkConfig.linkSubject, subject, deviceUriOf_delimited, hds, hdd]
  · rw [hd.annotations]
    simp

theorem TopoConfig.exists_linksFrom {names : Dict String String} {R : Link → LinkConfig → Prop}
    {links : List Link} {descriptors : List LinkDescriptor}
    (h : List.Forall₂ (fun l d => ∃ e, LinkConfig.ofLink? names d = .ok e ∧ R l e) links
      descriptors) :
    ∃ entries, linksFrom names descriptors = .ok entries ∧ List.Forall₂ R links entries := by
  induction h with
  | nil => exact ⟨[], rfl, .nil⟩
  | cons hd _ ih =>
    obtain ⟨entry, hentry, hfirst⟩ := hd
    obtain ⟨entries, hentries, hmore⟩ := ih
    exact ⟨entry :: entries, by simp only [linksFrom, hentry, hentries], .cons hfirst hmore⟩

/-- All descriptors are those of optical links. -/
theorem TopoConfig.filter_links (h : t.WellFormed) (scope : Scope)
    (macOf : String → Option String) :
    (Inventory.ofTopology t scope macOf).links.filter (·.type = LinkKind.optical.typeName) =
      (Inventory.ofTopology t scope macOf).links := by
  rw [List.filter_eq_self]
  intro d hd
  obtain ⟨l, hl, hdescribes⟩ := exists_of_forall₂ (h.links_describe scope macOf) hd
  have hkind : l.kind = .optical := of_decide_eq_true (Topology.mem_opticalLinks.1 hl).2
  rw [hdescribes.type, hkind]
  exact decide_eq_true rfl

/-- Every optical link has an entry, if port numbers are 32 bits wide. -/
theorem TopoConfig.exists_ofInventory (h : t.WellFormed)
    (fits : ∀ l ∈ t.links, l.a.port ≤ max32 ∧ l.b.port ≤ max32) (scope : Scope)
    (macOf : String → Option String) :
    let i := Inventory.ofTopology t scope macOf
    ∃ entries, ofInventory? i = .ok ⟨switchesOf i, entries⟩ ∧
      List.Forall₂ (LinkConfig.Describes t scope (switchesOf i)) t.opticalLinks entries := by
  intro i
  have hentries : List.Forall₂ (fun l d => ∃ e, LinkConfig.ofLink? (names i) d = .ok e ∧
      e.Describes t scope (switchesOf i) l) t.opticalLinks i.links := by
    have hmem := (List.forall₂_and_left _ _).2 ⟨fun _ => id, h.links_describe scope macOf⟩
    refine hmem.imp fun l d ⟨hl, hd⟩ => ?_
    replace hl := (Topology.mem_opticalLinks.1 hl).1
    exact LinkConfig.exists_ofLink h hl (fits l hl).1 (fits l hl).2 hd
  obtain ⟨entries, hok, hentries⟩ := exists_linksFrom hentries
  refine ⟨entries, ?_, hentries⟩
  rw [ofInventory?, linksOf, filter_links h, ← names, hok]

end Links

theorem TopologyDescription.Fits.ports {d : TopologyDescription} (fits : d.Fits)
    (built : d.build = .ok t) : ∀ l ∈ t.links, l.a.port ≤ max32 ∧ l.b.port ≤ max32 := by
  intro l hl
  obtain ⟨-, -, hlinks⟩ := TopologyDescription.build_ok built
  obtain ⟨l', hl', rfl⟩ := List.mem_map.1 (hlinks ▸ hl)
  exact fits l' hl'

/-- The emulator document of a described topology. Every ROADM in scope has an entry, in the order
of the nodes, and every optical link has one, in the order of the links; the subjects of the link
entries are the keys of the links in the controller document, each of them once. -/
theorem TopoConfig.ofInventory?_describes {d : TopologyDescription} {t : Topology}
    (built : d.build = .ok t) (fits : d.Fits) (scope : Scope)
    (macOf : String → Option String) :
    let i := Inventory.ofTopology t scope macOf
    ∃ c, ofInventory? i = .ok c ∧
      List.Forall₂ SwitchConfig.Describes (t.roadmsIn scope) c.switches ∧
      (c.switches.map (·.nodeDpid)).Nodup ∧
      List.Forall₂ (LinkConfig.Describes t scope c.switches) t.opticalLinks c.links ∧
      (c.links.map (·.subject)).Perm (NetworkConfig.ofInventory i).links.keys := by
  intro i
  have fits := fits.ports built
  obtain ⟨built, described, -⟩ := TopologyDescription.build_ok built
  have hwell := built.wellFormed
  obtain ⟨entries, hok, hentries⟩ := exists_ofInventory hwell fits scope macOf
  refine ⟨⟨switchesOf i, entries⟩, hok, ?_, ?_, hentries, ?_⟩
  · rw [switchesOf_ofTopology, List.forall₂_map_right_iff, List.forall₂_same]
    exact fun n hn => SwitchConfig.describes_ofNode (described n (Topology.mem_roadmsIn.1 hn).1)
  · rw [map_nodeDpid]
    exact hwell.roadmDpids_nodup scope
  · have hsubjects : t.opticalLinks.map t.linkSubject? = (entries.map (·.subject)).map some := by
      rw [List.map_map]
      exact map_eq_map_of_forall₂ (hentries.imp fun _ _ he => he.subject)
    rw [hwell.map_linkSubject? scope macOf] at hsubjects
    rw [← List.map_injective_iff.2 (Option.some_injective _) hsubjects]
    exact (hwell.linkKeys_perm scope macOf).symm

namespace TopoConfig

namespace Sample

def description : TopologyDescription where
  switches := [⟨"r1", "0000ffffffffff01", .roadm, none, none, .empty⟩,
    ⟨"s1", "00:00:ff:ff:ff:ff:00:01", .switch, none, none, .empty⟩]
  links := [⟨"r1", 10, "s1", 1, 100, 0, .optical, .empty⟩]
  domains := .empty

def topology : Topology where
  nodes := [.new "r1" (.ofNumber 0xffffffffff01) .roadm .empty,
    .new "s1" (.ofNumber 0xffffffff0001) .switch .empty]
  positions := (Dict.empty.insert "r1" 0).insert "s1" 1
  links := [⟨⟨"r1", 10, 100⟩, ⟨"s1", 1, 0⟩, .optical, .empty⟩]
  domains := .empty

theorem built : description.build = .ok topology := rfl

theorem fits : description.Fits := by
  simp [TopologyDescription.Fits, description, max32]

end Sample

theorem ofInventory?_describes_sample :
    Sample.description.build = .ok Sample.topology ∧ Sample.description.Fits ∧
    ∃ c, ofInventory? (.ofTopology Sample.topology .all fun _ => none) = .ok c ∧
      c.switches.map (·.name) = ["r1"] ∧ c.links.length = 1 := by
  refine ⟨Sample.built, Sample.fits, ?_⟩
  obtain ⟨c, hok, hswitches, -, hlinks, -⟩ :=
    ofInventory?_describes Sample.built Sample.fits .all fun _ => none
  refine ⟨c, hok, ?_, hlinks.length_eq.symm⟩
  have hnames : (Sample.topology.roadmsIn .all).map (·.displayName) = c.switches.map (·.name) :=
    map_eq_map_of_forall₂ (hswitches.imp fun _ _ hs => hs.name.symm)
  exact hnames.symm

end TopoConfig

end OpticalTestbed
