import OpticalTestbed.Proofs.BringUp.Preparing
import OpticalTestbed.Proofs.Json.Records
import OpticalTestbed.Proofs.Json.RoundTrip
import OpticalTestbed.Proofs.TopoConfig
/-!
The controller document is read back from its file as it was written. The subjects in it are enough
to tell the devices and the ends of links again, because no subject of a port has a dash.
-/
namespace OpticalTestbed

/-- Reads a record from a file, with any reader of JSON texts. -/
def Json.load {α : Type} (parse : String → Option Json) (read? : Json → Option α)
    (files : FileTree) (path : String) : Option α :=
  match files.readText path with
  | .ok text => (parse text).bind read?
  | .error _ => none

/-- A record is read back from a file that holds its document, if the reader restores it. -/
theorem Json.load_eq {α : Type} {reals : Binary64 → Prop} {limit : Nat}
    {parse : String → Option Json} {read? : Json → Option α} {files : FileTree} {path : String}
    {v : Json} {a : α} (codec : Restores reals limit parse) (h : v.Within reals limit)
    (hfile : files.readText path = .ok v.document) (hread : read? v.canonical = some a) :
    load parse read? files path = some a := by
  simp only [load, hfile, codec v h, Option.bind_some, hread]

/-- Ports and speeds have 32 and 64 bits, and all properties are plain. -/
structure NetworkConfig.Fits (reals : Binary64 → Prop) (limit : Nat) (c : NetworkConfig) :
    Prop where
  devices : ∀ d ∈ c.devices.values, ∀ v ∈ d.values, v.Plain reals limit
  ports : ∀ p ∈ c.ports.values, p.port ≤ max32 ∧ p.speed ≤ max64
  links : ∀ d ∈ c.links.values, ∀ v ∈ d.values, v.Plain reals limit

/-- Ports and speeds have 32 and 64 bits, and all annotations are plain. -/
structure Topology.Fits (reals : Binary64 → Prop) (limit : Nat) (t : Topology) : Prop where
  nodes : ∀ n ∈ t.nodes, ∀ v ∈ n.annotations.values, v.Plain reals limit
  links : ∀ l ∈ t.links, ∀ v ∈ l.annotations.values, v.Plain reals limit
  ends : ∀ e ∈ t.endpoints, e.port ≤ max32 ∧ e.speed ≤ max64

variable {reals : Binary64 → Prop} {limit : Nat}

section Reading

variable {c : NetworkConfig} {d : Dict String Json}

theorem Json.properties_read (h : ∀ v ∈ d.values, v.Plain reals limit) :
    Source.dict? Source.json? (ofDict d).canonical = some d := by
  have hsame : d.mapValues (fun _ v => v) = d := by simp [Dict.mapValues]
  have hread : Source.dict? Source.json? (ofDict (d.mapValues fun _ v => v)).canonical = some d :=
    dict?_ofDict fun e he => congrArg some (h e.2 (List.mem_map_of_mem he)).ordered
  rwa [hsame] at hread

theorem NetworkConfig.basic?_toJson (h : ∀ v ∈ d.values, v.Plain reals limit) :
    basic? (basicToJson d).canonical = some d := by
  obtain ⟨f, hf, hmember⟩ := Json.exists_fields (rfl : basicToJson d = _) (by simp)
  simp [basic?, hf, hmember, Source.required, Json.properties_read h]

theorem NetworkConfig.optical?_toJson {p : Port} (h : p.port ≤ max32 ∧ p.speed ≤ max64) :
    optical? (opticalToJson p).canonical = some p := by
  obtain ⟨f, hf, hmember⟩ := Json.exists_fields (rfl : opticalToJson p = _) (by simp)
  simp [optical?, hf, hmember, Source.required, Port.read?_toJson h.1 h.2]

theorem NetworkConfig.read?_toJson (h : c.Fits reals limit) :
    read? c.toJson.canonical = some c := by
  have hdevices : Source.dict? basic?
      (Json.ofDict (c.devices.mapValues fun _ d => basicToJson d)).canonical = some c.devices :=
    Json.dict?_ofDict fun e he => basic?_toJson (h.devices e.2 (List.mem_map_of_mem he))
  have hports : Source.dict? optical?
      (Json.ofDict (c.ports.mapValues fun _ p => opticalToJson p)).canonical = some c.ports :=
    Json.dict?_ofDict fun e he => optical?_toJson (h.ports e.2 (List.mem_map_of_mem he))
  have hlinks : Source.dict? basic?
      (Json.ofDict (c.links.mapValues fun _ d => basicToJson d)).canonical = some c.links :=
    Json.dict?_ofDict fun e he => basic?_toJson (h.links e.2 (List.mem_map_of_mem he))
  obtain ⟨f, hf, hmember⟩ := Json.exists_fields (rfl : c.toJson = _) (by simp)
  simp [read?, hf, hmember, Source.defaulted, hdevices, hports, hlinks]

end Reading

section Writing

variable {c : NetworkConfig} {d : Dict String Json}

theorem Json.within_mapValues {α : Type} {f : String → α → Json} {e : Dict String α}
    (h : ∀ x ∈ e.values, ∀ key, (f key x).Within reals limit) :
    (ofDict (e.mapValues f)).Within reals (limit + 1) := by
  rw [within_ofDict]
  intro v hv
  obtain ⟨row, hrow, rfl⟩ := List.mem_map.1 hv
  obtain ⟨entry, hentry, rfl⟩ := List.mem_map.1 hrow
  exact h entry.2 (List.mem_map_of_mem hentry) entry.1

theorem NetworkConfig.within_basic (h : ∀ v ∈ d.values, v.Plain reals limit) :
    (basicToJson d).Within reals (limit + 2) := by
  rw [basicToJson, Json.within_obj, List.forall_mem_singleton, Json.within_ofDict]
  exact fun v hv => (h v hv).within

theorem NetworkConfig.within_optical {p : Port} (h : p.port ≤ max32 ∧ p.speed ≤ max64) :
    (opticalToJson p).Within reals (limit + 2) := by
  have hport : p.port ≤ max64 := h.1.trans (by decide)
  rw [opticalToJson, Json.within_obj, List.forall_mem_singleton, Port.toJson, Json.within_obj]
  simp [Json.within_nat hport, Json.within_nat h.2]

theorem NetworkConfig.within_toJson (h : c.Fits reals limit) :
    c.toJson.Within reals (limit + 4) := by
  rw [toJson, Json.within_obj]
  simp only [List.forall_mem_cons, List.not_mem_nil, false_implies, implies_true, and_true]
  exact ⟨Json.within_mapValues fun d hd _ => within_basic (h.devices d hd),
    Json.within_mapValues fun p hp _ => within_optical (h.ports p hp),
    Json.within_mapValues fun d hd _ => within_basic (h.links d hd)⟩

end Writing

section Synthesized

variable {t : Topology} {this : Node} {l : Link} {p : Port}

theorem Json.plain_str (s : String) : (str s).Plain reals limit := ⟨rfl, within_str s⟩

/-- Texts with plain annotations laid over them. -/
theorem Json.plain_insertAll {base : List (String × Json)} {annotations : Annotations}
    (hbase : ∀ v ∈ base.map (·.2), v.Plain reals limit)
    (h : ∀ v ∈ annotations.values, v.Plain reals limit) :
    ∀ v ∈ ((Dict.ofList base).insertAll annotations.entries).values, v.Plain reals limit :=
  fun v hv => (Dict.mem_values_insertAll hv).elim (h v) fun hv =>
    hbase v (Dict.mem_values_ofList hv)

theorem Topology.Fits.linkPorts (h : t.Fits reals limit) :
    ∀ l ∈ t.links, l.a.port ≤ max32 ∧ l.b.port ≤ max32 := fun l hl =>
  ⟨(h.ends l.a (mem_endpoints hl).1).1, (h.ends l.b (mem_endpoints hl).2).1⟩

theorem Topology.Fits.port (h : t.Fits reals limit) {name : String} (hp : p ∈ t.ports name) :
    p.port ≤ max32 ∧ p.speed ≤ max64 := by
  simp only [ports] at hp
  split at hp
  · cases hp
  · rename_i this _
    have hmade : p ∈ t.links.filterMap (t.portOn? this) := by
      simpa using Dict.mem_values_ofList hp
    obtain ⟨l, hl, hon⟩ := List.mem_filterMap.1 hmade
    have hends : ∀ e ∈ l.ends, e.port ≤ max32 ∧ e.speed ≤ max64 :=
      fun e he => h.ends e (List.mem_flatMap.2 ⟨l, hl, he⟩)
    obtain ⟨⟨e, he, hport⟩, hspeed⟩ := portOn?_ends hon
    refine ⟨hport ▸ (hends e he).1, ?_⟩
    rcases hspeed with ⟨f, hf, hspeed⟩ | hspeed
    · exact hspeed ▸ (hends f hf).2
    · exact hspeed ▸ Nat.zero_le _

/-- The document of a topology fits as the topology does. -/
theorem Topology.Fits.network (h : t.Fits reals limit) (hwell : t.WellFormed) (scope : Scope)
    (macOf : String → Option String) :
    (NetworkConfig.ofInventory (Inventory.ofTopology t scope macOf)).Fits reals limit := by
  constructor
  case devices =>
    intro basics hbasics
    have hbasics := Dict.mem_values_ofList hbasics
    simp only [Inventory.ofTopology, List.map_map, List.mem_map, List.mem_filter] at hbasics
    obtain ⟨n, ⟨hn, -⟩, rfl⟩ := hbasics
    exact Json.plain_insertAll (by simp [Json.plain_str]) (h.nodes n hn)
  case ports =>
    intro p hp
    have hp := Dict.mem_values_ofList hp
    simp only [Inventory.ofTopology, List.map_flatMap, List.mem_flatMap, List.map_map,
      List.mem_map] at hp
    obtain ⟨d, ⟨n, -, rfl⟩, p, hmem, rfl⟩ := hp
    exact h.port hmem
  case links =>
    intro basics hbasics
    have hbasics := Dict.mem_values_ofList hbasics
    rw [List.map_map] at hbasics
    obtain ⟨d, hd, rfl⟩ := List.mem_map.1 hbasics
    obtain ⟨l, hl, hdescribes⟩ := exists_of_forall₂ (hwell.links_describe scope macOf) hd
    refine Json.plain_insertAll (by simp [Json.plain_str]) ?_
    rw [hdescribes.annotations]
    exact h.links l (mem_opticalLinks.1 hl).1

/-- A topology has documents, if its port numbers are 32 bits wide. -/
theorem Synthesis.exists_ofTopology (h : t.WellFormed)
    (fits : ∀ l ∈ t.links, l.a.port ≤ max32 ∧ l.b.port ≤ max32) (scope : Scope)
    (macOf : String → Option String) :
    ∃ s, ofTopology? t scope macOf = .ok s ∧
      s.network = NetworkConfig.ofInventory (Inventory.ofTopology t scope macOf) ∧
      TopoConfig.ofInventory? (Inventory.ofTopology t scope macOf) = .ok s.emulator := by
  obtain ⟨entries, hemulator, -⟩ := TopoConfig.exists_ofInventory h fits scope macOf
  exact ⟨_, by rw [ofTopology?, hemulator], rfl, hemulator⟩

end Synthesized

section Ends

variable {t : Topology} {scope : Scope} {macOf : String → Option String} {l : Link}

theorem NetworkConfig.linkEndpoints_nodup (c : NetworkConfig) : c.linkEndpoints.Nodup :=
  c.links.nodup_keys.filterMap fun _ _ _ h h' => endsOfSubject?_injective h h'

namespace Topology.WellFormed

/-- The ends that the subjects of links give are those of the optical links, one by one. -/
theorem linkEndpoints_perm (h : t.WellFormed) (scope : Scope) (macOf : String → Option String) :
    ((NetworkConfig.ofInventory (Inventory.ofTopology t scope macOf)).linkEndpoints.map some).Perm
      (t.opticalLinks.map t.linkEnds?) := by
  have hends : t.opticalLinks.map t.linkEnds? =
      ((Inventory.ofTopology t scope macOf).links.map fun d => (d.src, d.dst)).map some := by
    rw [List.map_map]
    exact map_eq_map_of_forall₂ ((h.links_describe scope macOf).imp fun _ _ => linkEnds?_eq)
  have hcut : ((Inventory.ofTopology t scope macOf).links.map
      NetworkConfig.linkSubject).filterMap NetworkConfig.endsOfSubject? =
        (Inventory.ofTopology t scope macOf).links.map fun d => (d.src, d.dst) := by
    rw [List.filterMap_map, ← List.filterMap_eq_map]
    refine List.filterMap_congr fun d hd => ?_
    obtain ⟨l, -, hdescribes⟩ := exists_of_forall₂ (h.links_describe scope macOf) hd
    exact NetworkConfig.endsOfSubject?_linkSubject (not_mem_endSubject? hdescribes.src)
  rw [hends, ← hcut]
  exact ((h.linkKeys_perm scope macOf).filterMap _).map some

end Topology.WellFormed

end Ends

theorem NetworkConfig.load_eq {parse : String → Option Json} {c : NetworkConfig} {files : FileTree}
    {path : String} (codec : Json.Restores reals (limit + 4) parse) (h : c.Fits reals limit)
    (hfile : files.readText path = .ok c.toJson.document) :
    Json.load parse read? files path = some c :=
  Json.load_eq codec (within_toJson h) hfile (read?_toJson h)

/-- Reading the controller document back, with any reader that restores plain values: every document
comes back as it was written, and that of a topology gives the subjects of both ends of every
optical link, once each, and the URIs of the nodes in scope, and nothing else. -/
theorem NetworkConfig.load_network {parse : String → Option Json}
    (codec : Json.Restores reals (limit + 4) parse) :
    (∀ (c : NetworkConfig) (path : String) (w w' : World), c.Fits reals limit →
      Op.writeText path c.toJson.document w = (.ok (), w') →
      Json.load parse read? w'.files path = some c) ∧
    ∀ (requests : List Topology.Request) (scope : Scope) (macOf : String → Option String),
      let t := (Topology.run requests .empty).2
      t.Fits reals limit →
      ∃ s, Synthesis.ofTopology? t scope macOf = .ok s ∧
        ∀ (directory : String) (paths : DocumentPaths) (w w' : World),
          s.write directory w = (.ok paths, w') →
          ∃ c, Json.load parse read? w'.files (Path.join directory networkFile) = some c ∧
            (c.linkEndpoints.map some).Perm (t.opticalLinks.map t.linkEnds?) ∧
            c.linkEndpoints.Nodup ∧
            c.devices.keys.Perm ((t.nodesIn scope).map (·.dpid.uri)) := by
  constructor
  · intro c path w w' h hw
    exact load_eq codec h (FileTree.readText_writeAtomic (World.writeText_ok hw).1)
  · intro requests scope macOf t fits
    have hwell : t.WellFormed := (Topology.run_built requests .empty).wellFormed
    obtain ⟨s, hs, hnetwork, -⟩ :=
      Synthesis.exists_ofTopology hwell fits.linkPorts scope macOf
    refine ⟨s, hs, fun directory paths w w' hw => ?_⟩
    obtain ⟨-, hfile, -⟩ := BringUp.write_ok hw
    rw [hnetwork] at hfile
    exact ⟨_, load_eq codec (fits.network hwell scope macOf) hfile,
      hwell.linkEndpoints_perm scope macOf, linkEndpoints_nodup _,
      (hwell.describes scope macOf).devices⟩

/-! ## A small topology, with annotations of several kinds -/

namespace Documents.Sample

def roadm : Node := .new "r1" (.ofNumber 0xffffffffff01) .roadm .empty

def packetSwitch : Node := .new "s1" (.ofNumber 0xffffffff0001) .switch .empty

/-- A bandwidth, a number of waves and a list. -/
def annotations (bandwidth : Json) : Annotations :=
  Dict.ofList [("bandwidth", bandwidth), ("optical.waves", .nat 80),
    ("tags", .arr [.str "lab", .null])]

def crossConnect (bandwidth : Json) : Link :=
  ⟨⟨"r1", 10, 100⟩, ⟨"s1", 1, 0⟩, .optical, annotations bandwidth⟩

def topology (bandwidth : Json) : Topology where
  nodes := [roadm, packetSwitch]
  positions := (Dict.empty.insert "r1" 0).insert "s1" 1
  links := [crossConnect bandwidth]
  domains := .empty

def requests : List Topology.Request :=
  [.addNode roadm, .addNode packetSwitch, .addLink (crossConnect .null)]

/-- A document with one device. -/
def document : NetworkConfig where
  devices := Dict.empty.insert "of:0000ffffffffff01" (annotations .null)
  ports := .empty
  links := .empty

/-- A work directory without any file. -/
def world : World := ⟨⟨[(["work"], .directory)], []⟩, false, []⟩

theorem run_requests : (Topology.run requests .empty).2 = topology .null := rfl

/-- Documents can be written there. -/
theorem exists_write (s : Synthesis) : ∃ paths w', s.write "/work" world = (.ok paths, w') :=
  ⟨_, _, rfl⟩

variable {bandwidth : Json}

theorem annotations_plain (h : bandwidth.Plain Json.OnlyZero 123) :
    ∀ v ∈ (annotations bandwidth).values, v.Plain Json.OnlyZero 123 := by
  intro v hv
  have hlisted : v ∈ [bandwidth, .nat 80, .arr [.str "lab", .null]] :=
    Dict.mem_values_ofList hv
  simp only [List.mem_cons, List.not_mem_nil, or_false] at hlisted
  rcases hlisted with rfl | rfl | rfl
  · exact h
  · exact ⟨rfl, Json.within_nat (by decide)⟩
  · exact ⟨rfl, Json.within_arr.2 (by simp)⟩

theorem fits (h : bandwidth.Plain Json.OnlyZero 123) :
    (topology bandwidth).Fits Json.OnlyZero 123 := by
  have hnamed : ∀ name, ∀ v ∈ (Dict.empty.insert "name" (.str name) : Annotations).values,
      v.Plain Json.OnlyZero 123 := by
    intro name v hv
    obtain rfl : v = .str name := List.mem_singleton.1 hv
    exact Json.plain_str name
  constructor
  case nodes =>
    intro n hn
    simp only [topology, List.mem_cons, List.not_mem_nil, or_false] at hn
    rcases hn with rfl | rfl
    · exact hnamed "r1"
    · exact hnamed "s1"
  case links =>
    intro l hl
    obtain rfl : l = crossConnect bandwidth := List.mem_singleton.1 hl
    exact annotations_plain h
  case ends => simp [topology, Topology.endpoints, Link.ends, crossConnect, max32, max64]

theorem document_fits : document.Fits Json.OnlyZero 123 := by
  constructor
  case devices =>
    intro d hd
    obtain rfl : d = annotations .null := List.mem_singleton.1 hd
    exact annotations_plain ⟨rfl, Json.within_null⟩
  case ports => exact fun _ hp => absurd hp List.not_mem_nil
  case links => exact fun _ hd => absurd hd List.not_mem_nil

end Documents.Sample

open Documents.Sample

theorem NetworkConfig.load_network_sample :
    Json.Restores Json.OnlyZero 127 Json.ofText? ∧
    (∃ w', document.Fits Json.OnlyZero 123 ∧
      Op.writeText "/work/Topology.json" document.toJson.document world = (.ok (), w') ∧
      Json.load Json.ofText? read? w'.files "/work/Topology.json" = some document) ∧
    (Topology.run requests .empty).2.Fits Json.OnlyZero 123 ∧
    ∃ (s : Synthesis) (paths : DocumentPaths) (w' : World) (c : NetworkConfig),
      s.write "/work" world = (.ok paths, w') ∧
      Json.load Json.ofText? read? w'.files (Path.join "/work" networkFile) = some c ∧
      c.linkEndpoints.length = 1 ∧
      c.devices.keys.Perm ["of:0000ffffffffff01", "of:0000ffffffff0001"] := by
  have hfits : (Topology.run requests .empty).2.Fits Json.OnlyZero 123 :=
    run_requests ▸ fits ⟨rfl, Json.within_null⟩
  obtain ⟨hdocument, htopology⟩ := load_network Json.restores_ofText?
  obtain ⟨s, -, hload⟩ := htopology requests .all (fun _ => none) hfits
  obtain ⟨paths, w', hwritten⟩ := exists_write s
  obtain ⟨c, hload, hends, -, hdevices⟩ := hload "/work" paths world w' hwritten
  have hcount := hends.length_eq
  rw [List.length_map] at hcount
  exact ⟨Json.restores_ofText?, ⟨_, document_fits, rfl,
    hdocument document "/work/Topology.json" world _ document_fits rfl⟩, hfits,
    s, paths, w', c, hwritten, hload, hcount, hdevices⟩

end OpticalTestbed
