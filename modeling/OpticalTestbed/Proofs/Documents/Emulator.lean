import OpticalTestbed.Proofs.Documents.Controller
/-!
The emulator document is read back from its file as it was written, but for one thing: an optional
parameter that is null reads as if it were not there.
-/
namespace OpticalTestbed

/-- The entry without parameters that are null. -/
def LinkConfig.withoutNulls (l : LinkConfig) : LinkConfig :=
  { l with bandwidth := l.bandwidth.filter (!·.isNull), waves := l.waves.filter (!·.isNull) }

/-- The document without link parameters that are null. -/
def TopoConfig.withoutNulls (c : TopoConfig) : TopoConfig :=
  { c with links := c.links.map (·.withoutNulls) }

structure SwitchConfig.Fits (reals : Binary64 → Prop) (limit : Nat) (s : SwitchConfig) :
    Prop where
  latitude : s.latitude.Plain reals limit
  longitude : s.longitude.Plain reals limit
  regens : s.regens.Plain reals limit

/-- Port numbers have 32 bits, and all parameters are plain. -/
structure LinkConfig.Fits (reals : Binary64 → Prop) (limit : Nat) (l : LinkConfig) : Prop where
  ports : l.port1 ≤ max32 ∧ l.port2 ≤ max32
  bandwidth : ∀ v, l.bandwidth = some v → v.Plain reals limit
  waves : ∀ v, l.waves = some v → v.Plain reals limit

structure TopoConfig.Fits (reals : Binary64 → Prop) (limit : Nat) (c : TopoConfig) : Prop where
  switches : ∀ s ∈ c.switches, s.Fits reals limit
  links : ∀ l ∈ c.links, l.Fits reals limit

variable {reals : Binary64 → Prop} {limit : Nat}

section Reading

variable {s : SwitchConfig} {l : LinkConfig} {c : TopoConfig}

theorem SwitchConfig.read?_toJson (h : s.Fits reals limit) :
    read? s.toJson.canonical = some s := by
  obtain ⟨f, hf, hmember⟩ := Json.exists_fields (rfl : s.toJson = _) (by simp)
  obtain ⟨params, hparams, hregens⟩ :=
    Json.exists_fields (rfl : Json.obj [("numregens", s.regens)] = _) (by simp)
  refine Json.read_then (hf _) (Json.read_then (Json.required_eq (hmember _) (hparams _)) ?_)
  refine Json.read_then (Json.required_eq (hmember _) rfl) ?_
  refine Json.read_then (Json.required_eq (hmember _) (congrArg some h.latitude.ordered)) ?_
  refine Json.read_then (Json.required_eq (hmember _) (congrArg some h.longitude.ordered)) ?_
  refine Json.read_then (Json.required_eq (hmember _) rfl) ?_
  refine Json.read_then (Json.required_eq (hmember _) rfl) ?_
  refine Json.read_then (Json.required_eq (hregens _) (congrArg some h.regens.ordered)) ?_
  exact Json.read_then (Json.required_eq (hmember _) rfl) rfl

/-- The parameters of a link as they are written. -/
def LinkConfig.parameters (l : LinkConfig) : List (String × Json) :=
  [("nodeName1", .str l.nodeName1), ("nodeName2", .str l.nodeName2), ("port1", .nat l.port1),
    ("port2", .nat l.port2)] ++ parameter "bandwidth" l.bandwidth ++ parameter "numWaves" l.waves

theorem LinkConfig.parameters_nodup (l : LinkConfig) : (l.parameters.map (·.1)).Nodup := by
  cases hb : l.bandwidth <;> cases hw : l.waves <;> simp [parameters, parameter, hb, hw]

/-- An optional parameter is found if it has a value. -/
theorem LinkConfig.member?_parameters (l : LinkConfig) :
    Json.member? "bandwidth" (.obj l.parameters) = l.bandwidth ∧
      Json.member? "numWaves" (.obj l.parameters) = l.waves := by
  cases hb : l.bandwidth <;> cases hw : l.waves <;>
    simp [Json.member?, parameters, parameter, hb, hw]

/-- An optional field that is null is not there. -/
theorem Json.optional_eq {f : String → Option Json} {name : String} {value : Option Json}
    (hfield : f name = value.map canonical) (h : ∀ v, value = some v → v.canonical = v) :
    Source.optional f name Source.json? = some (value.filter (!·.isNull)) := by
  rw [Source.optional, hfield]
  cases value with
  | none => rfl
  | some v =>
    rw [Option.map_some, h v rfl]
    cases v <;> rfl

theorem LinkConfig.toJson_eq (l : LinkConfig) :
    l.toJson = .obj [("allowed", .bool l.allowed), ("nodeDpid1", .str l.nodeDpid1),
      ("nodeDpid2", .str l.nodeDpid2), ("params", .obj l.parameters), ("type", .str l.type)] := rfl

theorem LinkConfig.read?_toJson (h : l.Fits reals limit) :
    read? l.toJson.canonical = some l.withoutNulls := by
  obtain ⟨f, hf, hmember⟩ := Json.exists_fields l.toJson_eq (by simp)
  obtain ⟨params, hparams, hfound⟩ := Json.exists_fields rfl l.parameters_nodup
  have hbandwidth := Json.optional_eq
    ((hfound _).trans (congrArg (Option.map Json.canonical) l.member?_parameters.1))
    fun v hv => (h.bandwidth v hv).ordered
  have hwaves := Json.optional_eq
    ((hfound _).trans (congrArg (Option.map Json.canonical) l.member?_parameters.2))
    fun v hv => (h.waves v hv).ordered
  refine Json.read_then (hf _) (Json.read_then (Json.required_eq (hmember _) (hparams _)) ?_)
  refine Json.read_then (Json.required_eq (hmember _) rfl) ?_
  refine Json.read_then (Json.required_eq (hmember _) rfl) ?_
  refine Json.read_then (Json.required_eq (hmember _) rfl) ?_
  refine Json.read_then (Json.required_eq (hfound _) rfl) ?_
  refine Json.read_then (Json.required_eq (hfound _) rfl) ?_
  refine Json.read_then (Json.required_eq (hfound _) (Json.upTo?_nat h.ports.1)) ?_
  refine Json.read_then (Json.required_eq (hfound _) (Json.upTo?_nat h.ports.2)) ?_
  refine Json.read_then hbandwidth (Json.read_then hwaves ?_)
  exact Json.read_then (Json.required_eq (hmember _) rfl) rfl

theorem TopoConfig.read?_toJson (h : c.Fits reals limit) :
    read? c.toJson.canonical = some c.withoutNulls := by
  have hswitches := Json.list?_arr fun s hs => SwitchConfig.read?_toJson (h.switches s hs)
  have hlinks := Json.list?_arr fun l hl => LinkConfig.read?_toJson (h.links l hl)
  obtain ⟨f, hf, hmember⟩ := Json.exists_fields (rfl : c.toJson = _) (by simp)
  simp [read?, hf, hmember, Source.required, hswitches, hlinks, withoutNulls]

end Reading

section Writing

variable {s : SwitchConfig} {l : LinkConfig} {c : TopoConfig}

theorem SwitchConfig.within_toJson (h : s.Fits reals limit) :
    s.toJson.Within reals (limit + 2) := by
  have hparams : (Json.obj [("numregens", s.regens)]).Within reals (limit + 1) := by
    rw [Json.within_obj, List.forall_mem_singleton]
    exact h.regens.within
  rw [toJson, Json.within_obj]
  simp [hparams, h.latitude.within.mono, h.longitude.within.mono]

theorem LinkConfig.within_parameters (h : l.Fits reals limit) :
    (Json.obj l.parameters).Within reals (limit + 1) := by
  have hport1 : l.port1 ≤ max64 := h.ports.1.trans (by decide)
  have hport2 : l.port2 ≤ max64 := h.ports.2.trans (by decide)
  have hparameter : ∀ {name value}, (∀ v, value = some v → v.Plain reals limit) →
      ∀ m ∈ parameter name value, m.2.Within reals limit := by
    intro name value hvalue m hm
    cases value with
    | none => cases hm
    | some v =>
      obtain rfl := List.mem_singleton.1 hm
      exact (hvalue v rfl).within
  rw [Json.within_obj, parameters, List.forall_mem_append, List.forall_mem_append]
  refine ⟨⟨?_, hparameter h.bandwidth⟩, hparameter h.waves⟩
  simp [Json.within_nat hport1, Json.within_nat hport2]

theorem LinkConfig.within_toJson (h : l.Fits reals limit) :
    l.toJson.Within reals (limit + 2) := by
  rw [toJson_eq, Json.within_obj]
  simp [within_parameters h]

theorem TopoConfig.within_toJson (h : c.Fits reals limit) :
    c.toJson.Within reals (limit + 4) := by
  have hswitches : (Json.arr (c.switches.map (·.toJson))).Within reals (limit + 3) := by
    rw [Json.within_arr, List.forall_mem_map]
    exact fun s hs => SwitchConfig.within_toJson (h.switches s hs)
  have hlinks : (Json.arr (c.links.map (·.toJson))).Within reals (limit + 3) := by
    rw [Json.within_arr, List.forall_mem_map]
    exact fun l hl => LinkConfig.within_toJson (h.links l hl)
  rw [toJson, Json.within_obj]
  simp [hswitches, hlinks]

theorem TopoConfig.load_eq {parse : String → Option Json} {files : FileTree} {path : String}
    (codec : Json.Restores reals (limit + 4) parse) (h : c.Fits reals limit)
    (hfile : files.readText path = .ok c.toJson.document) :
    Json.load parse read? files path = some c.withoutNulls :=
  Json.load_eq codec (within_toJson h) hfile (read?_toJson h)

end Writing

section Synthesized

variable {t : Topology} {scope : Scope} {macOf : String → Option String} {c : TopoConfig}

theorem LinkConfig.portOfSubject?_le {subject : String} {n : Nat}
    (h : portOfSubject? subject = .ok n) : n ≤ max32 := by
  simp only [portOfSubject?] at h
  split at h
  · split at h
    · rename_i hport
      cases h
      exact Numeral.bounded?_le hport
    · cases h
  · cases h

/-- What an entry takes from the descriptor of its link. -/
theorem LinkConfig.ofLink?_ok {names : Dict String String} {d : LinkDescriptor} {e : LinkConfig}
    (h : ofLink? names d = .ok e) :
    (e.port1 ≤ max32 ∧ e.port2 ≤ max32) ∧ e.bandwidth = d.annotations.get? "bandwidth" ∧
      e.waves = d.annotations.get? "optical.waves" := by
  simp only [ofLink?] at h
  split at h
  · cases h
  · rename_i port1 hport1
    split at h
    · cases h
    · rename_i port2 hport2
      cases h
      exact ⟨⟨portOfSubject?_le hport1, portOfSubject?_le hport2⟩, rfl, rfl⟩

theorem TopoConfig.linksFrom_ok {names : Dict String String} {ds : List LinkDescriptor}
    {entries : List LinkConfig} (h : linksFrom names ds = .ok entries) :
    List.Forall₂ (fun d e => LinkConfig.ofLink? names d = .ok e) ds entries := by
  induction ds generalizing entries with
  | nil =>
    cases h
    exact .nil
  | cons d ds ih =>
    simp only [linksFrom] at h
    split at h
    · cases h
    · rename_i entry hentry
      split at h
      · cases h
      · rename_i more hmore
        cases h
        exact .cons hentry (ih hmore)

theorem TopoConfig.ofInventory?_ok {i : Inventory} (h : ofInventory? i = .ok c) :
    c.switches = switchesOf i ∧ linksOf i (names i) = .ok c.links := by
  simp only [ofInventory?] at h
  split at h
  · cases h
  · rename_i links hlinks
    cases h
    exact ⟨rfl, hlinks⟩

/-- An entry has the parameters of a link. -/
structure LinkConfig.Takes (l : Link) (e : LinkConfig) : Prop where
  ports : e.port1 ≤ max32 ∧ e.port2 ≤ max32
  bandwidth : e.bandwidth = l.annotations.get? "bandwidth"
  waves : e.waves = l.annotations.get? "optical.waves"

/-- The entries take their parameters from the optical links, one by one. -/
theorem Topology.WellFormed.links_take (h : t.WellFormed)
    (hc : TopoConfig.ofInventory? (Inventory.ofTopology t scope macOf) = .ok c) :
    List.Forall₂ LinkConfig.Takes t.opticalLinks c.links := by
  have hlinks := (TopoConfig.ofInventory?_ok hc).2
  rw [TopoConfig.linksOf, TopoConfig.filter_links h] at hlinks
  refine (forall₂_comp (h.links_describe scope macOf) (TopoConfig.linksFrom_ok hlinks)).imp ?_
  rintro l e ⟨d, hd, he⟩
  obtain ⟨hports, hbandwidth, hwaves⟩ := LinkConfig.ofLink?_ok he
  exact ⟨hports, hd.annotations ▸ hbandwidth, hd.annotations ▸ hwaves⟩

theorem SwitchConfig.fits_ofDevice {d : DeviceDescriptor} (zero : reals (.zero false))
    (h : ∀ v ∈ d.annotations.values, v.Plain reals limit) : (ofDevice d).Fits reals limit := by
  have hfallback : ∀ key (fallback : Json), fallback.Plain reals limit →
      (d.annotations.getD key fallback).Plain reals limit := by
    intro key fallback hplain
    rw [Dict.getD]
    cases hget : d.annotations.get? key with
    | none => exact hplain
    | some v => exact h v (List.mem_map_of_mem (Dict.get?_eq_some_iff.1 hget))
  have hzero : (Json.real (.zero false)).Plain reals limit := ⟨rfl, Json.within_real zero⟩
  exact ⟨hfallback "latitude" _ hzero, hfallback "longitude" _ hzero,
    hfallback "optical.regens" _ ⟨rfl, Json.within_nat (Nat.zero_le _)⟩⟩

/-- The document of a topology fits as the topology does. -/
theorem Topology.Fits.emulator (h : t.Fits reals limit) (hwell : t.WellFormed)
    (zero : reals (.zero false))
    (hc : TopoConfig.ofInventory? (Inventory.ofTopology t scope macOf) = .ok c) :
    c.Fits reals limit := by
  constructor
  case switches =>
    rw [(TopoConfig.ofInventory?_ok hc).1, TopoConfig.switchesOf_ofTopology, List.forall_mem_map]
    intro n hn
    exact SwitchConfig.fits_ofDevice zero (h.nodes n (mem_roadmsIn.1 hn).1)
  case links =>
    intro e he
    obtain ⟨l, hl, ⟨hports, hbandwidth, hwaves⟩⟩ := exists_of_forall₂ (hwell.links_take hc) he
    have hplain : ∀ {key v}, l.annotations.get? key = some v → v.Plain reals limit :=
      fun hget => h.links l (mem_opticalLinks.1 hl).1 _
        (List.mem_map_of_mem (Dict.get?_eq_some_iff.1 hget))
    exact ⟨hports, fun v hv => hplain (hbandwidth ▸ hv), fun v hv => hplain (hwaves ▸ hv)⟩

end Synthesized

section Nulls

variable {t : Topology} {scope : Scope} {macOf : String → Option String} {c : TopoConfig}

theorem Json.filter_isNull_eq_self {o : Option Json} :
    o.filter (!·.isNull) = o ↔ o ≠ some .null := by
  cases o with
  | none => simp
  | some v => cases v <;> simp [isNull, Option.filter]

theorem LinkConfig.withoutNulls_eq_self {l : LinkConfig} :
    l.withoutNulls = l ↔ l.bandwidth ≠ some .null ∧ l.waves ≠ some .null := by
  rw [← Json.filter_isNull_eq_self, ← Json.filter_isNull_eq_self]
  constructor
  · intro h
    exact ⟨congrArg bandwidth h, congrArg waves h⟩
  · rintro ⟨hbandwidth, hwaves⟩
    rw [withoutNulls, hbandwidth, hwaves]

theorem TopoConfig.withoutNulls_eq_self :
    c.withoutNulls = c ↔ ∀ l ∈ c.links, l.withoutNulls = l := by
  have hlinks : c.links.map (·.withoutNulls) = c.links ↔ ∀ l ∈ c.links, l.withoutNulls = l := by
    simpa using List.map_inj_left (l := c.links) (f := fun l => l.withoutNulls) (g := id)
  rw [← hlinks]
  constructor
  · exact congrArg links
  · intro h
    rw [withoutNulls, h]

/-- The document comes back as it is exactly if no optical link has a null for a parameter. -/
theorem Topology.WellFormed.withoutNulls_eq_self (h : t.WellFormed)
    (hc : TopoConfig.ofInventory? (Inventory.ofTopology t scope macOf) = .ok c) :
    c.withoutNulls = c ↔ ∀ l ∈ t.opticalLinks,
      l.annotations.get? "bandwidth" ≠ some .null ∧
        l.annotations.get? "optical.waves" ≠ some .null := by
  have htake := h.links_take hc
  rw [TopoConfig.withoutNulls_eq_self]
  constructor
  · intro hall l hl
    obtain ⟨e, he, htakes⟩ := exists_of_forall₂ htake.flip hl
    rw [← htakes.bandwidth, ← htakes.waves]
    exact LinkConfig.withoutNulls_eq_self.1 (hall e he)
  · intro hall e he
    obtain ⟨l, hl, htakes⟩ := exists_of_forall₂ htake he
    rw [LinkConfig.withoutNulls_eq_self, htakes.bandwidth, htakes.waves]
    exact hall l hl

end Nulls

/-- Reading the emulator document of a described topology back, with any reader that restores plain
values and zero: the document comes back without the link parameters that are null, so it comes back
as it was written exactly if no optical link has a null for one. -/
theorem TopoConfig.load_emulator {d : TopologyDescription} {t : Topology}
    {parse : String → Option Json} (codec : Json.Restores reals (limit + 4) parse)
    (zero : reals (.zero false)) (built : d.build = .ok t) (fits : t.Fits reals limit)
    (scope : Scope) (macOf : String → Option String) :
    ∃ s, Synthesis.ofTopology? t scope macOf = .ok s ∧
      ∀ (directory : String) (paths : DocumentPaths) (w w' : World),
        s.write directory w = (.ok paths, w') →
        let back := Json.load parse read? w'.files (Path.join directory emulatorFile)
        back = some s.emulator.withoutNulls ∧
          (back = some s.emulator ↔ ∀ l ∈ t.opticalLinks,
            l.annotations.get? "bandwidth" ≠ some .null ∧
            l.annotations.get? "optical.waves" ≠ some .null) := by
  have hwell := (TopologyDescription.build_ok built).1.wellFormed
  obtain ⟨s, hs, -, hemulator⟩ := Synthesis.exists_ofTopology hwell fits.linkPorts scope macOf
  refine ⟨s, hs, ?_⟩
  intro directory paths w w' hw back
  obtain ⟨-, -, hfile⟩ := BringUp.write_ok hw
  have hback : back = some s.emulator.withoutNulls :=
    load_eq codec (fits.emulator hwell zero hemulator) hfile
  refine ⟨hback, ?_⟩
  rw [hback, Option.some.injEq]
  exact hwell.withoutNulls_eq_self hemulator

namespace Documents.Sample

/-- The description of the small topology. -/
def description (bandwidth : Json) : TopologyDescription where
  switches := [⟨"r1", "0000ffffffffff01", .roadm, none, none, .empty⟩,
    ⟨"s1", "00:00:ff:ff:ff:ff:00:01", .switch, none, none, .empty⟩]
  links := [⟨"r1", 10, "s1", 1, 100, 0, .optical, annotations bandwidth⟩]
  domains := .empty

theorem built (bandwidth : Json) : (description bandwidth).build = .ok (topology bandwidth) := rfl

end Documents.Sample

open Documents.Sample

/-- A null bandwidth does not come back. -/
theorem TopoConfig.load_emulator_null :
    Json.Restores Json.OnlyZero 127 Json.ofText? ∧
    (description .null).build = .ok (topology .null) ∧
    (topology .null).Fits Json.OnlyZero 123 ∧
    ∃ (s : Synthesis) (paths : DocumentPaths) (w' : World) (c : TopoConfig),
      Synthesis.ofTopology? (topology .null) .all (fun _ => none) = .ok s ∧
      s.write "/work" world = (.ok paths, w') ∧
      Json.load Json.ofText? read? w'.files (Path.join "/work" emulatorFile) = some c ∧
      c ≠ s.emulator := by
  have hfits := @fits .null ⟨rfl, Json.within_null⟩
  have hwell := (TopologyDescription.build_ok (built .null)).1.wellFormed
  obtain ⟨s, hs, -, hemulator⟩ :=
    Synthesis.exists_ofTopology hwell hfits.linkPorts .all fun _ => none
  obtain ⟨paths, w', hwritten⟩ := exists_write s
  obtain ⟨-, -, hfile⟩ := BringUp.write_ok hwritten
  refine ⟨Json.restores_ofText?, built .null, hfits, s, paths, w', _, hs, hwritten,
    load_eq Json.restores_ofText? (hfits.emulator hwell rfl hemulator) hfile, ?_⟩
  intro hsame
  have hnone := (hwell.withoutNulls_eq_self hemulator).1 hsame (crossConnect .null)
    List.mem_cons_self
  exact hnone.1 rfl

theorem TopoConfig.load_emulator_sample :
    Json.Restores Json.OnlyZero 127 Json.ofText? ∧
    (description (.nat 40)).build = .ok (topology (.nat 40)) ∧
    (topology (.nat 40)).Fits Json.OnlyZero 123 ∧
    ∃ (s : Synthesis) (paths : DocumentPaths) (w' : World),
      s.write "/work" world = (.ok paths, w') ∧
      Json.load Json.ofText? read? w'.files (Path.join "/work" emulatorFile) =
        some s.emulator := by
  have hfits := @fits (.nat 40) ⟨rfl, Json.within_nat (by decide)⟩
  obtain ⟨s, hs, hback⟩ :=
    load_emulator Json.restores_ofText? rfl (built (.nat 40)) hfits .all fun _ => none
  obtain ⟨paths, w', hwritten⟩ := exists_write s
  refine ⟨Json.restores_ofText?, built _, hfits, s, paths, w', hwritten,
    (hback "/work" paths world w' hwritten).2.2 ?_⟩
  intro l hl
  obtain rfl : l = crossConnect (.nat 40) := List.mem_singleton.1 hl
  have hbandwidth : (crossConnect (.nat 40)).annotations.get? "bandwidth" = some (.nat 40) := rfl
  have hwaves : (crossConnect (.nat 40)).annotations.get? "optical.waves" = some (.nat 80) := rfl
  rw [hbandwidth, hwaves]
  simp [Json.nat]

end OpticalTestbed
