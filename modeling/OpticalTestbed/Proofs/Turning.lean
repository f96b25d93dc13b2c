import OpticalTestbed.Binding
import OpticalTestbed.Proofs.NetworkConfig
import OpticalTestbed.Proofs.Topology.Turning
/-!
What is made of a topology does not depend on which end of a link is written first: taps are
attached, detached and recovered alike, and of the controller document only the keys of links are
written the other way round.
-/
namespace OpticalTestbed

variable {t t' : Topology}

namespace Bindings

section Congruence

variable (hnode : t.node? = t'.node?) (hends : t.crossConnectEnds? = t'.crossConnectEnds?)

include hends in
theorem bindLinks_congr (o : Outside) (sysConfig : String) (roadm : Node) (links : List LinkId) :
    bindLinks o t sysConfig roadm links = bindLinks o t' sysConfig roadm links := by
  induction links with
  | nil => rfl
  | cons link more ih =>
    funext b w
    simp only [bindLinks, hends, ih]

include hends in
theorem unbindLinks_congr (o : Outside) (name : String) (links : List (LinkId × String)) :
    unbindLinks o t name links = unbindLinks o t' name links := by
  induction links with
  | nil => rfl
  | cons link more ih =>
    funext b w
    simp only [unbindLinks, hends, ih]

include hends in
theorem recoverLinks_congr (sysConfig : String) (roadm : Node) (links : List LinkId) :
    recoverLinks t sysConfig roadm links = recoverLinks t' sysConfig roadm links := by
  induction links with
  | nil => rfl
  | cons link more ih =>
    funext b
    simp only [recoverLinks, hends, ih]

include hnode hends in
theorem bindEach_congr (o : Outside) (sysConfig : String) (names : List String) :
    bindEach o t sysConfig names = bindEach o t' sysConfig names := by
  induction names with
  | nil => rfl
  | cons name more ih =>
    funext b w
    simp only [bindEach, bindDetached, hnode, bindLinks_congr hends, ih]

include hends in
theorem unbindEach_congr (o : Outside) (names : List String) :
    unbindEach o t names = unbindEach o t' names := by
  induction names with
  | nil => rfl
  | cons name more ih =>
    funext b w
    simp only [unbindEach, unbind, unbindLinks_congr hends, ih]

include hnode hends in
theorem recoverEach_congr (sysConfig : String) (names : List String) :
    recoverEach t sysConfig names = recoverEach t' sysConfig names := by
  induction names with
  | nil => rfl
  | cons name more ih =>
    funext b
    simp only [recoverEach, hnode, recoverLinks_congr hends, ih]

end Congruence

end Bindings

/-- The documents of two topologies: the same devices, the same ports, and the same properties for
each link. The subject of a link is written the other way round if its ends are. -/
structure NetworkConfig.Turned (t t' : Topology) (c c' : NetworkConfig) : Prop where
  devices : c.devices = c'.devices
  ports : c.ports = c'.ports
  keys : (c.links.keys.map some).Perm (t.opticalLinks.map t.linkSubject?)
  keys' : (c'.links.keys.map some).Perm (t'.opticalLinks.map t'.linkSubject?)
  links : ∀ id l l', t.link? id = some l → t'.link? id = some l' → l.isOptical = true →
    ∃ src dst basics, t.endSubject? l.a = some src ∧ t.endSubject? l.b = some dst ∧
      c.links.get? (src ++ "-" ++ dst) = some basics ∧
      (l' = l → c'.links.get? (src ++ "-" ++ dst) = some basics) ∧
      (l' = l.turn → c'.links.get? (dst ++ "-" ++ src) = some basics)

namespace Topology.Turned

theorem ofTopology (h : t.Turned t') : Bindings.ofTopology t = Bindings.ofTopology t' := by
  rw [Bindings.ofTopology, h.nodes, h.crossConnectsOf, ← Bindings.ofTopology]

theorem devices (h : t.Turned t') (scope : Scope) (macOf : String → Option String) :
    (Inventory.ofTopology t scope macOf).devices =
      (Inventory.ofTopology t' scope macOf).devices := by
  have hnode : DeviceDescriptor.ofNode t macOf = DeviceDescriptor.ofNode t' macOf := by
    funext n
    rw [DeviceDescriptor.ofNode, h.ports, ← DeviceDescriptor.ofNode]
  rw [Inventory.ofTopology, h.nodes, hnode]
  rfl

theorem get?_links (h : t.WellFormed) {l : Link} (hl : l ∈ t.links) (ho : l.isOptical = true)
    (scope : Scope) (macOf : String → Option String) : ∃ d : LinkDescriptor, d.Describes t l ∧
      (NetworkConfig.ofInventory (.ofTopology t scope macOf)).links.get?
        (d.src ++ "-" ++ d.dst) = some (NetworkConfig.linkBasics d) := by
  obtain ⟨d, hof, hd⟩ := h.exists_describes hl
  have hmem : d ∈ (Inventory.ofTopology t scope macOf).links :=
    List.mem_filterMap.2 ⟨l, mem_opticalLinks.2 ⟨hl, ho⟩, hof⟩
  exact ⟨d, hd, Dict.get?_ofList_rows (h.linkKeys_nodup scope macOf) hmem⟩

theorem networkConfig (h : t.Turned t') (scope : Scope) (macOf : String → Option String) :
    NetworkConfig.Turned t t' (.ofInventory (.ofTopology t scope macOf))
      (.ofInventory (.ofTopology t' scope macOf)) := by
  constructor
  case devices => rw [NetworkConfig.ofInventory, h.devices]; rfl
  case ports => rw [NetworkConfig.ofInventory, h.devices]; rfl
  case keys => exact (h.left.describes scope macOf).links
  case keys' => exact (h.right.describes scope macOf).links
  case links =>
    intro id l l' hl hl' ho
    have hend : t.endSubject? = t'.endSubject? := by
      funext e
      rw [endSubject?, h.node?, ← endSubject?]
    have ho' : l'.isOptical = true := (h.of_link? hl hl').isOptical ▸ ho
    obtain ⟨d, hd, hget⟩ := get?_links h.left (List.mem_of_getElem? hl) ho scope macOf
    obtain ⟨d', hd', hget'⟩ := get?_links h.right (List.mem_of_getElem? hl') ho' scope macOf
    -- only the keys tell the ends apart
    have hbasics : l'.kind = l.kind → l'.annotations = l.annotations →
        NetworkConfig.linkBasics d' = NetworkConfig.linkBasics d := by
      intro hkind hannotations
      rw [NetworkConfig.linkBasics, NetworkConfig.linkBasics, hd.type, hd'.type, hkind,
        hd.annotations, hd'.annotations, hannotations]
    refine ⟨d.src, d.dst, _, hd.src, hd.dst, hget, ?_, ?_⟩
    · rintro rfl
      have hsrc : d'.src = d.src := Option.some.inj (hd'.src.symm.trans (hend ▸ hd.src))
      have hdst : d'.dst = d.dst := Option.some.inj (hd'.dst.symm.trans (hend ▸ hd.dst))
      rwa [hsrc, hdst, hbasics rfl rfl] at hget'
    · rintro rfl
      have hsrc : d'.src = d.dst := Option.some.inj (hd'.src.symm.trans (hend ▸ hd.dst))
      have hdst : d'.dst = d.src := Option.some.inj (hd'.dst.symm.trans (hend ▸ hd.src))
      rwa [hsrc, hdst, hbasics rfl rfl] at hget'

end Topology.Turned

/-- All that a topology tells without looking at which end of a link is written first. -/
structure Topology.Indistinct (t t' : Topology) : Prop where
  links : List.Forall₂ Link.Turned t.links t'.links
  scope : t.scope = t'.scope
  ports : t.ports = t'.ports
  kinds : ∀ id l l', t.link? id = some l → t'.link? id = some l' →
    t.opticalKind? l = t'.opticalKind? l'
  crossConnects : t.crossConnects = t'.crossConnects
  crossConnectsOf : t.crossConnectsOf = t'.crossConnectsOf
  crossConnectEnds : t.crossConnectEnds? = t'.crossConnectEnds?
  /-- With the same table the same is called, and the same table is left. -/
  detached : Bindings.ofTopology t = Bindings.ofTopology t'
  bindAll : ∀ (b : Bindings) o sysConfig w, b.bindAll o t sysConfig w = b.bindAll o t' sysConfig w
  unbindAll : ∀ (b : Bindings) o w, b.unbindAll o t w = b.unbindAll o t' w
  recover : ∀ (b : Bindings) sysConfig, b.recover t sysConfig = b.recover t' sysConfig
  documents : ∀ scope macOf, NetworkConfig.Turned t t' (.ofInventory (.ofTopology t scope macOf))
    (.ofInventory (.ofTopology t' scope macOf))

theorem Topology.Turned.indistinct (h : t.Turned t') : t.Indistinct t' where
  links := h.links
  scope := h.scope
  ports := h.ports
  kinds _ _ _ hl hl' := h.opticalKind? (h.of_link? hl hl')
  crossConnects := h.crossConnects
  crossConnectsOf := h.crossConnectsOf
  crossConnectEnds := h.crossConnectEnds?
  detached := h.ofTopology
  bindAll b o sysConfig w := by
    rw [Bindings.bindAll, Bindings.bindEach_congr h.node? h.crossConnectEnds?, ← Bindings.bindAll]
  unbindAll b o w := by
    rw [Bindings.unbindAll, Bindings.unbindEach_congr h.crossConnectEnds?, ← Bindings.unbindAll]
  recover b sysConfig := by
    rw [Bindings.recover, Bindings.recoverEach_congr h.node? h.crossConnectEnds?,
      ← Bindings.recover]
  documents := h.networkConfig

/-- A list in which chosen items are turned. -/
def turnAt {α : Type} (chosen : Nat → Bool) (turn : α → α) (as : List α) : List α :=
  as.mapIdx fun i a => if chosen i then turn a else a

theorem forall₂_turnAt {α : Type} (chosen : Nat → Bool) (turn : α → α) (as : List α) :
    List.Forall₂ (fun a a' => a' = a ∨ a' = turn a) as (turnAt chosen turn as) := by
  refine List.forall₂_iff_get.2 ⟨by simp [turnAt], fun i hi hi' => ?_⟩
  simp only [turnAt, List.get_eq_getElem, List.getElem_mapIdx]
  cases chosen i
  · exact .inl rfl
  · exact .inr rfl

/-- Links have no direction. Of the requests for a topology, or of the links in its description, let
some be written from the other end: then the same ones are accepted, or the description is accepted
alike. What is told of the topology, what is called to attach and to detach taps, and the table of
them are the same, as is the controller document but for the order in which the keys of these links
name their ends. -/
theorem Topology.direction_immaterial (chosen : Nat → Bool) (requests : List Topology.Request)
    (d : TopologyDescription) :
    let made := run requests .empty
    let made' := run (turnAt chosen Request.turn requests) .empty
    let d' := { d with links := turnAt chosen LinkDescription.turn d.links }
    List.Forall₂ Answer.Agrees made.1 made'.1 ∧ made.2.Indistinct made'.2 ∧
      ((∃ t, d.build = .ok t) ↔ ∃ t', d'.build = .ok t') ∧
      ∀ t t', d.build = .ok t → d'.build = .ok t' → t.Indistinct t' ∧
        ∀ id, t'.link? id = (t.link? id).map fun l => if chosen id then l.turn else l := by
  intro made made' d'
  have hrun := (Turned.refl WellFormed.empty).run (forall₂_turnAt chosen Request.turn requests)
  have hbuild : Alike Turned d.build d'.build := TopologyDescription.build_alike rfl
    (forall₂_turnAt chosen LinkDescription.turn d.links) rfl
  refine ⟨hrun.1, hrun.2.indistinct, hbuild.iff, fun t t' ok ok' => ?_⟩
  rw [ok, ok'] at hbuild
  refine ⟨hbuild.rel.indistinct, fun id => ?_⟩
  obtain ⟨-, -, hlinks⟩ := TopologyDescription.build_ok ok
  obtain ⟨-, -, hlinks'⟩ := TopologyDescription.build_ok ok'
  rw [link?, link?, hlinks, hlinks']
  simp only [d', turnAt, List.getElem?_map, List.getElem?_mapIdx, Option.map_map]
  congr 1
  funext l
  simp only [Function.comp_apply]
  split <;> rfl

end OpticalTestbed
