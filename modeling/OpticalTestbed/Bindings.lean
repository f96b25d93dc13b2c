import OpticalTestbed.Topology.Graph
/-!
Which cross-connects of each ROADM have a tap bound to the packet switch at their far end. Every
cross-connect is either attached, with its tap, or detached.
-/
namespace OpticalTestbed

/-- The cross-connects of one ROADM. -/
structure RoadmBindings where
  attached : Dict LinkId String
  detached : KeySet LinkId

namespace RoadmBindings

def allDetached (links : List LinkId) : RoadmBindings := ⟨Dict.empty, KeySet.ofList links⟩

def markAttached (b : RoadmBindings) (link : LinkId) (tap : String) : RoadmBindings where
  attached := b.attached.insert link tap
  detached := b.detached.erase link

def markDetached (b : RoadmBindings) (link : LinkId) : RoadmBindings where
  attached := b.attached.erase link
  detached := b.detached.add link

/-- Whether no link is in both sets and every link that is expected is in one of them. -/
def covers (b : RoadmBindings) (expected : List LinkId) : Bool :=
  b.attached.keys.all (fun id => !Dict.contains b.detached id) &&
    (KeySet.ofList (b.attached.keys ++ b.detached.toList)).toList =
      (KeySet.ofList expected).toList

end RoadmBindings

/-- The bindings of every ROADM, by name. -/
structure Bindings where
  roadms : Dict String RoadmBindings

namespace Bindings

/-- Every cross-connect of every ROADM, detached. -/
def ofTopology (t : Topology) : Bindings :=
  ⟨Dict.ofList ((t.nodes.filter (·.isRoadm)).map (fun n =>
    (n.name, RoadmBindings.allDetached (t.crossConnectsOf n.name))))⟩

def roadm? (b : Bindings) (name : String) : Option RoadmBindings := b.roadms.get? name

/-- Changes the bindings of one ROADM, if it is there. -/
def update (b : Bindings) (name : String) (f : RoadmBindings → RoadmBindings) : Bindings :=
  match b.roadm? name with
  | some r => ⟨b.roadms.insert name (f r)⟩
  | none => b

def markAttached (b : Bindings) (name : String) (link : LinkId) (tap : String) : Bindings :=
  b.update name (·.markAttached link tap)

def markDetached (b : Bindings) (name : String) (link : LinkId) : Bindings :=
  b.update name (·.markDetached link)

def roadmNames (b : Bindings) : List String := b.roadms.keys

/-- Every attached link and its tap: by ROADM, then by link. -/
def attached (b : Bindings) : List (LinkId × String) :=
  b.roadms.values.flatMap (fun r => r.attached.entries)

def attachedCount (b : Bindings) : Nat := b.attached.length

/-- Whether the bindings of every ROADM cover exactly its cross-connects. -/
def isConsistent (b : Bindings) (t : Topology) : Bool :=
  b.roadms.entries.all (fun e => e.2.covers (t.crossConnectsOf e.1))

end Bindings

end OpticalTestbed
