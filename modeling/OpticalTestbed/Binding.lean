import OpticalTestbed.Bindings
import OpticalTestbed.Interfaces
/-!
Attaching and detaching the taps of cross-connects. A link that cannot be attached stays detached
and leaves a warning; a link whose tap the host does not give up counts as detached all the same.
-/
namespace OpticalTestbed

/-- What came of an attempt to attach links. -/
structure BindReport where
  bound : List (LinkId × String)
  warnings : List Failure

namespace BindReport

def empty : BindReport := ⟨[], []⟩

def append (r s : BindReport) : BindReport := ⟨r.bound ++ s.bound, r.warnings ++ s.warnings⟩

end BindReport

/-- The lookup of the tap behind a ROADM's port, as a warning when it fails. -/
def tapBehind (sysConfig : String) (dpid : Dpid) (port : Nat) : Except Failure String :=
  match SysConfig.tapOf sysConfig dpid.text port with
  | .ok tap => .ok tap
  | .error miss => .error (.discoveryMiss dpid.text port miss)

/-- Brings the tap of a cross-connect up and hands it to the packet switch; the tap. -/
def attachLink (o : Outside) (sysConfig : String) (roadm : Node) (roadmEnd packetEnd : Endpoint) :
    Op String := fun w =>
  match tapBehind sysConfig roadm.dpid roadmEnd.port with
  | .error e => (.error e, w)
  | .ok tap =>
    match Interfaces.ensure o tap w with
    | (.error e, w) => (.error e, w)
    | (.ok _, w) =>
      match o.attachTap packetEnd.node tap w with
      | (.error e, w) => (.error e, w)
      | (.ok _, w) => (.ok tap, w)

namespace Bindings

variable (o : Outside) (t : Topology)

/-- Tries to attach some links of a ROADM, one after the other. -/
def bindLinks (sysConfig : String) (roadm : Node) :
    List LinkId → Bindings → World → BindReport × Bindings × World
  | [], b, w => (.empty, b, w)
  | link :: more, b, w =>
    match t.crossConnectEnds? link with
    | none => bindLinks sysConfig roadm more b w
    | some (roadmEnd, packetEnd) =>
      match attachLink o sysConfig roadm roadmEnd packetEnd w with
      | (.ok tap, w) =>
        let (r, b, w) := bindLinks sysConfig roadm more (b.markAttached roadm.name link tap) w
        (.append ⟨[(link, tap)], []⟩ r, b, w)
      | (.error e, w) =>
        let (r, b, w) := bindLinks sysConfig roadm more b w
        (.append ⟨[], [e]⟩ r, b, w)

/-- Tries to attach the detached links of one ROADM, in ascending order. -/
def bindDetached (b : Bindings) (sysConfig name : String) (w : World) :
    BindReport × Bindings × World :=
  match b.roadm? name, t.node? name with
  | some r, some node => bindLinks o t sysConfig node r.detached.toList b w
  | _, _ => (.empty, b, w)

def bindEach (sysConfig : String) : List String → Bindings → World → BindReport × Bindings × World
  | [], b, w => (.empty, b, w)
  | name :: more, b, w =>
    let (r, b, w) := b.bindDetached o t sysConfig name w
    let (rs, b, w) := bindEach sysConfig more b w
    (r.append rs, b, w)

/-- Tries to attach every detached link, ROADM after ROADM. -/
def bindAll (b : Bindings) (sysConfig : String) (w : World) : BindReport × Bindings × World :=
  bindEach o t sysConfig b.roadmNames b w

/-- Detaches some links of a ROADM from the taps they are recorded with. -/
def unbindLinks (name : String) : List (LinkId × String) → Bindings → World →
    List Failure × Bindings × World
  | [], b, w => ([], b, w)
  | (link, tap) :: more, b, w =>
    let b := b.markDetached name link
    match t.crossConnectEnds? link with
    | none => unbindLinks name more b w
    | some (_, packetEnd) =>
      let (answer, w) := o.detachTap packetEnd.node tap w
      let (es, b, w) := unbindLinks name more b w
      (match answer with
        | .ok _ => es
        | .error e => e :: es, b, w)

/-- Detaches every attached link of one ROADM, in ascending order. -/
def unbind (b : Bindings) (name : String) (w : World) : List Failure × Bindings × World :=
  match b.roadm? name with
  | some r => unbindLinks o t name r.attached.entries b w
  | none => ([], b, w)

def unbindEach : List String → Bindings → World → List Failure × Bindings × World
  | [], b, w => ([], b, w)
  | name :: more, b, w =>
    let (es, b, w) := b.unbind o t name w
    let (fs, b, w) := unbindEach more b w
    (es ++ fs, b, w)

/-- Detaches every attached link, ROADM after ROADM. -/
def unbindAll (b : Bindings) (w : World) : List Failure × Bindings × World :=
  unbindEach o t b.roadmNames b w

/-- Marks as attached those links of a ROADM whose tap a `sys.config` names; their number. -/
def recoverLinks (sysConfig : String) (roadm : Node) : List LinkId → Bindings → Nat × Bindings
  | [], b => (0, b)
  | link :: more, b =>
    match t.crossConnectEnds? link with
    | none => recoverLinks sysConfig roadm more b
    | some (roadmEnd, _) =>
      match tapBehind sysConfig roadm.dpid roadmEnd.port with
      | .ok tap =>
        let (n, b) := recoverLinks sysConfig roadm more (b.markAttached roadm.name link tap)
        (n + 1, b)
      | .error _ => recoverLinks sysConfig roadm more b

def recoverEach (sysConfig : String) : List String → Bindings → Nat × Bindings
  | [], b => (0, b)
  | name :: more, b =>
    match t.node? name, b.roadm? name with
    | some node, some r =>
      let (n, b) := recoverLinks t sysConfig node r.detached.toList b
      let (m, b) := recoverEach sysConfig more b
      (n + m, b)
    | _, _ => recoverEach sysConfig more b

/-- Marks as attached every detached link whose tap a `sys.config` names, without asking the host:
what an earlier bring-up with that file attached. -/
def recover (b : Bindings) (sysConfig : String) : Nat × Bindings :=
  recoverEach t sysConfig b.roadmNames b

end Bindings

end OpticalTestbed
