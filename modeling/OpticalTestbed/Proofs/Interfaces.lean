import OpticalTestbed.Proofs.Calls
import OpticalTestbed.Proofs.Dict
import OpticalTestbed.Proofs.Text.Chars
import OpticalTestbed.Proofs.Text.Split
import OpticalTestbed.Proofs.Traces
/-!
Which interfaces a listing reports, and what was called when taps have been looked after: those that
were not listed were created, and all were brought up.
-/
namespace OpticalTestbed.Interfaces

variable {o : Outside} {w w' : World} {listed : List String} {trace more : List Occurrence}
  {tap : String}

section Listings

/-- A line of a listing is about an interface. Behind its index and a colon it shows the name,
between blanks and perhaps with a peer behind an at sign, up to the next colon if there is one. -/
def ShownOn (line name : List Char) : Prop :=
  ∃ index field rest label, line = index ++ ':' :: (field ++ rest) ∧ ':' ∉ index ∧ ':' ∉ field ∧
    (rest = [] ∨ ∃ more, rest = ':' :: more) ∧ Text.PaddedBy Text.isBlank label field ∧
    name ≠ [] ∧ '@' ∉ name ∧ (label = name ∨ ∃ peer, label = name ++ '@' :: peer)

/-- A listing reports an interface if one of its lines is about it. -/
def Reports (listing name : String) : Prop :=
  ∃ line ∈ Text.lines listing.toList, ShownOn line name.toList

theorem nameOfLine?_eq_some_iff {line name : List Char} :
    nameOfLine? line = some name ↔ ShownOn line name := by
  constructor
  · intro h
    unfold nameOfLine? at h
    split at h
    · rename_i index field more hsplit
      dsimp only at h
      split at h
      · cases h
      · rename_i hne
        obtain ⟨hindex, hfield, rest, hline, hrest⟩ := Text.exists_splitOn_iff.1 ⟨more, hsplit⟩
        obtain ⟨hat, hlabel⟩ := Text.takeWhile_ne_eq_iff.1 (Option.some.inj h)
        refine ⟨index, field, rest, _, hline, hindex, hfield, hrest, Text.trim_eq_iff.1 rfl, ?_,
          hat, hlabel⟩
        rwa [← Option.some.inj h, Ne, ← List.isEmpty_iff]
    · cases h
  · rintro ⟨index, field, rest, label, hline, hindex, hfield, hrest, hpadded, hne, hat, hlabel⟩
    obtain ⟨more, hsplit⟩ := Text.exists_splitOn_iff.2 ⟨hindex, hfield, rest, hline, hrest⟩
    have hname := Text.takeWhile_ne_eq_iff.2 ⟨hat, hlabel⟩
    unfold nameOfLine?
    rw [hsplit]
    dsimp only
    rw [Text.trim_eq_iff.2 hpadded, hname, if_neg (List.isEmpty_iff.not.2 hne)]

/-- The names of a listing are those of the interfaces that it reports. -/
theorem mem_names_iff {listing name : String} : name ∈ names listing ↔ Reports listing name := by
  simp only [names, Reports, List.mem_map, List.mem_filterMap, ← nameOfLine?_eq_some_iff]
  constructor
  · rintro ⟨cs, ⟨line, hline, hcs⟩, rfl⟩
    exact ⟨line, hline, by rw [hcs, String.toList_ofList]⟩
  · rintro ⟨line, hline, hname⟩
    exact ⟨name.toList, ⟨line, hline, hname⟩, String.ofList_toList⟩

end Listings

/-- The calls that bring up a tap which is among those listed or not, and how they end. -/
inductive AmongCalls (listed : List String) (tap : String) :
    Except Failure Unit → List Event → Prop
  | there {output : String} : tap ∈ listed →
    AmongCalls listed tap (.ok ()) [.ran (upCall tap) (.ok output)]
  | created {added raised : String} : tap ∉ listed → AmongCalls listed tap (.ok ())
      [.ran (addCall tap) (.ok added), .ran (upCall tap) (.ok raised)]
  | down {e : Failure} : tap ∈ listed →
    AmongCalls listed tap (.error e) [.ran (upCall tap) (.error e)]
  | uncreated {e : Failure} : tap ∉ listed →
    AmongCalls listed tap (.error e) [.ran (addCall tap) (.error e)]
  | createdDown {added : String} {e : Failure} : tap ∉ listed → AmongCalls listed tap (.error e)
      [.ran (addCall tap) (.ok added), .ran (upCall tap) (.error e)]

/-- The calls that make sure of a tap: a listing, and what it leaves to do. -/
inductive EnsureCalls (tap : String) : Except Failure Unit → List Event → Prop
  | unlisted {e : Failure} : EnsureCalls tap (.error e) [.ran showCall (.error e)]
  | listed {output : String} {answer : Except Failure Unit} {es : List Event} :
    AmongCalls (names output) tap answer es →
    EnsureCalls tap answer (.ran showCall (.ok output) :: es)

theorem tells_up : (o.call (upCall tap) >>= fun _ => (pure () : Op Unit)).Tells fun r es =>
    ∃ answer : Except Failure String,
      r = answer.map (fun _ => ()) ∧ es = [.ran (upCall tap) answer] := by
  refine (Op.tells_call o _).bind (fun _ => Op.tells_pure ()) ?_ ?_
  · rintro e es rfl
    exact ⟨.error e, rfl, rfl⟩
  · rintro output first r more rfl ⟨rfl, rfl⟩
    exact ⟨.ok output, rfl, rfl⟩

theorem contains_ofList : Dict.contains (KeySet.ofList listed) tap = decide (tap ∈ listed) := by
  rw [Bool.eq_iff_iff, KeySet.contains_iff, KeySet.mem_toList_ofList, decide_eq_true_eq]

theorem tells_ensureAmong (o : Outside) (listed : List String) (tap : String) :
    (ensureAmong o (KeySet.ofList listed) tap).Tells (AmongCalls listed tap) := by
  unfold ensureAmong
  rw [contains_ofList]
  split
  · rename_i hlisted
    have hnot : tap ∉ listed := by simpa using hlisted
    refine (Op.tells_call o _).bind (fun _ => tells_up) ?_ ?_
    · rintro e es rfl
      exact .uncreated hnot
    · rintro added first r more rfl ⟨answer, rfl, rfl⟩
      cases answer with
      | error e => exact .createdDown hnot
      | ok raised => exact .created hnot
  · rename_i hlisted
    have hmem : tap ∈ listed := by simpa using hlisted
    refine tells_up.imp ?_
    rintro r es ⟨answer, rfl, rfl⟩
    cases answer with
    | error e => exact .down hmem
    | ok output => exact .there hmem

/-- A tap is looked after by what a listing shows. -/
theorem ensure_eq (o : Outside) (tap : String) : ensure o tap =
    o.call showCall >>= fun output => ensureAmong o (KeySet.ofList (names output)) tap := by
  simp only [ensure, present, bind_assoc, pure_bind]

theorem tells_ensure (o : Outside) (tap : String) : (ensure o tap).Tells (EnsureCalls tap) := by
  rw [ensure_eq]
  refine (Op.tells_call o _).bind (fun _ => tells_ensureAmong o _ tap) ?_ ?_
  · rintro e es rfl
    exact .unlisted
  · rintro output first r more rfl hmore
    exact .listed hmore

/-- In a trace a tap is created, unless it was listed before, and brought up. -/
structure Provides (listed : List String) (trace : List Occurrence) (tap : String) : Prop where
  added : tap ∉ listed → ∃ c ∈ trace, ∃ output, c.event = .ran (addCall tap) (.ok output)
  raised : ∃ c ∈ trace, ∃ output, c.event = .ran (upCall tap) (.ok output)

theorem Provides.mono (h : Provides listed trace tap) (hsub : trace ⊆ more) :
    Provides listed more tap where
  added hl := (h.added hl).imp fun _ hc => ⟨hsub hc.1, hc.2⟩
  raised := h.raised.imp fun _ hc => ⟨hsub hc.1, hc.2⟩

/-- The calls that bring up a tap provide for it. -/
theorem AmongCalls.provides (h : AmongCalls listed tap (.ok ()) (trace.map (·.event))) :
    (∀ c ∈ trace, c.event.Runs IsCall) ∧ Provides listed trace tap := by
  have hfound : ∀ e ∈ trace.map (·.event), ∃ c ∈ trace, c.event = e := fun _ => List.mem_map.1
  have hruns : (∀ e ∈ trace.map (·.event), e.Runs IsCall) → ∀ c ∈ trace, c.event.Runs IsCall :=
    fun hall c hc => hall c.event (List.mem_map_of_mem hc)
  generalize trace.map (·.event) = es at h hfound hruns
  cases h with
  | @there output hlisted =>
    obtain ⟨c, hc, hraised⟩ := hfound _ List.mem_cons_self
    exact ⟨hruns (by simpa [Event.Runs] using IsCall.up tap),
      fun hl => absurd hlisted hl, c, hc, output, hraised⟩
  | @created added raised hlisted =>
    obtain ⟨c, hc, hadded⟩ := hfound _ List.mem_cons_self
    obtain ⟨c', hc', hraised⟩ := hfound _ (List.mem_cons_of_mem _ List.mem_cons_self)
    exact ⟨hruns (by simpa [Event.Runs] using ⟨IsCall.add tap, IsCall.up tap⟩),
      fun _ => ⟨c, hc, added, hadded⟩, c', hc', raised, hraised⟩

/-- What makes sure of a tap fails as one of its calls does. -/
theorem EnsureCalls.error_iff {r : Except Failure Unit} {es : List Event}
    (h : EnsureCalls tap r es) (e : Failure) : r = .error e ↔ ∃ c ∈ es, c.FailsWith e := by
  cases h with
  | unlisted => simp [Event.FailsWith]
  | listed hmore => cases hmore <;> simp [Event.FailsWith]

theorem reports_ensure (tap : String) : (ensure o tap).Reports :=
  (tells_ensure o tap).reports fun _ _ h => h.error_iff

section Every

variable {taps : List String} {e : Failure} {created : Nat} {es : List Event}

/-- The calls that bring up some taps, up to the first that fails, and what they come to: the number
of taps that were not listed. -/
inductive EachCalls (listed : List String) :
    List String → Except Failure Nat → List Event → Prop
  | done : EachCalls listed [] (.ok 0) []
  | next {tap : String} {taps : List String} {created : Nat} {first more : List Event} :
    AmongCalls listed tap (.ok ()) first → EachCalls listed taps (.ok created) more →
    EachCalls listed (tap :: taps) (.ok (if tap ∈ listed then created else created + 1))
      (first ++ more)
  | stopped {tap : String} {taps : List String} {e : Failure} {first : List Event} :
    AmongCalls listed tap (.error e) first → EachCalls listed (tap :: taps) (.error e) first
  | later {tap : String} {taps : List String} {e : Failure} {first more : List Event} :
    AmongCalls listed tap (.ok ()) first → EachCalls listed taps (.error e) more →
    EachCalls listed (tap :: taps) (.error e) (first ++ more)

theorem tells_ensureEach (o : Outside) (listed taps : List String) :
    (ensureEach o (KeySet.ofList listed) taps).Tells (EachCalls listed taps) := by
  induction taps with
  | nil =>
    refine (Op.tells_pure 0).imp ?_
    rintro r es ⟨rfl, rfl⟩
    exact .done
  | cons tap taps ih =>
    have hmore : (ensureEach o (KeySet.ofList listed) taps >>= fun created =>
        (pure (if Dict.contains (KeySet.ofList listed) tap then created else created + 1) :
          Op Nat)).Tells fun r es => ∃ answer, EachCalls listed taps answer es ∧
        r = answer.map fun created => if tap ∈ listed then created else created + 1 := by
      refine ih.bind (fun _ => Op.tells_pure _) ?_ ?_
      · intro e es hfailed
        exact ⟨_, hfailed, rfl⟩
      · rintro created es r more hdone ⟨rfl, rfl⟩
        rw [List.append_nil, contains_ofList]
        exact ⟨_, hdone, by simp [Except.map]⟩
    refine (tells_ensureAmong o listed tap).bind (fun _ => hmore) ?_ ?_
    · intro e es hfailed
      exact .stopped hfailed
    · rintro _ first r more hfirst ⟨answer, hrest, rfl⟩
      cases answer with
      | error e => exact .later hfirst hrest
      | ok created => exact .next hfirst hrest

theorem EachCalls.provides {r : Except Failure Nat} (h : EachCalls listed taps r es)
    (hr : r = .ok created) (hes : trace.map (·.event) = es) :
    (∀ c ∈ trace, c.event.Runs IsCall) ∧ ∀ tap ∈ taps, Provides listed trace tap := by
  induction h generalizing trace created with
  | done =>
    obtain rfl := List.map_eq_nil_iff.1 hes
    simp
  | next hfirst _ ih =>
    obtain ⟨first, more, rfl, rfl, hmore⟩ := List.map_eq_append_iff.1 hes
    obtain ⟨hcalls, hprovides⟩ := hfirst.provides
    obtain ⟨hothers, hall⟩ := ih rfl hmore
    refine ⟨List.forall_mem_append.2 ⟨hcalls, hothers⟩, List.forall_mem_cons.2 ⟨?_, fun t ht => ?_⟩⟩
    · exact hprovides.mono (List.subset_append_left _ _)
    · exact (hall t ht).mono (List.subset_append_right _ _)
  | stopped => cases hr
  | later => cases hr

theorem ensureAll_eq (o : Outside) (taps : List String) : ensureAll o taps =
    o.call showCall >>= fun output => ensureEach o (KeySet.ofList (names output)) taps := by
  simp only [ensureAll, present, bind_assoc, pure_bind]

/-- Taps are looked after by what one listing shows. -/
theorem ensureAll_ok {n : Nat} (h : ensureAll o taps w = (.ok n, w')) :
    ∃ output rest, w.Traces w' (⟨.ran showCall (.ok output), w.files⟩ :: rest) ∧
      (∀ c ∈ rest, c.event.Runs IsCall) ∧
      ∀ tap ∈ taps, Provides (names output) rest tap := by
  rw [ensureAll_eq] at h
  obtain ⟨output, v, called, ensured⟩ := Op.bind_ok h
  have hshown := o.traces_call w showCall
  rw [called] at hshown
  obtain ⟨rest, hrest, hcalls⟩ := tells_ensureEach o (names output) taps v
  rw [ensured] at hrest hcalls
  exact ⟨output, rest, hshown.append hrest, hcalls.provides rfl rfl⟩

/-- The calls that a tap takes which is listed or not. -/
def callsFor (listed : List String) (tap : String) : List Invocation :=
  if tap ∈ listed then [upCall tap] else [addCall tap, upCall tap]

/-- Some calls, made one after another and answered each. -/
def Answered (calls : List Invocation) (es : List Event) : Prop :=
  List.Forall₂ (fun call e => ∃ output, e = .ran call (.ok output)) calls es

/-- Every call came to an answer. -/
def NoneFails (es : List Event) : Prop := ∀ c ∈ es, ∀ e, ¬c.FailsWith e

theorem noneFails_append {fs : List Event} :
    NoneFails (es ++ fs) ↔ NoneFails es ∧ NoneFails fs := List.forall_mem_append

/-- What looking after taps comes to, unless a call fails: one listing, then the calls that each tap
takes by the interfaces that it reports, and the number of taps that it does not report. -/
def Ensures (taps : List String) (r : Except Failure Nat) (es : List Event) : Prop :=
  NoneFails es → ∃ listing there rest,
    es = .ran showCall (.ok listing) :: rest ∧ (∀ name, name ∈ there ↔ Reports listing name) ∧
    Answered (taps.flatMap (callsFor there)) rest ∧ r = .ok (taps.countP (· ∉ there))

theorem AmongCalls.answered {r : Except Failure Unit}
    (h : AmongCalls listed tap r es) (hnone : NoneFails es) :
    r = .ok () ∧ Answered (callsFor listed tap) es := by
  unfold callsFor
  cases h with
  | there hmem =>
    rw [if_pos hmem]
    exact ⟨rfl, .cons ⟨_, rfl⟩ .nil⟩
  | created hmem =>
    rw [if_neg hmem]
    exact ⟨rfl, .cons ⟨_, rfl⟩ (.cons ⟨_, rfl⟩ .nil)⟩
  | @down e => exact absurd rfl (hnone _ List.mem_cons_self e)
  | @uncreated e => exact absurd rfl (hnone _ List.mem_cons_self e)
  | @createdDown _ e =>
    exact absurd rfl (hnone _ (List.mem_cons_of_mem _ List.mem_cons_self) e)

theorem EachCalls.answered {r : Except Failure Nat} (h : EachCalls listed taps r es)
    (hnone : NoneFails es) :
    Answered (taps.flatMap (callsFor listed)) es ∧ r = .ok (taps.countP (· ∉ listed)) := by
  induction h with
  | done => exact ⟨.nil, rfl⟩
  | @next tap taps created first more hfirst _ ih =>
    rw [noneFails_append] at hnone
    obtain ⟨hcalls, hcreated⟩ := ih hnone.2
    cases hcreated
    refine ⟨List.rel_append (hfirst.answered hnone.1).2 hcalls, congrArg Except.ok ?_⟩
    rw [List.countP_cons]
    by_cases hmem : tap ∈ listed <;> simp [hmem]
  | stopped hfirst => cases (hfirst.answered hnone).1
  | later _ _ ih => cases (ih (noneFails_append.1 hnone).2).2

theorem tells_ensureAll (o : Outside) (taps : List String) :
    (ensureAll o taps).Tells (Ensures taps) := by
  rw [ensureAll_eq]
  refine (Op.tells_call o _).bind (fun output => tells_ensureEach o (names output) taps) ?_ ?_
  · rintro e es rfl hnone
    exact absurd rfl (hnone _ List.mem_cons_self e)
  · rintro output first r more rfl hmore hnone
    exact ⟨output, names output, more, rfl, fun _ => mem_names_iff,
      hmore.answered (noneFails_append.1 hnone).2⟩

end Every

end OpticalTestbed.Interfaces
