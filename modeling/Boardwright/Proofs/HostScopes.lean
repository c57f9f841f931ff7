import Boardwright.Proofs.HostObjects
import Boardwright.Proofs.NestedCalls
import Mathlib.Data.List.ModifyLast

/-!
# The class under construction

The host API opens a class when an instance with a CPU binding is entered, adds a
port to the innermost open class for every CPU binding that gets a stream, and
closes it when the instance is left.  Whether an instance has a CPU binding is
asked of its bindings as they are written; which bindings get a call is found out
by the walk.

`Balanced` is the invariant that ties the open classes to the instance being walked
and the classes laid out so far to those that are finished.  `visit_balanced` is
one call and `follow_balanced` are the steps of a walk.  `class_scopes_balanced`
is the result for every board.
-/

namespace Boardwright.Host

/-- What a call makes of the classes laid out so far, which are listed as they were opened. -/
def lay (laid : List Scope) : Call → List Scope
  | .enter site => if site.inst.hasCpuBinding then laid ++ [{ cls := emptyClass site.inst.name }]
      else laid
  | .axis a => laid.modifyLast (addPort a.port a.streams)
  | _ => laid

/-- The classes that some calls lay out.  An instance with a CPU binding opens one, and
a bound port goes to the one that was opened last. -/
def layout (calls : List Call) : List Scope := calls.foldl lay []

/-- The open classes are those of the instance being walked, and a class that was laid
out is finished or open. -/
structure Balanced (inst : Option Instance) (laid : List Scope) (s : State) : Prop where
  current : s.scopes.map (·.cls.name) = (inst.filter Instance.hasCpuBinding).toList.map (·.name)
  built : ∃ built, laid = built ++ s.scopes ∧ s.components.classes = built.map Scope.cls

theorem balanced_start (o : Options) : Balanced none [] (start o) := ⟨rfl, [], rfl, rfl⟩

namespace Balanced

variable {inst : Instance} {laid : List Scope} {s : State}

theorem closed (h : Balanced none laid s) : s.scopes = [] := List.map_eq_nil_iff.1 h.current

theorem unhosted (h : Balanced (some inst) laid s) (hhost : inst.hasCpuBinding = false) :
    s.scopes = [] := by
  have hcurrent := h.current
  rw [Option.filter_some, hhost] at hcurrent
  exact List.map_eq_nil_iff.1 hcurrent

/-- Within an instance with a CPU binding there is one open class, and it is that of the
instance. -/
theorem hosted (h : Balanced (some inst) laid s) (hhost : inst.hasCpuBinding = true) :
    ∃ scope, s.scopes = [scope] ∧ scope.cls.name = inst.name := by
  have hcurrent := h.current
  rw [Option.filter_some, hhost] at hcurrent
  obtain ⟨scope, hscopes, hname⟩ := List.map_eq_singleton_iff.1 hcurrent
  exact ⟨scope, hscopes, hname⟩

/-- Nothing but the open and the finished classes matters. -/
theorem same {i : Option Instance} {s' : State} (h : Balanced i laid s)
    (hscopes : s'.scopes = s.scopes) (hclasses : s'.components.classes = s.components.classes) :
    Balanced i laid s' where
  current := hscopes ▸ h.current
  built := by rw [hscopes, hclasses]; exact h.built

end Balanced

/-! ## One call -/

/-- The answer neither stops the walk nor reports a fault. -/
def Clean (a : Answer State) : Prop := a.stop = none ∧ a.reports = []

/-- Outside of instances no class is opened, closed or finished. -/
theorem visit_outside (b : Board) (c : Counters) {call : Call} (h : call.part ≠ .instances)
    (s : State) : Clean (visit b c call s) ∧ (visit b c call s).state.scopes = s.scopes ∧
      (visit b c call s).state.components.classes = s.components.classes := by
  cases call with
  | enter site => exact absurd rfl h
  | axis a => exact absurd rfl h
  | link l => exact absurd rfl h
  | leave site => exact absurd rfl h
  | medium m =>
    simp only [visit, addMedium]
    cases connection? m with
    | none => exact ⟨⟨rfl, rfl⟩, rfl, rfl⟩
    | some text => exact ⟨⟨rfl, rfl⟩, rfl, rfl⟩
  | _ => exact ⟨⟨rfl, rfl⟩, rfl, rfl⟩

variable {b : Board} {c : Counters} {laid : List Scope} {s : State}

theorem enter_balanced {site : Site} (hhost : site.host = site.inst.hasCpuBinding)
    (h : Balanced none laid s) :
    Clean (enter site s) ∧
      Balanced (some site.inst) (lay laid (.enter site)) (enter site s).state := by
  have hscopes := h.closed
  obtain ⟨built, hlaid, hclasses⟩ := h.built
  unfold enter
  rw [hhost]
  cases hcpu : site.inst.hasCpuBinding with
  | true =>
    refine ⟨⟨rfl, rfl⟩, ?_, built, ?_, hclasses⟩
    · rw [Option.filter_some, hcpu, hscopes]
      rfl
    · simp [lay, hcpu, ScopeStack.push, hscopes, hlaid]
  | false =>
    refine ⟨⟨rfl, rfl⟩, ?_, built, ?_, hclasses⟩
    · simp [hscopes, Option.filter_some, hcpu]
    · simp [lay, hcpu, hlaid]

theorem addAxis_balanced {a : Axis} (hhost : a.inst.hasCpuBinding = true)
    (h : Balanced (some a.inst) laid s) :
    Clean (addAxis a s) ∧ Balanced (some a.inst) (lay laid (.axis a)) (addAxis a s).state := by
  obtain ⟨scope, hscopes, hname⟩ := h.hosted hhost
  obtain ⟨built, hlaid, hclasses⟩ := h.built
  have hanswer : addAxis a s =
      { state := { s with scopes := [addPort a.port a.streams scope] } } := by
    simp only [addAxis, hscopes, ScopeStack.change]
  rw [hanswer]
  refine ⟨⟨rfl, rfl⟩, ?_, built, ?_, hclasses⟩
  · rw [Option.filter_some, hhost]
    exact congrArg (fun name => [name]) hname
  · rw [lay, hlaid, hscopes, List.modifyLast_concat]

theorem leave_balanced {site : Site} (hhost : site.host = site.inst.hasCpuBinding)
    (h : Balanced (some site.inst) laid s) :
    Clean (leave site s) ∧ Balanced none (lay laid (.leave site)) (leave site s).state := by
  obtain ⟨built, hlaid, hclasses⟩ := h.built
  unfold leave
  rw [hhost]
  cases hcpu : site.inst.hasCpuBinding with
  | true =>
    obtain ⟨scope, hscopes, -⟩ := h.hosted hcpu
    simp only [hscopes, ScopeStack.pop]
    refine ⟨⟨rfl, rfl⟩, rfl, built ++ [scope], ?_, ?_⟩
    · simp [lay, hlaid, hscopes]
    · simp [Source.Module.addClass, Source.Module.addAttribute, hclasses]
  | false =>
    have hscopes := h.unhosted hcpu
    refine ⟨⟨rfl, rfl⟩, ?_, built, hlaid, hclasses⟩
    simp [hscopes]

theorem visit_balanced {before after : Option Instance} {call : Call} (b : Board) (c : Counters)
    (hcall : call.Moves before after) (h : Balanced before laid s) :
    Clean (visit b c call s) ∧ Balanced after (lay laid call) (visit b c call s).state := by
  cases hcall with
  | @outside call hpart =>
    obtain ⟨hclean, hscopes, hclasses⟩ := visit_outside b c hpart s
    have hlay : lay laid call = laid := by
      cases call with
      | enter site => exact absurd rfl hpart
      | axis a => exact absurd rfl hpart
      | _ => rfl
    rw [hlay]
    exact ⟨hclean, h.same hscopes hclasses⟩
  | enter hhost => exact enter_balanced hhost h
  | axis hhost => exact addAxis_balanced hhost h
  | link l => exact ⟨⟨rfl, rfl⟩, h⟩
  | leave hhost => exact leave_balanced hhost h

/-! ## A whole walk -/

/-- Steps that do not give up are taken to their end. -/
theorem follow_balanced (o : Options) {steps : List Step} {before after : Option Instance}
    (hsteps : Nested before (steps.filterMap Step.call?) after)
    (hhalts : steps.filterMap Step.halt? = []) {p : Progress State} (hp : p.abort = none)
    (h : Balanced before laid p.state) :
    ((visitor o).follow name b steps p).abort = none ∧
      Balanced after ((steps.filterMap Step.call?).foldl lay laid)
        ((visitor o).follow name b steps p).state := by
  induction steps generalizing before laid p with
  | nil =>
    cases hsteps
    exact ⟨hp, h⟩
  | cons step steps ih =>
    obtain ⟨c, pos, action⟩ := step
    cases action with
    | call call =>
      cases hsteps with
      | cons hcall hrest =>
        obtain ⟨hclean, hnext⟩ := visit_balanced b c hcall h
        have hstep : ((visitor o).perform name b p ⟨c, pos, .call call⟩).abort = none := by
          rw [Visitor.perform_call]
          exact Option.map_eq_none_iff.2 hclean.1
        rw [Visitor.follow_cons_of_none hstep]
        refine ih hrest hhalts hstep ?_
        rw [Visitor.perform_call]
        exact hnext
    | report f =>
      rw [Visitor.follow_cons_of_none (by rw [Visitor.perform_report]; exact hp)]
      exact ih hsteps hhalts hp h
    | halt f => cases hhalts

/-- The walk of the host API after some steps. -/
def progress (o : Options) (b : Board) (steps : List Step) : Progress State :=
  (visitor o).follow name b steps { state := start o }

/-- Wherever a walk has come, the open classes are in balance, and the calls to come are
in order. -/
theorem progress_balanced {o : Options} {front back : List Step} (hsplit : b.steps = front ++ back)
    (hfront : (progress o b front).abort = none) :
    Balanced (Call.walked (front.filterMap Step.call?)) (layout (front.filterMap Step.call?))
        (progress o b front).state ∧
      Nested (Call.walked (front.filterMap Step.call?)) (back.filterMap Step.call?) none := by
  have hsteps := b.steps_nested
  rw [hsplit, List.filterMap_append] at hsteps
  obtain ⟨inst, hnested, hrest⟩ := hsteps.split
  obtain ⟨hhalts, -⟩ := Visitor.follow_unstopped hfront
  obtain rfl : inst = Call.walked (front.filterMap Step.call?) := hnested.foldl_walking
  exact ⟨(follow_balanced o hnested hhalts rfl (balanced_start o)).2, hrest⟩

/-- Wherever the walk over a board has come, there is an open class if and only if an instance
with a CPU binding is being walked, and it is the only one and that of the instance.  Every
class that was opened is finished or open, and there is one finished class for each.

So no call that follows can fail.  A port finds a class to go to, and an instance that is left
finds its class on top and nothing below.  If neither the scheduler nor a device stands in the
way, the walk is not stopped, and in the end every class that was opened is finished. -/
theorem class_scopes_balanced (o : Options) (b : Board) :
    (∀ front back, b.steps = front ++ back → (progress o b front).abort = none →
      ((progress o b front).state.scopes.map fun scope => scope.cls.name) =
          ((Call.walked (front.filterMap Step.call?)).filter
            Instance.hasCpuBinding).toList.map Instance.name ∧
        ∃ built, layout (front.filterMap Step.call?) =
            built ++ (progress o b front).state.scopes ∧
          (progress o b front).state.components.classes = built.map Scope.cls) ∧
    (∀ front c pos call back, b.steps = front ++ ⟨c, pos, .call call⟩ :: back →
      (progress o b front).abort = none →
      (visit b c call (progress o b front).state).stop = none ∧
        (visit b c call (progress o b front).state).reports = [] ∧
        (∀ a, call = .axis a → ∃ scope,
          (progress o b front).state.scopes.current = .ok scope ∧
            scope.cls.name = a.inst.name) ∧
        ∀ site, call = .leave site → site.inst.hasCpuBinding = true → ∃ scope,
          (progress o b front).state.scopes.pop = .ok (scope, []) ∧
            scope.cls.name = site.inst.name) ∧
    (b.scheduler.code ≠ .missing → (∀ g ∈ b.gpios, g.direction.Proper) →
      ((Backend.host o).walk b).abort = none ∧
        ((Backend.host o).walk b).state.scopes = [] ∧
        ((Backend.host o).walk b).state.components.classes =
          (layout b.traversal).map Scope.cls) := by
  refine ⟨fun front back hsplit hfront => ?_, fun front c pos call back hsplit hfront => ?_,
    fun hscheduler hgpios => ?_⟩
  · obtain ⟨⟨hcurrent, hbuilt⟩, -⟩ := progress_balanced hsplit hfront
    exact ⟨hcurrent, hbuilt⟩
  · obtain ⟨hbalanced, hrest⟩ := progress_balanced hsplit hfront
    cases hrest with
    | cons hcall _ =>
      obtain ⟨⟨hstop, hreports⟩, -⟩ := visit_balanced b c hcall hbalanced
      refine ⟨hstop, hreports, ?_, ?_⟩
      · rintro a rfl
        obtain ⟨hinst, hhost⟩ := hcall.of_axis
        rw [hinst] at hbalanced
        obtain ⟨scope, hscopes, hname⟩ := hbalanced.hosted hhost
        exact ⟨scope, by rw [hscopes]; rfl, hname⟩
      · rintro site rfl hhost
        rw [hcall.of_leave] at hbalanced
        obtain ⟨scope, hscopes, hname⟩ := hbalanced.hosted hhost
        exact ⟨scope, by rw [hscopes]; rfl, hname⟩
  · have hb : b.Walkable := ⟨hscheduler, hgpios⟩
    obtain ⟨habort, hbalanced⟩ := follow_balanced (b := b) o b.steps_nested
      (Visitor.steps_no_halt hb) (p := { state := start o }) rfl (balanced_start o)
    rw [b.steps_calls] at hbalanced
    obtain ⟨built, hlaid, hclasses⟩ := hbalanced.built
    have hclosed := hbalanced.closed
    rw [hclosed, List.append_nil] at hlaid
    exact ⟨habort, hclosed, by rw [layout, hlaid]; exact hclasses⟩

theorem class_scopes_balanced_crowded :
    (progress {} crowdedBoard (crowdedBoard.steps.take 11)).abort = none ∧
      ((progress {} crowdedBoard (crowdedBoard.steps.take 11)).state.scopes.map
        fun scope => scope.cls.name) = ["left"] ∧
      ((Backend.host {}).walk crowdedBoard).abort = none ∧
      ((layout crowdedBoard.traversal).map fun scope => scope.cls.name) = ["left", "right"] := by
  have habort : (progress {} crowdedBoard (crowdedBoard.steps.take 11)).abort = none := by decide
  obtain ⟨hcurrent, -⟩ := (class_scopes_balanced {} crowdedBoard).1 _ _
    (List.take_append_drop 11 crowdedBoard.steps).symm habort
  obtain ⟨hwalk, -⟩ := (class_scopes_balanced {} crowdedBoard).2.2 (by decide) (by decide)
  exact ⟨habort, hcurrent.trans (by decide), hwalk, by decide +kernel⟩

end Boardwright.Host
