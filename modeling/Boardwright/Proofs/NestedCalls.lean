import Boardwright.Proofs.Run

/-!
# How the calls of a walk are nested

An instance is entered and left again, and the calls for its bindings come in
between.  `Call.Moves` says which call may come while an instance is being walked
and which while none is, and `Nested` chains such calls.

`traversal_nested` is the result: the calls of every walk are nested.  Boards that
cannot be walked to their end are no exception.
-/

namespace Boardwright

namespace Call

/-- The instance being walked after a call, given the one before it. -/
def walking (before : Option Instance) : Call → Option Instance
  | .enter site => some site.inst
  | .leave _ => none
  | _ => before

/-- The instance being walked after some calls: the one that was entered last, unless it
was left since. -/
def walked (calls : List Call) : Option Instance := calls.foldl walking none

/-- The call may come while an instance, or none, is being walked. -/
inductive Moves : Call → Option Instance → Option Instance → Prop
  | outside {call : Call} (h : call.part ≠ .instances) : Moves call none none
  | enter {site : Site} (h : site.host = site.inst.hasCpuBinding) :
      Moves (.enter site) none (some site.inst)
  | axis {a : Axis} (h : a.inst.hasCpuBinding = true) : Moves (.axis a) (some a.inst) (some a.inst)
  | link (l : Link) : Moves (.link l) (some l.inst) (some l.inst)
  | leave {site : Site} (h : site.host = site.inst.hasCpuBinding) :
      Moves (.leave site) (some site.inst) none

theorem Moves.walking {before after : Option Instance} {call : Call} (h : call.Moves before after) :
    after = call.walking before := by
  cases h with
  | @outside call h =>
    cases call with
    | enter site => exact absurd rfl h
    | leave site => exact absurd rfl h
    | _ => rfl
  | _ => rfl

theorem Moves.of_axis {before after : Option Instance} {a : Axis}
    (h : (Call.axis a).Moves before after) :
    before = some a.inst ∧ a.inst.hasCpuBinding = true := by
  cases h with
  | outside hpart => exact absurd rfl hpart
  | axis hcpu => exact ⟨rfl, hcpu⟩

theorem Moves.of_leave {before after : Option Instance} {site : Site}
    (h : (Call.leave site).Moves before after) : before = some site.inst := by
  cases h with
  | outside hpart => exact absurd rfl hpart
  | leave _ => rfl

end Call

/-- One call after the other may come. -/
inductive Nested : Option Instance → List Call → Option Instance → Prop
  | nil (i : Option Instance) : Nested i [] i
  | cons {i j k : Option Instance} {call : Call} {calls : List Call} (h : call.Moves i j)
      (hrest : Nested j calls k) : Nested i (call :: calls) k

namespace Nested

variable {i j k : Option Instance} {calls calls' : List Call}

theorem single {call : Call} (h : call.Moves i j) : Nested i [call] j := .cons h (.nil j)

theorem append (h : Nested i calls j) (h' : Nested j calls' k) : Nested i (calls ++ calls') k := by
  induction h with
  | nil => exact h'
  | cons hcall _ ih => exact .cons hcall (ih h')

/-- Between two calls there is an instance, or none, being walked. -/
theorem split (h : Nested i (calls ++ calls') k) : ∃ j, Nested i calls j ∧ Nested j calls' k := by
  induction calls generalizing i with
  | nil => exact ⟨i, .nil i, h⟩
  | cons call calls ih =>
    cases h with
    | cons hcall hrest =>
      obtain ⟨j, hfront, hback⟩ := ih hrest
      exact ⟨j, .cons hcall hfront, hback⟩

theorem foldl_walking (h : Nested i calls j) : j = calls.foldl Call.walking i := by
  induction h with
  | nil => rfl
  | cons hcall _ ih => rw [List.foldl_cons, ← hcall.walking, ih]

theorem outside (h : ∀ call ∈ calls, call.part ≠ .instances) : Nested none calls none := by
  induction calls with
  | nil => exact .nil none
  | cons call calls ih =>
    exact .cons (.outside (h call (by simp))) (ih fun call' hcall' => h call' (by simp [hcall']))

theorem eachAfter {α : Type} {f : List α → α → List Call} {as : List α}
    (h : ∀ before, ∀ a ∈ as, Nested i (f before a) i) : Nested i (eachAfter f as) i := by
  induction as generalizing f with
  | nil => exact .nil i
  | cons a as ih =>
    rw [eachAfter_cons]
    exact (h [] a (by simp)).append (ih fun before a' ha' => h _ a' (by simp [ha']))

end Nested

namespace Board

variable {b : Board} {inst : Instance}

theorem hasCpuBinding_of_mem {binding : CpuBinding} (h : .cpu binding ∈ inst.bindings) :
    inst.hasCpuBinding = true :=
  List.any_eq_true.2 ⟨.cpu binding, h, rfl⟩

/-- A port is only called for within an instance that has a CPU binding. -/
theorem bindingCalls_nested (earlier : List Place) {binding : Binding}
    (h : binding ∈ inst.bindings) :
    Nested (some inst) (b.bindingCalls earlier ⟨inst, binding⟩) (some inst) := by
  unfold bindingCalls
  cases b.port? ⟨inst, binding⟩ with
  | none => exact .nil _
  | some port =>
    cases binding with
    | cpu binding =>
      simp only [axisCalls]
      split
      · exact .nil _
      · exact .single (.axis (hasCpuBinding_of_mem h))
    | link binding =>
      simp only [linkCalls]
      split
      · exact .nil _
      · split
        · exact .nil _
        · exact .single (.link _)

/-- The calls for an instance begin and end outside of any. -/
theorem instanceCalls_nested (earlier : List Instance) (inst : Instance) :
    Nested none (b.instanceCalls earlier inst) none := by
  unfold instanceCalls
  cases b.findCore? inst.core with
  | none => exact .nil _
  | some core =>
    refine .cons (.enter rfl) (.append (.eachAfter fun before p hp => ?_) (.single (.leave rfl)))
    obtain ⟨binding, hbinding, rfl⟩ := List.mem_map.1 hp
    exact bindingCalls_nested _ hbinding

theorem callsAbout_nested (b : Board) (part : Part) : Nested none (b.callsAbout part) none := by
  by_cases hpart : part = .instances
  · subst hpart
    exact .eachAfter fun earlier inst _ => instanceCalls_nested earlier inst
  · refine .outside fun call hcall => ?_
    rw [b.callsAbout_part part call hcall]
    exact hpart

theorem inside_nested (b : Board) : Nested none b.inside none := by
  rw [inside_eq]
  exact ((((b.callsAbout_nested .medium).append (b.callsAbout_nested .gpios)).append
    (b.callsAbout_nested .scheduler)).append (b.callsAbout_nested .cores)).append
    (b.callsAbout_nested .instances)

/-- The calls of a walk are nested, whatever the board. -/
theorem traversal_nested (b : Board) : Nested none b.traversal none := by
  have hstart : Call.start.Moves none none := .outside (by decide)
  have hfinish : Call.finish.Moves none none := .outside (by decide)
  rw [traversal_eq]
  exact .cons hstart (b.inside_nested.append (.single hfinish))

theorem steps_nested (b : Board) : Nested none (b.steps.filterMap Step.call?) none := by
  rw [steps_calls]
  exact b.traversal_nested

end Board

end Boardwright
