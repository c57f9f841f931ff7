import Boardwright.Collector

/-!
# Combined faults

Faults come together in two ways.  A combination takes its members apart, so that
its parts never are combinations; a run keeps what it collected as it is, and may
hold combinations and runs in turn.  Flattening opens both.

* `flatten_eq_parts` and `flatten_run` are how flattening goes on, and
  `single_of_flatten` is where it ends.
* `combine_cases` is all that combining can do, and `flatten_combine` says that
  flattening gets everything back.
* `Built` are the faults that can come up: every combination in them is one of at
  least two parts (`Built.two_le_parts`), so a fault that has only one part is single.
* `Collector.given` is a collector after some faults, and `given_faults` what it
  holds.

`flatten_additive` puts them together.
-/

namespace Boardwright

namespace Fault

/-! ## Flattening -/

theorem flattenAll_eq (fs : List Fault) : flattenAll fs = fs.flatMap flatten := by
  induction fs with
  | nil => rfl
  | cons f fs ih => rw [flattenAll, ih, List.flatMap_cons]

theorem flatten_run (fs : List Fault) : (run fs).flatten = fs.flatMap flatten := by
  rw [flatten, flattenAll_eq]

theorem flatten_several (fs : List Fault) : (several fs).flatten = fs.flatMap flatten := by
  rw [flatten, flattenAll_eq]

theorem flatten_eq_parts (f : Fault) : f.flatten = f.parts.flatMap flatten := by
  cases f with
  | several fs => exact flatten_several fs
  | _ => exact (List.append_nil _).symm

/-- Neither a combination nor a run. -/
def isSingle : Fault → Bool
  | several _ => false
  | run _ => false
  | _ => true

theorem flatten_of_single {f : Fault} (h : f.isSingle = true) : f.flatten = [f] := by
  cases f with
  | several parts => cases h
  | run parts => cases h
  | _ => rfl

mutual

/-- Flattening ends at single faults. -/
theorem single_of_flatten {e : Fault} : ∀ f : Fault, e ∈ f.flatten → e.isSingle = true
  | several parts, h => single_of_flattenAll parts h
  | run parts, h => single_of_flattenAll parts h
  | report d cause, h => by
    rw [List.mem_singleton.1 h]
    rfl
  | plain text, h => by
    rw [List.mem_singleton.1 h]
    rfl
  | wrapped remark cause, h => by
    rw [List.mem_singleton.1 h]
    rfl

theorem single_of_flattenAll {e : Fault} : ∀ fs : List Fault, e ∈ flattenAll fs →
    e.isSingle = true
  | [], h => nomatch h
  | f :: fs, h => by
    rcases List.mem_append.1 h with hhead | htail
    · exact single_of_flatten f hhead
    · exact single_of_flattenAll fs htail

end

/-! ## Combining -/

/-- The parts of the faults that are present. -/
def allParts (fs : List (Option Fault)) : List Fault := (fs.filterMap id).flatMap parts

theorem flatMap_parts (fs : List (Option Fault)) :
    fs.flatMap (fun f => (f.map parts).getD []) = allParts fs := by
  induction fs with
  | nil => rfl
  | cons f fs ih =>
    rw [List.flatMap_cons, ih]
    cases f with
    | none => rfl
    | some f => rfl

theorem combine_cases (fs : List (Option Fault)) :
    (allParts fs = [] ∧ combine fs = none) ∨ (∃ f, allParts fs = [f] ∧ combine fs = some f) ∨
      2 ≤ (allParts fs).length ∧ combine fs = some (several (allParts fs)) := by
  unfold combine
  rw [flatMap_parts]
  split
  · next hnil => exact .inl ⟨hnil, rfl⟩
  · next f hone => exact .inr (.inl ⟨f, hone, rfl⟩)
  · next hnil hone =>
    refine .inr (.inr ⟨?_, rfl⟩)
    match hparts : allParts fs with
    | [] => exact absurd hparts hnil
    | [f] => exact absurd hparts (hone f)
    | _ :: _ :: _ => simp

theorem combine_eq_none_iff (fs : List (Option Fault)) : combine fs = none ↔ allParts fs = [] := by
  rcases combine_cases fs with ⟨hparts, hcombine⟩ | ⟨f, hparts, hcombine⟩ | ⟨hparts, hcombine⟩
  · simp [hparts, hcombine]
  · simp [hparts, hcombine]
  · have hsome : allParts fs ≠ [] := List.ne_nil_of_length_pos (by omega)
    simp [hsome, hcombine]

/-- The single faults behind what may be a fault. -/
def singles (f : Option Fault) : List Fault := f.toList.flatMap flatten

theorem singles_some (f : Fault) : singles (some f) = f.flatten :=
  List.flatMap_singleton ..

theorem flatMap_singles (fs : List (Option Fault)) :
    fs.flatMap singles = (fs.filterMap id).flatMap flatten := by
  induction fs with
  | nil => rfl
  | cons f fs ih =>
    rw [List.flatMap_cons, ih]
    cases f with
    | none => rfl
    | some f =>
      rw [singles_some]
      rfl

theorem flatMap_flatten_allParts (fs : List (Option Fault)) :
    (allParts fs).flatMap flatten = fs.flatMap singles := by
  rw [flatMap_singles, allParts, List.flatMap_assoc]
  congr 1
  funext f
  exact (flatten_eq_parts f).symm

/-- A combination opens to what its members open to, one after the other. -/
theorem singles_combine (fs : List (Option Fault)) :
    singles (combine fs) = fs.flatMap singles := by
  rw [← flatMap_flatten_allParts]
  rcases combine_cases fs with ⟨hparts, hcombine⟩ | ⟨f, hparts, hcombine⟩ | ⟨-, hcombine⟩
  · rw [hcombine, hparts]
    rfl
  · rw [hcombine, hparts]
    rfl
  · rw [hcombine, singles_some, flatten_several]

theorem flatten_combine {fs : List (Option Fault)} {f : Fault} (h : combine fs = some f) :
    f.flatten = (fs.filterMap id).flatMap flatten := by
  rw [← flatMap_singles, ← singles_combine, h, singles_some]

/-! ## Faults that can come up -/

/-- The faults that are built from messages and reports, whatever is nested in them.  Only
combining makes a combination. -/
inductive Built : Fault → Prop
  | plain (text : String) : Built (plain text)
  | report (d : Diagnostic) {cause : Option Fault} (h : ∀ c, cause = some c → Built c) :
      Built (report d cause)
  | wrapped (remark : String) {cause : Fault} (h : Built cause) : Built (wrapped remark cause)
  | run {parts : List Fault} (h : ∀ f ∈ parts, Built f) : Built (run parts)
  | combine {fs : List (Option Fault)} {f : Fault} (h : ∀ g, some g ∈ fs → Built g)
      (hf : combine fs = some f) : Built f

theorem parts_of_not_several {f : Fault} (h : ∀ ps, f ≠ several ps) : f.parts = [f] := by
  cases f with
  | several ps => exact absurd rfl (h ps)
  | _ => rfl

theorem mem_allParts {fs : List (Option Fault)} {p : Fault} :
    p ∈ allParts fs ↔ ∃ f, some f ∈ fs ∧ p ∈ f.parts := by
  simp [allParts]

/-- Combinations are not nested directly. -/
theorem Built.part_not_several {f p : Fault} (h : f.Built) (hp : p ∈ f.parts) :
    ∀ ps, p ≠ several ps := by
  induction h generalizing p with
  | plain text =>
    rw [List.mem_singleton.1 hp]
    exact nofun
  | report d _ _ =>
    rw [List.mem_singleton.1 hp]
    exact nofun
  | wrapped remark _ _ =>
    rw [List.mem_singleton.1 hp]
    exact nofun
  | run _ _ =>
    rw [List.mem_singleton.1 hp]
    exact nofun
  | @combine fs f _ hf ih =>
    have hall : ∀ p ∈ allParts fs, ∀ ps, p ≠ several ps := by
      intro p hp
      obtain ⟨g, hg, hpart⟩ := mem_allParts.1 hp
      exact ih g hg hpart
    rcases combine_cases fs with ⟨-, hcombine⟩ | ⟨g, hparts, hcombine⟩ | ⟨-, hcombine⟩
    · rw [hcombine] at hf
      cases hf
    · obtain rfl : g = f := Option.some_inj.1 (hcombine.symm.trans hf)
      have hg := hall g (by simp [hparts])
      rw [parts_of_not_several hg, List.mem_singleton] at hp
      exact hp ▸ hg
    · obtain rfl : several (allParts fs) = f := Option.some_inj.1 (hcombine.symm.trans hf)
      exact hall p hp

/-- A combination is one of at least two parts. -/
theorem Built.two_le_parts {ps : List Fault} (h : (several ps).Built) : 2 ≤ ps.length := by
  cases h with
  | @combine fs _ hfs hf =>
    rcases combine_cases fs with ⟨-, hcombine⟩ | ⟨g, hparts, hcombine⟩ | ⟨htwo, hcombine⟩
    · rw [hcombine] at hf
      cases hf
    · obtain ⟨f, hf', hpart⟩ := mem_allParts.1 (show g ∈ allParts fs by simp [hparts])
      rw [hcombine] at hf
      exact absurd (Option.some.inj hf) ((hfs f hf').part_not_several hpart ps)
    · rw [hcombine] at hf
      obtain rfl := several.inj (Option.some.inj hf)
      exact htwo

/-- A fault that is no run opens to its parts, but for a single part, which stays as it is. -/
theorem Built.flatten_eq {f : Fault} (h : f.Built) (hrun : ∀ ps, f ≠ .run ps) :
    f.flatten = if f.parts.length = 1 then f.parts else f.parts.flatMap flatten := by
  cases f with
  | run ps => exact absurd rfl (hrun ps)
  | several ps =>
    have hmany : (several ps).parts.length ≠ 1 := Nat.ne_of_gt h.two_le_parts
    rw [if_neg hmany]
    exact flatten_several ps
  | _ => rfl

theorem Built.parts_ne_nil {f : Fault} (h : f.Built) : f.parts ≠ [] := by
  cases f with
  | several ps =>
    have htwo := h.two_le_parts
    exact List.ne_nil_of_length_pos (show 0 < ps.length by omega)
  | _ => exact List.cons_ne_nil _ _

end Fault

namespace Collector

/-- A collector that was given some faults, one after the other. -/
def given (backend : String) (fs : List (Option Fault)) : Collector :=
  fs.foldl add { backend }

theorem foldl_add_faults (fs : List (Option Fault)) (c : Collector) :
    (fs.foldl add c).faults = c.faults ++ Fault.allParts fs := by
  induction fs generalizing c with
  | nil => exact (List.append_nil _).symm
  | cons f fs ih =>
    rw [List.foldl_cons, ih]
    cases f with
    | none => simp [add, Fault.allParts]
    | some f => simp [add, Fault.allParts]

theorem given_faults (backend : String) (fs : List (Option Fault)) :
    (given backend fs).faults = Fault.allParts fs :=
  foldl_add_faults fs { backend }

theorem singles_fault? (c : Collector) :
    Fault.singles c.fault? = c.faults.flatMap Fault.flatten := by
  unfold fault?
  split
  · next hempty => rw [List.isEmpty_iff.1 hempty]; rfl
  · rw [Fault.singles_some, Fault.flatten_run]

theorem fault?_eq_none_iff (c : Collector) : c.fault? = none ↔ c.faults = [] := by
  unfold fault?
  split <;> simp_all

end Collector

open Fault in
/-- Flattening loses nothing.  It takes a combination to what stands behind its members and a
run to what stands behind its parts, in order.  It ends at faults that are neither, and these
it leaves as they are.  A fault other than a run that has only one part is such a fault.  What
a collector returns opens to everything it was given, and it returns nothing if and only if it
was given nothing. -/
theorem flatten_additive :
    (∀ a b : Option Fault, singles (append a b) = singles a ++ singles b) ∧
    (∀ parts, (run parts).flatten = parts.flatMap flatten) ∧
    (∀ f : Fault, ∀ e ∈ f.flatten, e.isSingle = true ∧ e.flatten = [e]) ∧
    (∀ f : Fault, f.Built → (∀ parts, f ≠ run parts) →
      f.flatten = if f.parts.length = 1 then f.parts else f.parts.flatMap flatten) ∧
    ∀ (backend : String) (fs : List (Option Fault)), (∀ f, some f ∈ fs → f.Built) →
      singles (Collector.given backend fs).fault? = fs.flatMap singles ∧
        ((Collector.given backend fs).fault? = none ↔ ∀ f ∈ fs, f = none) := by
  refine ⟨fun a b => ?_, flatten_run, fun f e he => ?_, fun f hf => hf.flatten_eq,
    fun backend fs hfs => ⟨?_, ?_⟩⟩
  · rw [append, singles_combine, List.flatMap_cons, List.flatMap_cons, List.flatMap_nil,
      List.append_nil]
  · have hsingle := single_of_flatten f he
    exact ⟨hsingle, flatten_of_single hsingle⟩
  · rw [Collector.singles_fault?, Collector.given_faults, flatMap_flatten_allParts]
  · rw [Collector.fault?_eq_none_iff, Collector.given_faults]
    constructor
    · intro hnil f hf
      cases f with
      | none => rfl
      | some f =>
        obtain ⟨p, hp⟩ := List.exists_mem_of_ne_nil _ (hfs f hf).parts_ne_nil
        have hmem : p ∈ allParts fs := mem_allParts.2 ⟨f, hf, hp⟩
        rw [hnil] at hmem
        cases hmem
    · intro hnone
      rw [List.eq_nil_iff_forall_not_mem]
      intro p hp
      obtain ⟨f, hf, -⟩ := mem_allParts.1 hp
      cases hnone _ hf

/-- A combination and a run that nest in each other, next to nothing and to an empty run. -/
def nestedFaults : List (Option Fault) :=
  [none,
   Fault.combine [some (.plain "a"), some (.run [.several [.plain "b", .plain "c"], .run []])],
   some (.run []), some (.wrapped "d" (.run [.plain "e"]))]

theorem flatten_additive_nested :
    (∀ f, some f ∈ nestedFaults → f.Built) ∧
      Fault.singles (Collector.given "client" nestedFaults).fault? =
        [.plain "a", .plain "b", .plain "c", .wrapped "d" (.run [.plain "e"])] ∧
      (Collector.given "client" nestedFaults).fault? ≠ none := by
  have hplain : ∀ texts : List String, ∀ f, some f ∈ texts.map (fun t => some (.plain t)) →
      Fault.Built f := by
    intro texts f hf
    obtain ⟨t, -, ht⟩ := List.mem_map.1 hf
    exact Option.some.inj ht ▸ .plain t
  have hempty : (Fault.run []).Built := .run nofun
  have hinner : (Fault.run [.several [.plain "b", .plain "c"], .run []]).Built := by
    refine .run fun f hf => ?_
    simp only [List.mem_cons, List.not_mem_nil, or_false] at hf
    rcases hf with rfl | rfl
    · exact .combine (hplain ["b", "c"]) rfl
    · exact hempty
  have hbuilt : ∀ f, some f ∈ nestedFaults → f.Built := by
    intro f hf
    simp only [nestedFaults, List.mem_cons, List.not_mem_nil, or_false, reduceCtorEq, false_or,
      Option.some.injEq] at hf
    rcases hf with hf | rfl | rfl
    · refine .combine (fun g hg => ?_) hf.symm
      simp only [List.mem_cons, List.not_mem_nil, or_false, Option.some.injEq] at hg
      rcases hg with rfl | rfl
      · exact .plain "a"
      · exact hinner
    · exact hempty
    · refine .wrapped "d" (.run fun g hg => ?_)
      exact List.mem_singleton.1 hg ▸ .plain "e"
  obtain ⟨hsingles, hnone⟩ := flatten_additive.2.2.2.2 "client" nestedFaults hbuilt
  refine ⟨hbuilt, hsingles, fun h => ?_⟩
  have hrun := hnone.1 h (some (.run [])) (by simp [nestedFaults])
  cases hrun

end Boardwright
