import Boardwright.Source.Module
import Mathlib.Data.List.Induction
import Mathlib.Data.List.Nodup

/-!
# What a module requires

Headers are required all over a module: by its definitions, by initial values and
by the bodies of its procedures and classes.  `Module.requirements` is the list of
all of them as they stand there, with repetitions, and `Module.includes` collects
them one place after the other into one list that grows.

* `merge_eq` is what a single merge adds to a list, and `merge_eraseDups` says that
  the first occurrences of a list stay the first occurrences.
* `foldl_eraseDups` carries that through a loop.  Every loop of `Module.includes` is
  an instance of it.
* `pairwise_idxOf_eraseDups` is what it means that first occurrences keep their order.

`includes_in_first_use_order` is the result.
-/

namespace Boardwright.Source

/-! ## First occurrences -/

section Merge

variable {α : Type} [BEq α]

/-- A loop each of whose steps adds the first occurrences of some elements adds those of all of
them. -/
theorem foldl_eraseDups {β : Type} {step : List α → β → List α} {f : β → List α}
    (hstep : ∀ as b, step as.eraseDups b = (as ++ f b).eraseDups) (as : List α) (bs : List β) :
    bs.foldl step as.eraseDups = (as ++ bs.flatMap f).eraseDups := by
  induction bs generalizing as with
  | nil => simp
  | cons b bs ih => rw [List.foldl_cons, hstep, ih, List.flatMap_cons, List.append_assoc]

variable [LawfulBEq α]

/-- A merge adds the first occurrences of what is new. -/
theorem merge_eq (known as : List α) : merge known as = known ++ (as.removeAll known).eraseDups := by
  induction as generalizing known with
  | nil => simp [merge]
  | cons a as ih =>
    rw [merge, ih, List.cons_removeAll]
    cases ha : known.contains a with
    | true => simp
    | false =>
      -- The new element is kept, and known to whatever comes behind it.
      have hrest : as.removeAll (known ++ [a]) = (as.removeAll known).filter (fun x => !x == a) := by
        rw [List.removeAll, List.removeAll, List.filter_filter]
        refine List.filter_congr fun x _ => ?_
        rw [Bool.eq_iff_iff]
        simp [and_comm]
      simp only [Bool.false_eq_true, if_false, if_true, hrest, List.eraseDups_cons,
        List.append_assoc, List.singleton_append]

theorem removeAll_eraseDups (as bs : List α) : bs.removeAll as.eraseDups = bs.removeAll as := by
  refine List.filter_congr fun b _ => ?_
  rw [Bool.eq_iff_iff]
  simp [List.mem_eraseDups]

/-- Merging into the first occurrences of a list gives those of the longer list. -/
theorem merge_eraseDups (as bs : List α) : merge as.eraseDups bs = (as ++ bs).eraseDups := by
  rw [merge_eq, removeAll_eraseDups, List.eraseDups_append]

/-- First occurrences stand in the order in which they occur. -/
theorem pairwise_idxOf_eraseDups (as : List α) :
    as.eraseDups.Pairwise fun a b => as.idxOf a < as.idxOf b := by
  -- By induction from the end: what is appended stands behind everything else, or is not new.
  induction as using List.reverseRecOn with
  | nil => simp
  | append_singleton as last ih =>
    have hkept : ∀ a ∈ as.eraseDups, (as ++ [last]).idxOf a = as.idxOf a := fun a ha =>
      List.idxOf_append_of_mem (List.mem_eraseDups.1 ha)
    have hfront : as.eraseDups.Pairwise fun a b =>
        (as ++ [last]).idxOf a < (as ++ [last]).idxOf b := by
      refine ih.imp_of_mem fun ha hb hlt => ?_
      rw [hkept _ ha, hkept _ hb]
      exact hlt
    rw [List.eraseDups_append]
    by_cases hlast : last ∈ as
    · have hnone : [last].removeAll as = [] := by simp [List.removeAll, hlast]
      rw [hnone, List.eraseDups_nil, List.append_nil]
      exact hfront
    · have hnew : ([last].removeAll as).eraseDups = [last] := by
        simp [List.removeAll, hlast, List.eraseDups_cons]
      rw [hnew, List.pairwise_append]
      refine ⟨hfront, List.pairwise_singleton .., fun a ha b hb => ?_⟩
      rw [List.mem_singleton.1 hb, hkept a ha, List.idxOf_append_of_notMem hlast]
      have hlt := List.idxOf_lt_length_of_mem (List.mem_eraseDups.1 ha)
      omega

theorem nodup_eraseDups (as : List α) : as.eraseDups.Nodup := by
  refine (pairwise_idxOf_eraseDups as).imp ?_
  rintro a b hlt rfl
  exact absurd hlt (Nat.lt_irrefl _)

end Merge

/-! ## The requirements of a module -/

/-- The headers that the initial value needs. -/
def Attribute.requirements (a : Attribute) : List Include := a.init.elim [] Initial.includes

/-- The headers that a class needs, in the order of members, constructor, destructor and
methods. -/
def Class.requirements (c : Class) : List Include :=
  c.attributes.flatMap Attribute.requirements ++ c.constructor.body.includes ++
    c.destructor.body.includes ++ c.methods.flatMap (·.body.includes)

namespace Module

/-- Every header that is needed somewhere in the module, as often as it is needed. -/
def requirements (m : Module) : List Include :=
  m.definitions.flatMap (·.needs) ++ m.attributes.flatMap Attribute.requirements ++
    m.records.flatMap (fun r => r.fields.flatMap Attribute.requirements) ++
    m.procedures.flatMap (·.body.includes) ++ m.classes.flatMap Class.requirements

theorem mergeInits_eraseDups (out : List Include) (as : List Attribute) :
    mergeInits out.eraseDups as = (out ++ as.flatMap Attribute.requirements).eraseDups := by
  refine foldl_eraseDups (fun out a => ?_) out as
  rw [merge_eraseDups, Attribute.requirements]
  cases a.init with
  | none => rfl
  | some init => rfl

theorem mergeBodies_eraseDups (out : List Include) (ps : List Procedure) :
    mergeBodies out.eraseDups ps = (out ++ ps.flatMap (·.body.includes)).eraseDups :=
  foldl_eraseDups (fun out p => merge_eraseDups out p.body.includes) out ps

theorem mergeClass_eraseDups (out : List Include) (c : Class) :
    mergeClass out.eraseDups c = (out ++ c.requirements).eraseDups := by
  simp only [mergeClass, mergeInits_eraseDups, merge_eraseDups, mergeBodies_eraseDups,
    Class.requirements, List.append_assoc]

/-- The headers of a module are the first occurrences of its requirements. -/
theorem includes_eq (m : Module) : m.includes = m.requirements.eraseDups := by
  have hdefinitions : m.definitions.foldl (fun out d => merge out d.needs) [] =
      (m.definitions.flatMap (·.needs)).eraseDups := by
    show m.definitions.foldl (fun out d => merge out d.needs) ([] : List Include).eraseDups = _
    rw [foldl_eraseDups fun out d => merge_eraseDups out d.needs, List.nil_append]
  have hrecords : ∀ out, m.records.foldl (fun out r => mergeInits out r.fields) out.eraseDups =
      (out ++ m.records.flatMap fun r => r.fields.flatMap Attribute.requirements).eraseDups :=
    fun out => foldl_eraseDups (fun out r => mergeInits_eraseDups out r.fields) out m.records
  rw [includes, hdefinitions, mergeInits_eraseDups, hrecords, mergeBodies_eraseDups,
    foldl_eraseDups mergeClass_eraseDups, requirements]

/-- The headers of a module are what is required anywhere in it, each once, in the order in which
they are required first. -/
theorem includes_in_first_use_order (m : Module) :
    m.includes = m.requirements.eraseDups ∧
      (∀ i, i ∈ m.includes ↔ i ∈ m.requirements) ∧
      m.includes.Nodup ∧
      m.includes.Pairwise fun i j => m.requirements.idxOf i < m.requirements.idxOf j := by
  have horder := pairwise_idxOf_eraseDups m.requirements
  rw [includes_eq]
  refine ⟨rfl, fun i => List.mem_eraseDups, horder.imp ?_, horder⟩
  rintro i j hlt rfl
  exact absurd hlt (Nat.lt_irrefl _)

end Module

end Boardwright.Source
