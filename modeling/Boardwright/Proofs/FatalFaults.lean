import Boardwright.Fault

/-!
# Fatal faults

A fault is fatal if its first report is a violation of an invariant.  A violation
may also stand elsewhere: in the cause of the first report, or in a part further
on.  This file says which violations are seen and which are not.

There are three groups.

* Faults inside a fault.  `inner` goes one level down and `Within` any number of
  levels; `inner_induction` is the induction that goes with them.
* The first report.  `Leads` says which one it is by what stands in front of it,
  and `leads_iff` that this is the one that `first?` finds.
* Violations.  `Violates` says that there is one, and `Shielded` that there is one
  behind a first report of another kind.  `Violates.seen_or_shielded` splits the
  violations into those that are seen and those that are not.

`fatal_finds_violation_iff` is the result.
-/

namespace Boardwright.Fault

/-! ## Faults inside a fault -/

/-- The faults that a fault other than a report is made of. -/
def branches : Fault → List Fault
  | report _ _ => []
  | plain _ => []
  | wrapped _ cause => [cause]
  | several parts => parts
  | run parts => parts

/-- The faults directly inside a fault: the cause of a report, or its branches. -/
def inner : Fault → List Fault
  | report _ cause => cause.toList
  | f => f.branches

theorem sizeOf_inner {f g : Fault} (h : g ∈ f.inner) : sizeOf g < sizeOf f := by
  cases f with
  | report d cause =>
    obtain rfl : cause = some g := Option.mem_toList.1 h
    simp only [report.sizeOf_spec, Option.some.sizeOf_spec]
    omega
  | plain text => cases h
  | wrapped remark cause =>
    rw [List.mem_singleton.1 h, wrapped.sizeOf_spec]
    omega
  | several parts =>
    have hpart : sizeOf g < sizeOf parts := List.sizeOf_lt_of_mem h
    rw [several.sizeOf_spec]
    omega
  | run parts =>
    have hpart : sizeOf g < sizeOf parts := List.sizeOf_lt_of_mem h
    rw [run.sizeOf_spec]
    omega

/-- What a fault takes over from the faults inside holds of all faults. -/
theorem inner_induction {motive : Fault → Prop}
    (step : ∀ f, (∀ g ∈ f.inner, motive g) → motive f) (f : Fault) : motive f :=
  step f fun g _ => inner_induction step g
termination_by sizeOf f
decreasing_by exact sizeOf_inner ‹_›

/-- The fault `g` is `f` itself or inside it, at any depth and in any branch. -/
inductive Within (g : Fault) : Fault → Prop
  | self : Within g g
  | inside {f c : Fault} (hc : c ∈ f.inner) (h : Within g c) : Within g f

theorem mem_inner_of_branches {f g : Fault} (h : g ∈ f.branches) : g ∈ f.inner := by
  cases f with
  | report d cause => cases h
  | _ => exact h

/-- There is no report in the fault. -/
def Reportless (f : Fault) : Prop := ∀ d cause, ¬ (report d cause).Within f

/-! ## The first report -/

theorem firstOf?_eq (fs : List Fault) : firstOf? fs = fs.findSome? first? := by
  induction fs with
  | nil => rfl
  | cons f fs ih =>
    rw [firstOf?, List.findSome?_cons, ih]
    split <;> simp_all

/-- A fault is a report, or it is searched branch by branch. -/
theorem report_or_branches (f : Fault) :
    (∃ d cause, f = report d cause) ∨
      f.inner = f.branches ∧ f.first? = f.branches.findSome? first? := by
  cases f with
  | report d cause => exact .inl ⟨d, cause, rfl⟩
  | plain text => exact .inr ⟨rfl, rfl⟩
  | wrapped remark cause =>
    refine .inr ⟨rfl, ?_⟩
    rw [branches, List.findSome?_singleton]
    rfl
  | several parts => exact .inr ⟨rfl, firstOf?_eq parts⟩
  | run parts => exact .inr ⟨rfl, firstOf?_eq parts⟩

theorem first?_eq_none_iff (f : Fault) : f.first? = none ↔ f.Reportless := by
  induction f using inner_induction with
  | step f ih =>
    rcases report_or_branches f with ⟨d, cause, rfl⟩ | ⟨hinner, hfirst⟩
    · exact iff_of_false nofun fun h => h d cause .self
    · rw [hfirst, List.findSome?_eq_none_iff]
      constructor
      · intro h d cause hwithin
        cases hwithin with
        | self => cases hfirst ▸ List.findSome?_eq_none_iff.2 h
        | inside hc hwithin =>
          exact (ih _ hc).1 (h _ (hinner ▸ hc)) d cause hwithin
      · intro h g hg
        exact (ih g (hinner ▸ hg)).2 fun d cause hwithin =>
          h d cause (.inside (hinner ▸ hg) hwithin)

/-- The report comes first in the fault: it is the fault itself, or it comes first in a branch
and there is no report in the branches in front. -/
inductive Leads (d : Diagnostic) : Fault → Prop
  | self (cause : Option Fault) : Leads d (report d cause)
  | branch {f g : Fault} {front back : List Fault} (hsplit : f.branches = front ++ g :: back)
      (hfront : ∀ h ∈ front, h.Reportless) (hg : Leads d g) : Leads d f

theorem leads_iff (f : Fault) (d : Diagnostic) :
    f.Leads d ↔ ∃ cause, f.first? = some (d, cause) := by
  induction f using inner_induction with
  | step f ih =>
    rcases report_or_branches f with ⟨d', cause, rfl⟩ | ⟨hinner, hfirst⟩
    · constructor
      · intro h
        cases h with
        | self => exact ⟨cause, rfl⟩
        | branch hsplit => simp [branches] at hsplit
      · rintro ⟨cause', h⟩
        obtain ⟨rfl, rfl⟩ := Prod.mk.inj (Option.some.inj h)
        exact .self cause
    · simp only [hfirst, List.findSome?_eq_some_iff]
      constructor
      · intro h
        cases h with
        | self => simp [first?, branches] at hfirst
        | branch hsplit hfront hg =>
          obtain ⟨cause, hcause⟩ := (ih _ (by simp [hinner, hsplit])).1 hg
          exact ⟨cause, _, _, _, hsplit, hcause, fun h hh => (first?_eq_none_iff h).2 (hfront h hh)⟩
      · rintro ⟨cause, front, g, back, hsplit, hcause, hfront⟩
        exact .branch hsplit (fun h hh => (first?_eq_none_iff h).1 (hfront h hh))
          ((ih g (by simp [hinner, hsplit])).2 ⟨cause, hcause⟩)

theorem isFatal_iff (f : Fault) : f.isFatal = true ↔ ∃ d, f.Leads d ∧ d.kind = .invariant := by
  simp only [leads_iff, isFatal, kind?, beq_iff_eq, Option.map_eq_some_iff, Prod.exists]
  constructor
  · rintro ⟨d, cause, hfirst, hkind⟩
    exact ⟨d, ⟨cause, hfirst⟩, hkind⟩
  · rintro ⟨d, ⟨cause, hfirst⟩, hkind⟩
    exact ⟨d, cause, hfirst, hkind⟩

/-- Only one report comes first. -/
theorem Leads.unique {f : Fault} {d d' : Diagnostic} (h : f.Leads d) (h' : f.Leads d') :
    d = d' := by
  obtain ⟨cause, hfirst⟩ := (leads_iff f d).1 h
  obtain ⟨cause', hfirst'⟩ := (leads_iff f d').1 h'
  rw [hfirst] at hfirst'
  exact congrArg Prod.fst (Option.some.inj hfirst')

theorem Leads.within {f : Fault} {d : Diagnostic} (h : f.Leads d) :
    ∃ cause, (report d cause).Within f := by
  induction h with
  | self cause => exact ⟨cause, .self⟩
  | @branch f g front back hsplit _ _ ih =>
    obtain ⟨cause, hwithin⟩ := ih
    exact ⟨cause, .inside (mem_inner_of_branches (by simp [hsplit])) hwithin⟩

/-! ## Violations -/

/-- The fault or one inside it is a violation of an invariant. -/
def Violates (f : Fault) : Prop := ∃ d cause, (report d cause).Within f ∧ d.kind = .invariant

/-- There is a violation that is not looked for.  The first report is of another kind, and the
violation stands in its cause or in a branch further on. -/
inductive Shielded : Fault → Prop
  | cause {d : Diagnostic} {c : Fault} (hd : d.kind ≠ .invariant) (hc : c.Violates) :
      Shielded (report d (some c))
  | further {f g h : Fault} {front back : List Fault} {d : Diagnostic}
      (hsplit : f.branches = front ++ g :: back) (hfront : ∀ h ∈ front, h.Reportless)
      (hg : g.Leads d) (hd : d.kind ≠ .invariant) (hh : h ∈ back) (hv : h.Violates) : Shielded f
  | deeper {f g : Fault} {front back : List Fault} (hsplit : f.branches = front ++ g :: back)
      (hfront : ∀ h ∈ front, h.Reportless) (hg : Shielded g) : Shielded f

theorem Violates.inside {f g : Fault} (hg : g ∈ f.inner) (h : g.Violates) : f.Violates := by
  obtain ⟨d, cause, hwithin, hkind⟩ := h
  exact ⟨d, cause, .inside hg hwithin, hkind⟩

/-- A violation is the fault itself or inside one of the faults directly inside. -/
theorem Violates.cases {f : Fault} (h : f.Violates) :
    (∃ d cause, f = report d cause ∧ d.kind = .invariant) ∨ ∃ g ∈ f.inner, g.Violates := by
  obtain ⟨d, cause, hwithin, hkind⟩ := h
  cases hwithin with
  | self => exact .inl ⟨d, cause, rfl, hkind⟩
  | inside hc hwithin => exact .inr ⟨_, hc, d, cause, hwithin, hkind⟩

/-- A list with a violation has a first fault with a report, and the violation is there or
further on. -/
theorem split_of_violates {fs : List Fault} {g : Fault} (hg : g ∈ fs) (h : g.Violates) :
    ∃ front first back d, fs = front ++ first :: back ∧ (∀ h ∈ front, h.Reportless) ∧
      first.Leads d ∧ (g = first ∨ g ∈ back) := by
  obtain ⟨d, cause, hwithin, -⟩ := h
  have hreported : ¬ g.Reportless := fun hnone => hnone d cause hwithin
  cases hfirst : fs.findSome? first? with
  | none =>
    have hnone := List.findSome?_eq_none_iff.1 hfirst g hg
    exact absurd ((first?_eq_none_iff g).1 hnone) hreported
  | some found =>
    obtain ⟨front, first, back, rfl, hfound, hfront⟩ := List.findSome?_eq_some_iff.1 hfirst
    refine ⟨front, first, back, found.1, rfl, fun h hh => (first?_eq_none_iff h).1 (hfront h hh),
      (leads_iff first found.1).2 ⟨found.2, hfound⟩, ?_⟩
    rcases List.mem_append.1 hg with hmem | hmem
    · exact absurd ((first?_eq_none_iff g).1 (hfront g hmem)) hreported
    · exact List.mem_cons.1 hmem

/-- A violation is seen or shielded. -/
theorem Violates.seen_or_shielded {f : Fault} (h : f.Violates) :
    f.isFatal = true ∨ f.Shielded := by
  induction f using inner_induction with
  | step f ih =>
    rcases report_or_branches f with ⟨d, cause, rfl⟩ | ⟨hinner, -⟩
    · by_cases hd : d.kind = .invariant
      · exact .inl ((isFatal_iff _).2 ⟨d, .self cause, hd⟩)
      · rcases h.cases with ⟨d', cause', heq, hkind⟩ | ⟨c, hc, hv⟩
        · obtain ⟨rfl, -⟩ := report.inj heq
          exact absurd hkind hd
        · obtain rfl : cause = some c := Option.mem_toList.1 hc
          exact .inr (.cause hd hv)
    · rcases h.cases with ⟨d, cause, rfl, hkind⟩ | ⟨g, hg, hv⟩
      · exact .inl ((isFatal_iff _).2 ⟨d, .self cause, hkind⟩)
      · rw [hinner] at hg
        obtain ⟨front, first, back, d, hsplit, hfront, hleads, hplace⟩ := split_of_violates hg hv
        rcases hplace with rfl | hback
        · rcases ih g (hinner ▸ hg) hv with hfatal | hshielded
          · obtain ⟨d', hd', hkind⟩ := (isFatal_iff g).1 hfatal
            exact .inl ((isFatal_iff f).2 ⟨d', .branch hsplit hfront hd', hkind⟩)
          · exact .inr (.deeper hsplit hfront hshielded)
        · by_cases hd : d.kind = .invariant
          · exact .inl ((isFatal_iff f).2 ⟨d, .branch hsplit hfront hleads, hd⟩)
          · exact .inr (.further hsplit hfront hleads hd hback hv)

theorem Shielded.violates {f : Fault} (h : f.Shielded) : f.Violates := by
  induction h with
  | @cause d c _ hc => exact hc.inside (f := report d (some c)) (List.mem_singleton.2 rfl)
  | further hsplit _ _ _ hh hv => exact hv.inside (mem_inner_of_branches (by simp [hsplit, hh]))
  | deeper hsplit _ _ ih => exact ih.inside (mem_inner_of_branches (by simp [hsplit]))

/-- What shields a violation is a first report of another kind. -/
theorem Shielded.leads {f : Fault} (h : f.Shielded) : ∃ d, f.Leads d ∧ d.kind ≠ .invariant := by
  induction h with
  | @cause d c hd _ => exact ⟨d, .self (some c), hd⟩
  | further hsplit hfront hg hd => exact ⟨_, .branch hsplit hfront hg, hd⟩
  | deeper hsplit hfront _ ih =>
    obtain ⟨d, hleads, hd⟩ := ih
    exact ⟨d, .branch hsplit hfront hleads, hd⟩

theorem Shielded.not_fatal {f : Fault} (h : f.Shielded) : f.isFatal = false := by
  obtain ⟨d, hleads, hd⟩ := h.leads
  rw [Bool.eq_false_iff]
  intro hfatal
  obtain ⟨d', hleads', hkind⟩ := (isFatal_iff f).1 hfatal
  exact hd (hleads.unique hleads' ▸ hkind)

theorem violates_of_fatal {f : Fault} (h : f.isFatal = true) : f.Violates := by
  obtain ⟨d, hleads, hkind⟩ := (isFatal_iff f).1 h
  obtain ⟨cause, hwithin⟩ := hleads.within
  exact ⟨d, cause, hwithin, hkind⟩

/-- A fault is fatal for its first report only.  So a fatal fault has a violation in it, but
the other way round it is fatal for the violations in it if and only if none of them is
shielded by a first report of another kind. -/
theorem fatal_finds_violation_iff (f : Fault) :
    (f.isFatal = true ↔ ∃ d, f.Leads d ∧ d.kind = .invariant) ∧
      (f.isFatal = true → f.Violates) ∧
      ((f.isFatal = true ↔ f.Violates) ↔ ¬ f.Shielded) := by
  refine ⟨isFatal_iff f, violates_of_fatal, fun hfinds hshielded => ?_,
    fun hopen => ⟨violates_of_fatal, ?_⟩⟩
  · have hfatal := hfinds.2 hshielded.violates
    rw [hshielded.not_fatal] at hfatal
    cases hfatal
  · intro hviolates
    exact hviolates.seen_or_shielded.resolve_right hopen

/-- A violation that is the cause of a failed output. -/
def wrappedViolation : Fault :=
  report { phase := .output, kind := .io, detail := "write client output" }
    (some (invariant .traverse "no class under construction"))

theorem wrappedViolation_not_fatal :
    ¬ (wrappedViolation.isFatal = true ↔ wrappedViolation.Violates) := by
  intro hfinds
  have hviolates : wrappedViolation.Violates :=
    ⟨_, none, .inside (List.mem_singleton.2 rfl) .self, rfl⟩
  exact absurd (hfinds.2 hviolates) (by decide)

end Boardwright.Fault
