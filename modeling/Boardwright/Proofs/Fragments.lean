import Boardwright.Proofs.Requirements

/-!
# Fragments put together

Procedures are put together from fragments of code, one behind the other.  Lines
just follow each other, but a header or a forward declaration that is there
already is not added again.

* Merging.  A merge looks at the list that it adds to, never for repetitions in
  what it got first.  `merge_merge` says that the order in which lists are merged
  does not matter all the same, and `nodup_merge` that no repetition comes in.
* Fragments.  `Distinct` is for fragments that need everything once, and `Built`
  for what comes about from lines.  The two are the same (`built_iff_distinct`).

`fragments_form_monoid` is the result.
-/

namespace Boardwright.Source

/-! ## Merging -/

section Merge

variable {α : Type} [BEq α]

theorem merge_append (known as bs : List α) :
    merge known (as ++ bs) = merge (merge known as) bs := by
  induction as generalizing known with
  | nil => rfl
  | cons a as ih => exact ih _

variable [LawfulBEq α]

theorem mem_merge {known as : List α} {a : α} : a ∈ merge known as ↔ a ∈ known ∨ a ∈ as := by
  by_cases ha : a ∈ known
  · simp [merge_eq, ha]
  · simp [merge_eq, List.removeAll, List.mem_eraseDups, ha]

/-- It does not matter whether a list is merged into the middle of three or into the merge of the
first two. -/
theorem merge_merge (known as bs : List α) :
    merge known (merge as bs) = merge (merge known as) bs := by
  induction bs generalizing as with
  | nil => rfl
  | cons b bs ih =>
    -- One element: if it is in `as`, it is in the merge too.
    have hone : merge known (if as.contains b then as else as ++ [b]) =
        if (merge known as).contains b then merge known as else merge known as ++ [b] := by
      by_cases hb : b ∈ as
      · rw [if_pos (by simpa using hb), if_pos (by simp [mem_merge, hb])]
      · rw [if_neg (by simpa using hb), merge_append]
        rfl
    rw [merge, ih, hone, ← merge]

theorem nodup_merge {known : List α} (h : known.Nodup) (as : List α) : (merge known as).Nodup := by
  rw [merge_eq, List.nodup_append]
  refine ⟨h, nodup_eraseDups _, fun a ha b hb => ?_⟩
  rintro rfl
  simp [List.removeAll, List.mem_eraseDups, ha] at hb

theorem merge_nil_left (as : List α) : merge [] as = as.eraseDups := merge_eraseDups [] as

/-- Into nothing everything is merged as it is, if there are no repetitions. -/
theorem merge_nil_left_eq_self {as : List α} : merge [] as = as ↔ as.Nodup := by
  rw [merge_nil_left]
  constructor
  · intro h
    rw [← h]
    exact nodup_eraseDups as
  · intro h
    induction as with
    | nil => rfl
    | cons a as ih =>
      obtain ⟨ha, has⟩ := List.nodup_cons.1 h
      have hrest : as.filter (fun x => !x == a) = as := by
        refine List.filter_eq_self.2 fun x hx => ?_
        simpa using ne_of_mem_of_not_mem hx ha
      rw [List.eraseDups_cons, hrest, ih has]

end Merge

/-! ## Fragments -/

namespace Code

variable {c d : Code}

/-- Every header and every forward declaration stands in the fragment once. -/
structure Distinct (c : Code) : Prop where
  includes : c.includes.Nodup
  forwardDecls : c.forwardDecls.Nodup

/-- The fragments that come about from lines, by needs, declarations and appending. -/
inductive Built : Code → Prop
  | ofLines (lines : List String) : Built (ofLines lines)
  | needs {c : Code} (h : Built c) (includes : List Include) : Built (c.needs includes)
  | declares {c : Code} (h : Built c) (decls : List String) : Built (c.declares decls)
  | append {c d : Code} (h : Built c) (h' : Built d) : Built (c ++ d)

theorem append_lines (c d : Code) : (c ++ d).lines = c.lines ++ d.lines := rfl

theorem append_includes (c d : Code) :
    (c ++ d).includes = c.includes ++ (d.includes.removeAll c.includes).eraseDups :=
  merge_eq ..

theorem append_forwardDecls (c d : Code) :
    (c ++ d).forwardDecls =
      c.forwardDecls ++ (d.forwardDecls.removeAll c.forwardDecls).eraseDups :=
  merge_eq ..

theorem append_assoc (c d e : Code) : c ++ d ++ e = c ++ (d ++ e) := by
  show append (append c d) e = append c (append d e)
  simp only [append, merge_merge, List.append_assoc]

theorem append_empty (c : Code) : c ++ ({} : Code) = c := by
  show append c {} = c
  simp only [append, merge, List.append_nil]

theorem empty_append_eq_self : ({} : Code) ++ c = c ↔ c.Distinct := by
  show append {} c = c ↔ c.Distinct
  obtain ⟨lines, includes, decls⟩ := c
  simp only [append, List.nil_append, Code.mk.injEq, merge_nil_left_eq_self, true_and]
  exact ⟨fun h => ⟨h.1, h.2⟩, fun h => ⟨h.includes, h.forwardDecls⟩⟩

theorem Built.distinct (h : c.Built) : c.Distinct := by
  induction h with
  | ofLines lines => exact ⟨List.nodup_nil, List.nodup_nil⟩
  | needs h includes ih => exact ⟨nodup_merge ih.includes _, ih.forwardDecls⟩
  | declares h decls ih => exact ⟨ih.includes, nodup_merge ih.forwardDecls _⟩
  | append h h' ih ih' => exact ⟨nodup_merge ih.includes _, nodup_merge ih.forwardDecls _⟩

/-- Whatever has no repetitions can be built: from its lines, by what it needs and declares. -/
theorem built_iff_distinct : c.Built ↔ c.Distinct := by
  refine ⟨Built.distinct, fun h => ?_⟩
  have hbuilt := ((Built.ofLines c.lines).needs c.includes).declares c.forwardDecls
  have hself : ((ofLines c.lines).needs c.includes).declares c.forwardDecls = c := by
    show { lines := c.lines, includes := merge [] c.includes
           forwardDecls := merge [] c.forwardDecls : Code } = c
    rw [merge_nil_left_eq_self.2 h.includes, merge_nil_left_eq_self.2 h.forwardDecls]
  rwa [hself] at hbuilt

/-- Fragments form a monoid.  Appending is associative on all fragments, and the empty fragment
changes nothing on the right of any, and on the left of exactly those that have no repetitions.
Lines are concatenated; of what is needed and declared, the first occurrences of what is new come
behind what is there.  Without repetitions are exactly the fragments that can be built. -/
theorem fragments_form_monoid :
    (∀ c d e : Code, c ++ d ++ e = c ++ (d ++ e)) ∧
      (∀ c : Code, c ++ ({} : Code) = c ∧ (({} : Code) ++ c = c ↔ c.Distinct)) ∧
      (∀ c d : Code, (c ++ d).lines = c.lines ++ d.lines ∧
        (c ++ d).includes = c.includes ++ (d.includes.removeAll c.includes).eraseDups ∧
        (c ++ d).forwardDecls =
          c.forwardDecls ++ (d.forwardDecls.removeAll c.forwardDecls).eraseDups) ∧
      ∀ c : Code, c.Built ↔ c.Distinct :=
  ⟨append_assoc, fun c => ⟨append_empty c, empty_append_eq_self⟩,
    fun c d => ⟨append_lines c d, append_includes c d, append_forwardDecls c d⟩,
    fun _ => built_iff_distinct⟩

end Code

end Boardwright.Source
