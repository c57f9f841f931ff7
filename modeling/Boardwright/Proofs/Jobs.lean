import Boardwright.Proofs.FileTrees

/-!
# Runs of jobs

A job runs on a tree and leaves a tree behind, whether or not it fails.

* Runs.  `run_bind_of_ok` and `run_bind_ok` take a job apart that is made of two,
  forwards and backwards; there is a lemma of this kind for each way of making
  jobs.
* Invariants.  `Keeps` is for what a job does not destroy, even if it fails half
  way.
* Directories.  `makeNested_grown` and `makeDirectories_grown` say that nothing is
  lost when directories are made: the tree has grown by some directories, at
  the places of the paths that were asked for.
-/

namespace Boardwright.Job

open FileTree (WellFormed IsPathText)

variable {α β : Type} {t t' t'' : FileTree} {e : Fault}

/-! ## Runs -/

theorem run_get_bind (k : FileTree → Job α) (t : FileTree) :
    (get >>= k : Job α).run t = (k t).run t := rfl

theorem run_modify_bind (f : FileTree → FileTree) (k : PUnit → Job α) (t : FileTree) :
    (modify f >>= k : Job α).run t = (k ⟨⟩).run (f t) := rfl

theorem run_bind_of_ok {x : Job α} {k : α → Job β} {a : α} (h : x.run t = (.ok a, t')) :
    (x >>= k).run t = (k a).run t' := by
  show ExceptT.bindCont k (x.run t).1 (x.run t).2 = _
  rw [h]
  rfl

theorem run_bind_of_error {x : Job α} {k : α → Job β} (h : x.run t = (.error e, t')) :
    (x >>= k).run t = (.error e, t') := by
  show ExceptT.bindCont k (x.run t).1 (x.run t).2 = _
  rw [h]
  rfl

/-- A job in two parts succeeds by the success of both. -/
theorem run_bind_ok {x : Job α} {k : α → Job β} {b : β} (h : (x >>= k).run t = (.ok b, t'')) :
    ∃ a t', x.run t = (.ok a, t') ∧ (k a).run t' = (.ok b, t'') := by
  rcases hx : x.run t with ⟨outcome, t'⟩
  cases outcome with
  | error e =>
    rw [run_bind_of_error hx] at h
    cases h
  | ok a =>
    rw [run_bind_of_ok hx] at h
    exact ⟨a, t', rfl, h⟩

theorem run_rewording (f : Fault → Fault) (work : Job α) (t : FileTree) :
    (work.rewording f).run t = ((work.run t).1.mapError f, (work.run t).2) := by
  have hbind (k : Except Fault α → StateM FileTree (Except Fault α)) :
      (work.run >>= k : StateM FileTree _) t = k (work.run t).1 (work.run t).2 := rfl
  show (ExceptT.tryCatch work fun e => throw (f e)).run t = _
  unfold ExceptT.tryCatch
  refine (hbind _).trans ?_
  cases (work.run t).1 <;> rfl

theorem run_rewording_of_ok {f : Fault → Fault} {work : Job α} {a : α}
    (h : work.run t = (.ok a, t')) : (work.rewording f).run t = (.ok a, t') := by
  rw [run_rewording, h]
  rfl

theorem run_rewording_ok {f : Fault → Fault} {work : Job α} {a : α}
    (h : (work.rewording f).run t = (.ok a, t')) : work.run t = (.ok a, t') := by
  rw [run_rewording] at h
  rcases hwork : work.run t with ⟨outcome, s⟩
  rw [hwork] at h
  cases outcome with
  | error e => cases h
  | ok b =>
    cases h
    rfl

theorem run_thenAlways (work : Job α) (f : FileTree → FileTree) (t : FileTree) :
    (work.thenAlways f).run t = ((work.run t).1, f (work.run t).2) := by
  have hlift : (liftM (work.run : StateM FileTree (Except Fault α)) : Job (Except Fault α)).run t =
      (.ok (work.run t).1, (work.run t).2) := rfl
  unfold thenAlways
  refine (run_bind_of_ok hlift).trans ?_
  cases (work.run t).1 <;> rfl

theorem run_change_of_ok {f : FileTree → Except Fault FileTree} (h : f t = .ok t') :
    (change f).run t = (.ok (), t') := by
  unfold change
  rw [run_get_bind, h]
  rfl

theorem run_change_of_error {f : FileTree → Except Fault FileTree} (h : f t = .error e) :
    (change f).run t = (.error e, t) := by
  unfold change
  rw [run_get_bind, h]
  rfl

theorem run_change_ok {f : FileTree → Except Fault FileTree}
    (h : (change f).run t = (.ok (), t')) : f t = .ok t' := by
  unfold change at h
  rw [run_get_bind] at h
  cases hf : f t with
  | error e =>
    rw [hf] at h
    cases h
  | ok s =>
    rw [hf] at h
    cases h
    rfl

theorem mapError_ok {x : Except Refusal β} {f : Refusal → Fault} {b : β}
    (h : x.mapError f = .ok b) : x = .ok b := by
  cases x with
  | error r => cases h
  | ok a =>
    cases h
    rfl

theorem run_of_isOk (job : Job α) (h : (job.run t).1.isOk = true) :
    ∃ a t', job.run t = (.ok a, t') := by
  cases hrun : (job.run t).1 with
  | error f =>
    rw [hrun] at h
    cases h
  | ok a => exact ⟨a, _, Prod.ext hrun rfl⟩

theorem run_of_not_isOk (job : Job α) (h : (job.run t).1.isOk = false) :
    ∃ f, job.run t = (.error f, (job.run t).2) := by
  cases hrun : (job.run t).1 with
  | error f => exact ⟨f, Prod.ext hrun rfl⟩
  | ok a =>
    rw [hrun] at h
    cases h

/-- A change that fails changes nothing. -/
theorem run_change_tree (f : FileTree → Except Fault FileTree) (t : FileTree) :
    ((change f).run t).2 = t ∨ f t = .ok ((change f).run t).2 := by
  unfold change
  rw [run_get_bind]
  cases hf : f t with
  | error e => exact .inl rfl
  | ok s => exact .inr rfl

/-! ## Invariants -/

/-- The job leaves `I` true, even if it fails. -/
def Keeps (I : FileTree → Prop) (work : Job α) : Prop := ∀ t, I t → I (work.run t).2

namespace Keeps

variable {I : FileTree → Prop}

theorem pure (a : α) : Keeps I (Pure.pure a) := fun _ h => h

theorem throw (e : Fault) : Keeps I (MonadExcept.throw e : Job α) := fun _ h => h

theorem bind {x : Job α} {k : α → Job β} (hx : Keeps I x) (hk : ∀ a, Keeps I (k a)) :
    Keeps I (x >>= k) := by
  intro t ht
  have hmid := hx t ht
  rcases hrun : x.run t with ⟨outcome, t'⟩
  rw [hrun] at hmid
  cases outcome with
  | error e =>
    rw [run_bind_of_error hrun]
    exact hmid
  | ok a =>
    rw [run_bind_of_ok hrun]
    exact hk a t' hmid

/-- A job that looks at the tree before it starts. -/
theorem get_bind {k : FileTree → Job α} (h : ∀ t, I t → Keeps I (k t)) : Keeps I (get >>= k) :=
  fun t ht => h t ht t ht

theorem rewording {work : Job α} (h : Keeps I work) (f : Fault → Fault) :
    Keeps I (work.rewording f) := by
  intro t ht
  rw [run_rewording]
  exact h t ht

theorem forM {as : List α} {f : α → Job PUnit} (h : ∀ a ∈ as, Keeps I (f a)) :
    Keeps I (as.forM f) := by
  induction as with
  | nil => exact pure _
  | cons a as ih =>
    show Keeps I (f a >>= fun _ => as.forM f)
    exact bind (h a List.mem_cons_self) fun _ => ih fun b hb => h b (List.mem_cons_of_mem _ hb)

end Keeps

/-! ## Directories -/

/-- The tree has more directories than before, at places of the given paths. -/
structure Grown (paths : List String) (t t' : FileTree) : Prop where
  wellFormed : t'.WellFormed
  base : t'.base = t.base
  entries : ∀ loc, t'.get? loc = t.get? loc ∨
    t.get? loc = none ∧ t'.get? loc = some .directory ∧
      ∃ path ∈ paths, t.place path = loc ∧ IsPathText path

theorem Grown.refl (ht : t.WellFormed) (paths : List String) : Grown paths t t :=
  ⟨ht, rfl, fun _ => .inl rfl⟩

theorem Grown.cons {paths : List String} (h : Grown paths t t') (path : String) :
    Grown (path :: paths) t t' := by
  refine ⟨h.wellFormed, h.base, fun loc => ?_⟩
  rcases h.entries loc with hsame | ⟨hold, hnew, p, hp, hplace⟩
  · exact .inl hsame
  · exact .inr ⟨hold, hnew, p, List.mem_cons_of_mem _ hp, hplace⟩

/-- One more directory. -/
theorem Grown.makeDirectory {paths : List String} {path : String} (h : Grown paths t t')
    (hmake : t'.makeDirectory path = .ok t'') : Grown (path :: paths) t t'' := by
  obtain ⟨⟨g, htarget⟩, hfree, rfl⟩ := FileTree.makeDirectory_ok hmake
  have hnone : t'.get? (t'.place path) ≠ some .directory := by rw [hfree]; nofun
  obtain ⟨hwell, hne⟩ := h.wellFormed.put_place htarget hnone .directory
  have hplace : t.place path = t'.place path := by rw [FileTree.place, FileTree.place, h.base]
  refine ⟨hwell, h.base, fun loc => ?_⟩
  rw [FileTree.get?_put t' _ hne]
  by_cases hloc : loc = t'.place path
  · rw [if_pos hloc]
    have hbefore : t.get? loc = none := by
      rcases h.entries loc with hsame | ⟨hold, -⟩
      · rw [← hsame, hloc, hfree]
      · exact hold
    exact .inr ⟨hbefore, rfl, path, List.mem_cons_self, hplace.trans hloc.symm,
      (FileTree.target_ok htarget).text⟩
  · rw [if_neg hloc]
    exact (h.cons path).entries loc

theorem Grown.content {paths : List String} (h : Grown paths t t') (loc : Location) :
    t'.content? loc = t.content? loc := by
  rw [FileTree.content?, FileTree.content?]
  rcases h.entries loc with hsame | ⟨hold, hnew, -⟩
  · rw [hsame]
  · rw [hold, hnew]
    rfl

theorem makeNested_grown (ht : t.WellFormed) (paths : List String) :
    Grown paths t ((makeNested paths).run t).2 := by
  induction paths with
  | nil => exact .refl ht _
  | cons path outer ih =>
    unfold makeNested
    rw [run_get_bind]
    cases hfind : t.find path with
    | ok found =>
      obtain ⟨loc, entry⟩ := found
      cases entry with
      | file content => exact .refl ht _
      | directory => exact .refl ht _
    | error r =>
      dsimp only
      rcases houter : (makeNested outer).run t with ⟨outcome, t'⟩
      rw [houter] at ih
      cases outcome with
      | error e =>
        rw [run_bind_of_error houter]
        exact ih.cons path
      | ok u =>
        rw [run_bind_of_ok houter, run_get_bind]
        cases hmake : t'.makeDirectory path with
        | ok t'' => exact ih.makeDirectory hmake
        | error r' =>
          split
          · next heq => cases heq
          · exact ih.cons path
          · exact ih.cons path

/-- The paths of a directory and of all directories on the way to it. -/
def pathsTo (path : String) : List String :=
  path :: (enclosing (Text.split '/' path).reverse).map fun rev => Text.join "/" rev.reverse

theorem makeDirectories_grown (ht : t.WellFormed) (path : String) :
    Grown (pathsTo path) t ((makeDirectories path).run t).2 :=
  makeNested_grown ht (pathsTo path)

theorem mem_enclosing {rev rest : List String} (h : rest ∈ enclosing rev) :
    rest <:+ rev ∧ rest ≠ [] ∧ rest ≠ [""] := by
  induction rev with
  | nil => cases h
  | cons part parts ih =>
    rw [enclosing] at h
    split at h
    · obtain ⟨hsuffix, hne⟩ := ih h
      exact ⟨hsuffix.trans (List.suffix_cons ..), hne⟩
    · split at h
      · cases h
      · next hparts =>
        rcases List.mem_cons.1 h with rfl | hmem
        · rw [Bool.or_eq_true, decide_eq_true_iff, decide_eq_true_iff, not_or] at hparts
          exact ⟨List.suffix_cons .., hparts⟩
        · obtain ⟨hsuffix, hne⟩ := ih hmem
          exact ⟨hsuffix.trans (List.suffix_cons ..), hne⟩

/-- The directories on the way to a path are made of its parts. -/
theorem split_pathsTo {path p : String} (h : p ∈ pathsTo path) :
    Text.split '/' p ⊆ Text.split '/' path := by
  rcases List.mem_cons.1 h with rfl | hmem
  · exact List.Subset.refl _
  · obtain ⟨rest, hrest, rfl⟩ := List.mem_map.1 hmem
    obtain ⟨hsuffix, hne, -⟩ := mem_enclosing hrest
    have hsub : rest.reverse ⊆ Text.split '/' path := by
      intro part hpart
      exact List.mem_reverse.1 (hsuffix.subset (List.mem_reverse.1 hpart))
    rw [Text.split_join (by simpa using hne) fun part hpart => (Text.mem_split (hsub hpart)).1]
    exact hsub

/-- The directories on the way to a cleaned path have cleaned paths too. -/
theorem mem_pathsTo_render {rooted : Bool} {parts : List String} {p : String}
    (hslash : ∀ part ∈ parts, '/' ∉ part.toList) (h : p ∈ pathsTo (Path.render rooted parts)) :
    ∃ front, front <+: parts ∧ p = Path.render rooted front := by
  rcases List.mem_cons.1 h with rfl | hmem
  · exact ⟨parts, List.prefix_refl _, rfl⟩
  · obtain ⟨rest, hrest, rfl⟩ := List.mem_map.1 hmem
    by_cases hparts : parts = []
    · subst hparts
      cases rooted <;> cases hrest
    obtain ⟨hsuffix, hne, hroot⟩ := mem_enclosing hrest
    rw [Path.split_render hparts hslash] at hsuffix
    have hpre : rest.reverse <+: (if rooted then [""] else []) ++ parts := by
      rw [← List.reverse_suffix, List.reverse_reverse]
      exact hsuffix
    have hrev : rest.reverse ≠ [] := by simpa using hne
    cases rooted with
    | false =>
      refine ⟨rest.reverse, hpre, ?_⟩
      rw [Path.render, if_neg (by decide), if_neg hrev]
    | true =>
      obtain ⟨first, front, hfront⟩ := List.exists_cons_of_ne_nil hrev
      rw [hfront] at hpre
      obtain ⟨rfl, hfrontParts⟩ := List.cons_prefix_cons.1 hpre
      have hsome : front ≠ [] := by
        rintro rfl
        apply hroot
        rw [← List.reverse_reverse rest, hfront]
        rfl
      refine ⟨front, hfrontParts, ?_⟩
      rw [hfront, Text.join_cons "/" "" hsome, Path.render, if_pos rfl]
      rfl

end Boardwright.Job
