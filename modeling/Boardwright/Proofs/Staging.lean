import Boardwright.Output
import Boardwright.Proofs.Jobs

/-!
# Filling the staging directory

Results are written into a staging directory before anything is published.  This module shows what
that directory is worth while it is being filled.

There are four groups.

* The directory.  `Stage` is a staging directory with its path and its place.  Its name is new, so a
  place that has the name in it lies in the directory.
* The invariant.  `Staged` holds from the moment the directory is there: outside of it nothing
  changes, whatever fails.  One lemma for each part of the work shows that it is kept, from `store`
  up to `fill`.  The paths must not climb out of the directory; nothing else is asked of them.
* Contents.  `Stored` says what work that succeeds has written into the directory.  A file
  is a `single` content, and a deployment is a `graft` of what stands at its source; work in
  sequence is `layered`, so that the later content counts.
* The results.  `fill_fills` puts these together.
-/

namespace Boardwright.Output

open FileTree (IsFileName IsPathText)
open Job (Keeps)

/-! ## The directory -/

/-- A staging directory: its path, and its place for paths that start from `base`.  Its own name,
`mark`, does not occur earlier in its path. -/
structure Stage where
  base : Location
  path : String
  front : List String
  mark : String
  notEmpty : path ≠ ""
  components : Path.components path = front ++ [mark]
  isFileName : IsFileName mark
  front_new : mark ∉ front

namespace Stage

variable (s : Stage)

/-- Where the path starts from. -/
def start : Location := if Path.isRooted s.path then [] else s.base

/-- The place of the directory that holds the staging directory. -/
def home : Location := s.front.foldl Path.go s.start

/-- The place of the staging directory. -/
def loc : Location := s.home ++ [s.mark]

theorem foldl_components : (Path.components s.path).foldl Path.go s.start = s.loc := by
  rw [s.components, List.foldl_append]
  exact Path.go_name s.home s.isFileName.toIsName

theorem follow_path : Path.follow s.base s.path = s.loc := by
  rw [Path.follow_eq_components]
  exact s.foldl_components

theorem components_ne_nil : Path.components s.path ≠ [] := by
  rw [s.components]
  simp

theorem loc_ne_nil : s.loc ≠ [] := by
  rw [loc]
  simp

variable {s}

/-- A place at the name of the staging directory, below a place without that name. -/
theorem loc_prefix_concat {source : Location} (hnew : s.mark ∉ source)
    (h : s.loc <+: source ++ [s.mark]) : source = s.home := by
  rcases List.prefix_concat_iff.1 h with heq | hpre
  · exact (List.append_inj' heq rfl).1.symm
  · have hmem : s.mark ∈ source := hpre.subset (by simp [loc])
    exact absurd hmem hnew

end Stage

/-! ## The invariant -/

/-- The tree while the staging directory is being filled, which was there and empty in `t₀`. -/
structure Staged (s : Stage) (t₀ t : FileTree) : Prop where
  wellFormed : t.WellFormed
  base : t.base = s.base
  directory : t.get? s.loc = some .directory
  /-- Outside, everything is as it was. -/
  outside : ∀ loc, ¬ s.loc <+: loc → t.get? loc = t₀.get? loc
  /-- Nothing else has the name of the directory. -/
  unmarked : ∀ loc, s.mark ∈ loc → ¬ s.loc <+: loc → t.get? loc = none
  /-- What is in the directory can be reached by its path. -/
  fits : ∀ rel, rel ≠ [] → t.get? (s.loc ++ rel) ≠ none → IsPathText (Path.within s.path rel)
  free : t.get? (s.loc ++ [s.mark]) = none

/-- Directories were made on the way to a place in the staging directory. -/
structure Raised (s : Stage) (rel : Location) (t t' : FileTree) : Prop where
  wellFormed : t'.WellFormed
  base : t'.base = t.base
  entries : ∀ loc, t'.get? loc = t.get? loc ∨
    t.get? loc = none ∧ t'.get? loc = some .directory ∧
      ∃ front, front ≠ [] ∧ front <+: rel ∧ loc = s.loc ++ front ∧
        IsPathText (Path.within s.path front)

variable {s : Stage} {t₀ t t' : FileTree} {rel : Location} {content : String}

namespace Staged

theorem start_eq (h : Staged s t₀ t) : t.start s.path = s.start := by
  rw [FileTree.start, Stage.start, h.base]

/-- The path of the staging directory leads through directories. -/
theorem front_directory (h : Staged s t₀ t) {front : List String}
    (hfront : front <+: Path.components s.path) :
    t.get? (front.foldl Path.go s.start) = some .directory := by
  obtain ⟨rest, hrest⟩ := hfront
  have hstacked := Path.components_stacked s.path
  have hstart := FileTree.start_directory h.wellFormed s.path
  have hstage := h.directory
  rw [h.start_eq] at hstart
  rw [← s.foldl_components, ← hrest] at hstage
  rw [← hrest] at hstacked
  exact h.wellFormed.toTidy.foldl_front hstacked hstart hstage

/-- A path in the staging directory leads to its place. -/
theorem place_within (h : Staged s t₀ t) (hrel : ∀ name ∈ rel, Path.IsName name ∧ '/' ∉ name.toList) :
    t.place (Path.within s.path rel) = s.loc ++ rel := by
  rw [FileTree.place, h.base, Path.follow_within s.base s.path hrel, s.follow_path]

theorem makeDirectories (h : Staged s t₀ t)
    (hrel : ∀ name ∈ rel, Path.IsName name ∧ '/' ∉ name.toList) :
    Raised s rel t ((Job.makeDirectories (Path.parent (Path.within s.path rel))).run t).2 := by
  have hgrown := Job.makeDirectories_grown h.wellFormed (Path.parent (Path.within s.path rel))
  refine ⟨hgrown.wellFormed, hgrown.base, fun loc => ?_⟩
  rcases hgrown.entries loc with hsame | ⟨hold, hnew, p, hp, hplace, htext⟩
  · exact .inl hsame
  refine .inr ⟨hold, hnew, ?_⟩
  have hplain := Path.within_plain s.path hrel
  have hdrop : (Path.components s.path ++ rel).dropLast <+: Path.components s.path ++ rel :=
    List.dropLast_prefix _
  rw [Path.parent_within s.components_ne_nil hrel] at hp
  obtain ⟨front, hfront, rfl⟩ :=
    Job.mem_pathsTo_render (fun part hpart => (hplain part (hdrop.subset hpart)).2) hp
  have hwhole := hfront.trans hdrop
  have hwalk : front.foldl Path.go s.start = loc := by
    rw [← hplace, FileTree.place, h.base,
      Path.follow_render _ fun part hpart => hplain part (hwhole.subset hpart)]
    rfl
  -- A path up to the staging directory is there already.
  rcases List.prefix_or_prefix_of_prefix hwhole (List.prefix_append _ rel) with hshort | hlong
  · rw [← hwalk, h.front_directory hshort] at hold
    cases hold
  · obtain ⟨inner, rfl⟩ := hlong
    have hinner : inner <+: rel := (List.prefix_append_right_inj _).1 hwhole
    have hnames : ∀ name ∈ inner, Path.IsName name :=
      fun name hname => (hrel name (hinner.subset hname)).1
    rw [List.foldl_append, s.foldl_components, Path.foldl_go_names hnames] at hwalk
    refine ⟨inner, ?_, hinner, hwalk.symm, htext⟩
    rintro rfl
    rw [← hwalk, List.append_nil, h.directory] at hold
    cases hold

theorem raised (h : Staged s t₀ t) (hhead : rel.head? ≠ some s.mark) (hraised : Raised s rel t t') :
    Staged s t₀ t' where
  wellFormed := hraised.wellFormed
  base := hraised.base.trans h.base
  directory := by
    rcases hraised.entries s.loc with hsame | ⟨hold, -⟩
    · rw [hsame, h.directory]
    · rw [h.directory] at hold
      cases hold
  outside := by
    intro loc hloc
    rcases hraised.entries loc with hsame | ⟨-, -, front, -, -, rfl, -⟩
    · rw [hsame, h.outside loc hloc]
    · exact absurd (List.prefix_append ..) hloc
  unmarked := by
    intro loc hmark hloc
    rcases hraised.entries loc with hsame | ⟨-, -, front, -, -, rfl, -⟩
    · rw [hsame, h.unmarked loc hmark hloc]
    · exact absurd (List.prefix_append ..) hloc
  fits := by
    intro r hr hentry
    rcases hraised.entries (s.loc ++ r) with hsame | ⟨-, -, front, -, -, heq, htext⟩
    · rw [hsame] at hentry
      exact h.fits r hr hentry
    · rw [List.append_cancel_left heq]
      exact htext
  free := by
    rcases hraised.entries (s.loc ++ [s.mark]) with hsame | ⟨-, -, front, -, hfront, heq, -⟩
    · rw [hsame, h.free]
    · obtain rfl := List.append_cancel_left heq
      obtain ⟨rest, rfl⟩ := hfront
      exact absurd rfl hhead

/-- A file that is written in the staging directory. -/
theorem writeFile (h : Staged s t₀ t) (hrel : ∀ name ∈ rel, Path.IsName name ∧ '/' ∉ name.toList)
    (hwrite : t.writeFile (Path.within s.path rel) content = .ok t') :
    rel ≠ [] ∧ IsPathText (Path.within s.path rel) ∧ t'.WellFormed ∧
      t' = t.put (s.loc ++ rel) (.file content) := by
  obtain ⟨⟨g, htarget⟩, hfree, rfl⟩ := FileTree.writeFile_ok hwrite
  have hwell := (h.wellFormed.put_place htarget hfree (.file content)).1
  rw [h.place_within hrel] at hfree hwell ⊢
  refine ⟨?_, (FileTree.target_ok htarget).text, hwell, rfl⟩
  rintro rfl
  rw [List.append_nil, h.directory] at hfree
  exact hfree rfl

theorem get?_put (hrel : rel ≠ []) (loc : Location) :
    (t.put (s.loc ++ rel) (.file content)).get? loc =
      if loc = s.loc ++ rel then some (.file content) else t.get? loc :=
  FileTree.get?_put t _ (by simp [hrel]) loc

theorem put (h : Staged s t₀ t) (hrel : rel ≠ []) (hhead : rel.head? ≠ some s.mark)
    (htext : IsPathText (Path.within s.path rel))
    (hwell : (t.put (s.loc ++ rel) (.file content)).WellFormed) :
    Staged s t₀ (t.put (s.loc ++ rel) (.file content)) where
  wellFormed := hwell
  base := h.base
  directory := by
    rw [get?_put hrel, if_neg (by simpa using hrel)]
    exact h.directory
  outside := by
    intro loc hloc
    rw [get?_put hrel, if_neg fun heq => hloc ⟨rel, heq.symm⟩]
    exact h.outside loc hloc
  unmarked := by
    intro loc hmark hloc
    rw [get?_put hrel, if_neg fun heq => hloc ⟨rel, heq.symm⟩]
    exact h.unmarked loc hmark hloc
  fits := by
    intro r hr hentry
    by_cases heq : r = rel
    · rw [heq]
      exact htext
    · rw [get?_put hrel, if_neg fun hloc => heq (List.append_cancel_left hloc)] at hentry
      exact h.fits r hr hentry
  free := by
    rw [get?_put hrel, if_neg ?_]
    · exact h.free
    · intro heq
      rw [← List.append_cancel_left heq] at hhead
      exact hhead rfl

end Staged

/-- A place in the staging directory that a source may be copied to.  What comes from a directory
around the staging directory must not meet it again. -/
structure Sheltered (s : Stage) (source rel : Location) : Prop where
  head : rel.head? ≠ some s.mark
  apart : rel = [] → s.mark ∉ source ∧ ¬ source <+: s.home

/-- What is in a sheltered directory is sheltered. -/
theorem Sheltered.child {source : Location} {name : String} (hshelter : Sheltered s source rel)
    (h : Staged s t₀ t) (hentry : t.get? (source ++ [name]) ≠ none) :
    Sheltered s (source ++ [name]) (rel ++ [name]) := by
  constructor
  · by_cases hrel : rel = []
    · obtain ⟨hnew, haround⟩ := hshelter.apart hrel
      rw [hrel]
      intro heq
      obtain rfl : name = s.mark := Option.some_inj.1 heq
      apply hentry
      refine h.unmarked _ (by simp) fun hpre => ?_
      rw [Stage.loc_prefix_concat hnew hpre] at haround
      exact haround (List.prefix_refl _)
    · obtain ⟨first, rest, rfl⟩ := List.exists_cons_of_ne_nil hrel
      exact hshelter.head
  · intro hnil
    simp at hnil

theorem store_keeps {f : OutputFile} (hrel : Path.inside? f.path = some rel)
    (hhead : rel.head? ≠ some s.mark) : Keeps (Staged s t₀) (store s.path f) := by
  have hplain := Path.inside?_plain hrel
  unfold store
  rw [Path.join_within s.notEmpty hrel]
  refine Keeps.bind (Keeps.rewording ?_ _) fun _ => Keeps.rewording ?_ _
  · intro t ht
    exact ht.raised hhead (ht.makeDirectories hplain)
  · intro t ht
    unfold Job.create
    rcases Job.run_change_tree (fun t : FileTree =>
        (t.writeFile (Path.within s.path rel) f.content).mapError
          (·.fault "open" (Path.within s.path rel))) t with hsame | hchange
    · rw [hsame]
      exact ht
    · obtain ⟨hne, htext, hwell, heq⟩ := ht.writeFile hplain (Job.mapError_ok hchange)
      rw [heq] at hwell ⊢
      exact ht.put hne hhead htext hwell

theorem copyFile_keeps {source dest : String} (hrel : Path.inside? dest = some rel)
    (hhead : rel.head? ≠ some s.mark) : Keeps (Staged s t₀) (copyFile s.path source dest) := by
  unfold copyFile
  refine Keeps.get_bind fun t _ => ?_
  split
  · exact Keeps.throw _
  · refine Keeps.bind (store_keeps hrel hhead) fun _ => Keeps.get_bind fun t' _ => ?_
    exact store_keeps hrel hhead

/-- What is known of the names in a directory while it is being copied. -/
theorem Staged.child {source dest name : String} {g : FileTree.Target} (h : Staged s t₀ t)
    (hsource : t.target source = .ok g) (hrel : Path.inside? dest = some rel)
    (hname : name ∈ t.children (Path.follow s.base source)) :
    t.get? (Path.follow s.base source ++ [name]) ≠ none ∧
      Path.follow s.base (Path.join [source, name]) = Path.follow s.base source ++ [name] ∧
      Path.inside? (Path.join [dest, name]) = some (rel ++ [name]) := by
  have hentry := h.wellFormed.mem_children.1 hname
  obtain ⟨e, he⟩ := Option.ne_none_iff_exists'.1 hentry
  have hfile := h.wellFormed.names_of_entry he name (by simp)
  have hinside := Path.inside?_name hfile.toIsName hfile.slash
  refine ⟨hentry, ?_, Path.inside?_join hrel hinside⟩
  exact Path.follow_join_inside s.base (FileTree.target_ok hsource).text.notEmpty hinside

theorem copyBelow_keeps (depth : Nat) {source dest : String} (hrel : Path.inside? dest = some rel)
    (hshelter : Sheltered s (Path.follow s.base source) rel) :
    Keeps (Staged s t₀) (copyBelow s.path depth source dest) := by
  induction depth generalizing source dest rel with
  | zero => exact Keeps.throw _
  | succ depth ih =>
    unfold copyBelow
    refine Keeps.get_bind fun t ht => ?_
    cases hfind : t.find source with
    | error r => exact Keeps.throw _
    | ok found =>
      obtain ⟨loc, e⟩ := found
      obtain ⟨⟨g, htarget⟩, hloc, -⟩ := FileTree.find_ok hfind
      rw [FileTree.place, ht.base] at hloc
      subst hloc
      refine Keeps.forM fun name hname => ?_
      obtain ⟨hentry, hplace, hinside⟩ := ht.child htarget hrel hname
      have hchild := hshelter.child ht hentry
      dsimp only
      split
      · exact ih hinside (hplace ▸ hchild)
      · exact copyFile_keeps hinside hchild.head

theorem deploy_keeps {d : Deployment} (hrel : Path.inside? d.dest = some rel)
    (hshelter : Sheltered s (Path.follow s.base d.source) rel) :
    Keeps (Staged s t₀) (deploy s.path d) := by
  unfold deploy
  refine Keeps.get_bind fun t _ => ?_
  split
  · exact Keeps.throw _
  · exact copyFile_keeps hrel hshelter.head
  · exact copyBelow_keeps 4096 hrel hshelter

/-- No path of a result climbs out of the staging directory. -/
structure Contained (s : Stage) (r : Result) : Prop where
  files : ∀ f ∈ r.files, ∃ rel, Path.inside? f.path = some rel ∧ rel.head? ≠ some s.mark
  deploy : ∀ d ∈ r.deploy, ∃ rel, Path.inside? d.dest = some rel ∧
    Sheltered s (Path.follow s.base d.source) rel

theorem storeResult_keeps {r : Result} (h : Contained s r) :
    Keeps (Staged s t₀) (storeResult s.path r) := by
  refine Keeps.bind (Keeps.forM fun f hf => ?_) fun _ => Keeps.forM fun d hd => ?_
  · obtain ⟨rel, hrel, hhead⟩ := h.files f hf
    exact store_keeps hrel hhead
  · obtain ⟨rel, hrel, hshelter⟩ := h.deploy d hd
    exact deploy_keeps hrel hshelter

/-- Whatever happens while the staging directory is being filled happens in it. -/
theorem fill_keeps {results : List Result} (h : ∀ r ∈ results, Contained s r) :
    Keeps (Staged s t₀) (fill s.path results) :=
  Keeps.forM fun r hr => (storeResult_keeps (h r hr)).rewording _

/-! ## Contents -/

/-- A content at one place. -/
def single (rel : Location) (content : String) (r : Location) : Option String :=
  if r = rel then some content else none

/-- What stands at and below a place, as it will stand at and below another one. -/
def graft (t : FileTree) (source rel : Location) (r : Location) : Option String :=
  if rel <+: r then t.content? (source ++ r.drop rel.length) else none

/-- The contents of several layers, the last of which counts. -/
def layered {α : Type} (new : α → Location → Option String) : List α → Location → Option String
  | [], _ => none
  | a :: as, r => (layered new as r).or (new a r)

theorem layered_append {α : Type} (new : α → Location → Option String) (as bs : List α)
    (r : Location) : layered new (as ++ bs) r = (layered new bs r).or (layered new as r) := by
  induction as with
  | nil => rw [List.nil_append, layered, Option.or_none]
  | cons a as ih => rw [List.cons_append, layered, layered, ih, Option.or_assoc]

theorem layered_flatMap {α β : Type} (new : β → Location → Option String) (f : α → List β)
    (as : List α) (r : Location) :
    layered new (as.flatMap f) r = layered (fun a => layered new (f a)) as r := by
  induction as with
  | nil => rfl
  | cons a as ih => rw [List.flatMap_cons, layered_append, ih, layered]

theorem layered_eq_none {α : Type} {new : α → Location → Option String} {as : List α} {r : Location}
    (h : ∀ a ∈ as, new a r = none) : layered new as r = none := by
  induction as with
  | nil => rfl
  | cons a as ih =>
    rw [layered, ih fun b hb => h b (List.mem_cons_of_mem _ hb), h a List.mem_cons_self,
      Option.or_none]

theorem layered_congr {α : Type} {new new' : α → Location → Option String} {as : List α}
    {r : Location} (h : ∀ a ∈ as, new a r = new' a r) : layered new as r = layered new' as r := by
  induction as with
  | nil => rfl
  | cons a as ih =>
    rw [layered, layered, ih fun b hb => h b (List.mem_cons_of_mem _ hb), h a List.mem_cons_self]

/-- One layer is enough, if the others have nothing at a place. -/
theorem layered_unique {α : Type} {new : α → Location → Option String} {as : List α} {a : α}
    {r : Location} (hmem : a ∈ as) (h : ∀ b ∈ as, b ≠ a → new b r = none) :
    layered new as r = new a r := by
  induction as with
  | nil => cases hmem
  | cons b bs ih =>
    rw [layered]
    by_cases hrest : a ∈ bs
    · rw [ih hrest fun c hc => h c (List.mem_cons_of_mem _ hc)]
      by_cases hb : b = a
      · rw [hb, Option.or_self]
      · rw [h b List.mem_cons_self hb, Option.or_none]
    · obtain rfl : a = b := (List.mem_cons.1 hmem).resolve_right hrest
      rw [layered_eq_none fun c hc => h c (List.mem_cons_of_mem _ hc) fun heq => hrest (heq ▸ hc),
        Option.none_or]

/-- What was written into the staging directory between two trees. -/
structure Stored (s : Stage) (new : Location → Option String) (t t' : FileTree) : Prop where
  content : ∀ r, t'.content? (s.loc ++ r) = (new r).or (t.content? (s.loc ++ r))
  /-- Directories are there for the sake of files only. -/
  made : ∀ r, r ≠ [] → t'.get? (s.loc ++ r) ≠ none →
    t.get? (s.loc ++ r) ≠ none ∨ ∃ whole, new whole ≠ none ∧ r <+: whole

namespace Stored

variable {new new' : Location → Option String} {t'' : FileTree}

theorem refl (t : FileTree) : Stored s (fun _ => none) t t :=
  ⟨fun _ => (Option.none_or).symm, fun _ _ h => .inl h⟩

theorem trans (h : Stored s new t t') (h' : Stored s new' t' t'') :
    Stored s (fun r => (new' r).or (new r)) t t'' := by
  constructor
  · intro r
    rw [h'.content, h.content, Option.or_assoc]
  · intro r hr hentry
    rcases h'.made r hr hentry with hmid | ⟨whole, hwhole, hpre⟩
    · rcases h.made r hr hmid with hold | ⟨whole, hwhole, hpre⟩
      · exact .inl hold
      · refine .inr ⟨whole, ?_, hpre⟩
        rw [ne_eq, Option.or_eq_none_iff]
        exact fun hnone => hwhole hnone.2
    · refine .inr ⟨whole, ?_, hpre⟩
      rw [ne_eq, Option.or_eq_none_iff]
      exact fun hnone => hwhole hnone.1

theorem congr (h : Stored s new t t') (heq : ∀ r, new r = new' r) : Stored s new' t t' := by
  obtain rfl : new = new' := funext heq
  exact h

end Stored

/-- Work that keeps the invariant and, if it succeeds, has written `new`. -/
structure Fills {α : Type} (s : Stage) (t₀ : FileTree) (new : Location → Option String)
    (work : Job α) : Prop where
  keeps : Keeps (Staged s t₀) work
  stored : ∀ t t' a, Staged s t₀ t → work.run t = (.ok a, t') → Stored s new t t'

namespace Fills

variable {α β : Type} {new new' : Location → Option String}

theorem congr {work : Job α} (h : Fills s t₀ new work) (heq : ∀ r, new r = new' r) :
    Fills s t₀ new' work :=
  ⟨h.keeps, fun t t' a ht hrun => (h.stored t t' a ht hrun).congr heq⟩

theorem bind {x : Job α} {k : α → Job β} (hx : Fills s t₀ new x)
    (hk : ∀ a, Fills s t₀ new' (k a)) : Fills s t₀ (fun r => (new' r).or (new r)) (x >>= k) := by
  refine ⟨Keeps.bind hx.keeps fun a => (hk a).keeps, fun t t'' b ht hrun => ?_⟩
  obtain ⟨a, t', hfirst, hrest⟩ := Job.run_bind_ok hrun
  have ht' := hx.keeps t ht
  rw [hfirst] at ht'
  exact (hx.stored t t' a ht hfirst).trans ((hk a).stored t' t'' b ht' hrest)

/-- Work that looks at the tree before it starts. -/
theorem get_bind {k : FileTree → Job α} (h : ∀ t, Staged s t₀ t → Fills s t₀ new (k t)) :
    Fills s t₀ new (get >>= k) :=
  ⟨Keeps.get_bind fun t ht => (h t ht).keeps,
    fun t t' a ht hrun => (h t ht).stored t t' a ht hrun⟩

theorem throw (e : Fault) : Fills s t₀ new (MonadExcept.throw e : Job α) :=
  ⟨Keeps.throw e, nofun⟩

theorem rewording {work : Job α} (h : Fills s t₀ new work) (f : Fault → Fault) :
    Fills s t₀ new (work.rewording f) :=
  ⟨h.keeps.rewording f, fun t t' a ht hrun => h.stored t t' a ht (Job.run_rewording_ok hrun)⟩

theorem forM {as : List α} {f : α → Job PUnit} {new : α → Location → Option String}
    (h : ∀ a ∈ as, Fills s t₀ (new a) (f a)) : Fills s t₀ (layered new as) (as.forM f) := by
  induction as with
  | nil =>
    refine ⟨Keeps.pure _, fun t t' a _ hrun => ?_⟩
    obtain rfl : t = t' := congrArg Prod.snd hrun
    exact .refl t
  | cons a as ih =>
    exact (h a List.mem_cons_self).bind fun _ => ih fun b hb => h b (List.mem_cons_of_mem _ hb)

end Fills

theorem store_fills {path : String} (hrel : Path.inside? path = some rel)
    (hhead : rel.head? ≠ some s.mark) (content : String) :
    Fills s t₀ (single rel content) (store s.path { path, content }) := by
  refine ⟨store_keeps hrel hhead, fun t t'' u ht hrun => ?_⟩
  have hplain := Path.inside?_plain hrel
  unfold store at hrun
  rw [Path.join_within s.notEmpty hrel] at hrun
  obtain ⟨_, t', hmake, hcreate⟩ := Job.run_bind_ok hrun
  have hraised := ht.makeDirectories hplain
  rw [Job.run_rewording_ok hmake] at hraised
  have hchange := Job.run_change_ok (Job.run_rewording_ok hcreate)
  obtain ⟨hne, -, -, rfl⟩ :=
    (ht.raised hhead hraised).writeFile hplain (Job.mapError_ok hchange)
  constructor
  · intro r
    rw [FileTree.content?, FileTree.content?, Staged.get?_put hne, single]
    by_cases hr : r = rel
    · rw [hr, if_pos rfl, if_pos rfl]
      rfl
    · rw [if_neg hr, if_neg fun heq => hr (List.append_cancel_left heq), Option.none_or]
      rcases hraised.entries (s.loc ++ r) with hsame | ⟨hold, hnew, -⟩
      · rw [hsame]
      · rw [hold, hnew]
        rfl
  · intro r hr hentry
    have hwhole : single rel content rel ≠ none := by
      rw [single, if_pos rfl]
      exact Option.some_ne_none _
    rw [Staged.get?_put hne] at hentry
    by_cases heq : r = rel
    · exact .inr ⟨rel, hwhole, heq ▸ List.prefix_refl _⟩
    · rw [if_neg fun h => heq (List.append_cancel_left h)] at hentry
      rcases hraised.entries (s.loc ++ r) with hsame | ⟨-, -, front, -, hfront, hloc, -⟩
      · rw [hsame] at hentry
        exact .inl hentry
      · rw [List.append_cancel_left hloc]
        exact .inr ⟨rel, hwhole, hfront⟩

theorem single_or {old : String} (r : Location) :
    (single rel content r).or (single rel old r) = single rel content r := by
  unfold single
  split
  · rfl
  · rfl

/-- A copied file has the content of its source. -/
theorem copyFile_fills {source dest : String} (hrel : Path.inside? dest = some rel)
    (hhead : rel.head? ≠ some s.mark) (houtside : ¬ s.loc <+: Path.follow s.base source)
    (hcontent : t₀.content? (Path.follow s.base source) = some content) :
    Fills s t₀ (single rel content) (copyFile s.path source dest) := by
  unfold copyFile
  refine Fills.get_bind fun t ht => ?_
  cases hfind : t.find source with
  | error r => exact .throw _
  | ok found =>
    obtain ⟨loc, e⟩ := found
    obtain ⟨-, hloc, -⟩ := FileTree.find_ok hfind
    rw [FileTree.place, ht.base] at hloc
    subst hloc
    refine ((store_fills hrel hhead "").bind fun _ => Fills.get_bind fun t' ht' => ?_).congr
      fun r => single_or r
    have hread : t'.content? (Path.follow s.base source) = some content := by
      rw [FileTree.content?, ht'.outside _ houtside]
      exact hcontent
    rw [hread]
    exact store_fills hrel hhead content

/-- A graft of a file is a single file. -/
theorem graft_file {source : Location} (ht : t.Tidy) (h : t.content? source = some content)
    (r : Location) : graft t source rel r = single rel content r := by
  unfold graft single
  by_cases hpre : rel <+: r
  · obtain ⟨rest, rfl⟩ := hpre
    rw [if_pos (List.prefix_append ..), List.drop_left]
    by_cases hrest : rest = []
    · rw [hrest, List.append_nil, List.append_nil, if_pos rfl, h]
    · have hfile : t.get? source ≠ some .directory := by
        intro hdir
        rw [FileTree.content?, hdir] at h
        cases h
      rw [if_neg (by simpa using hrest), FileTree.content?, ht.none_below_of_ne hfile hrest]
      rfl
  · have hne : r ≠ rel := by
      rintro rfl
      exact hpre (List.prefix_refl _)
    rw [if_neg hpre, if_neg hne]

/-- A graft of a directory is one graft for each name in it, because each has a place of its
own. -/
theorem layered_graft {source : Location} {names : List String} (ht : t.Tidy)
    (hdir : t.get? source = some .directory)
    (hnames : ∀ name, t.get? (source ++ [name]) ≠ none → name ∈ names) (r : Location) :
    layered (fun name => graft t (source ++ [name]) (rel ++ [name])) names r =
      graft t source rel r := by
  have hother {name : String} {rest : Location} (hne : ¬ rel ++ [name] <+: rel ++ rest) :
      graft t (source ++ [name]) (rel ++ [name]) (rel ++ rest) = none := if_neg hne
  by_cases hpre : rel <+: r
  · obtain ⟨rest, rfl⟩ := hpre
    have hgraft : graft t source rel (rel ++ rest) = t.content? (source ++ rest) := by
      rw [graft, if_pos (List.prefix_append ..), List.drop_left]
    rw [hgraft]
    cases rest with
    | nil =>
      have hshort (name : String) : ¬ rel ++ [name] <+: rel ++ [] := by
        rw [List.prefix_append_right_inj, List.prefix_nil]
        nofun
      rw [layered_eq_none fun name _ => hother (hshort name), List.append_nil, FileTree.content?,
        hdir]
      rfl
    | cons first rest =>
      by_cases hfirst : first ∈ names
      · rw [layered_unique hfirst fun name _ hne => hother (by simpa using hne)]
        have hwhole : rel ++ first :: rest = rel ++ [first] ++ rest := by simp
        rw [hwhole, graft, if_pos (List.prefix_append ..), List.drop_left]
        simp
      · have hnone : t.content? (source ++ first :: rest) = none := by
          have habsent : t.get? (source ++ [first]) = none := by
            by_cases h : t.get? (source ++ [first]) = none
            · exact h
            · exact absurd (hnames first h) hfirst
          have hbelow := ht.none_below habsent rest
          rw [List.append_assoc] at hbelow
          rw [FileTree.content?]
          exact congrArg (·.bind Entry.content?) hbelow
        rw [hnone]
        refine layered_eq_none fun name hname => hother ?_
        rw [List.prefix_append_right_inj, List.cons_prefix_cons]
        rintro ⟨rfl, -⟩
        exact hfirst hname
  · rw [graft, if_neg hpre]
    refine layered_eq_none fun name _ => if_neg fun h => hpre ?_
    exact (List.prefix_append rel [name]).trans h

theorem copyBelow_fills (depth : Nat) {source dest : String} (hrel : Path.inside? dest = some rel)
    (hshelter : Sheltered s (Path.follow s.base source) rel)
    (houtside : ∀ rest, ¬ s.loc <+: Path.follow s.base source ++ rest)
    (hdir : t₀.get? (Path.follow s.base source) = some .directory) (ht₀ : t₀.Tidy) :
    Fills s t₀ (graft t₀ (Path.follow s.base source) rel) (copyBelow s.path depth source dest) := by
  induction depth generalizing source dest rel with
  | zero => exact .throw _
  | succ depth ih =>
    unfold copyBelow
    refine Fills.get_bind fun t ht => ?_
    cases hfind : t.find source with
    | error r => exact .throw _
    | ok found =>
      obtain ⟨loc, e⟩ := found
      obtain ⟨⟨g, htarget⟩, hloc, -⟩ := FileTree.find_ok hfind
      rw [FileTree.place, ht.base] at hloc
      subst hloc
      have hnames (name : String)
          (hentry : t₀.get? (Path.follow s.base source ++ [name]) ≠ none) :
          name ∈ t.children (Path.follow s.base source) := by
        rw [ht.wellFormed.mem_children, ht.outside _ (houtside _)]
        exact hentry
      refine (Fills.forM fun name hname => ?_).congr (layered_graft ht₀ hdir hnames)
      obtain ⟨hentry, hplace, hinside⟩ := ht.child htarget hrel hname
      have hchild := hshelter.child ht hentry
      have hbelow (rest : Location) :
          ¬ s.loc <+: Path.follow s.base (Path.join [source, name]) ++ rest := by
        rw [hplace, List.append_assoc]
        exact houtside _
      rw [ht.outside _ (houtside _), ← hplace] at hentry
      rw [← hplace] at hchild
      dsimp only
      rw [ht.outside _ (houtside _), ← hplace]
      split
      · next hinner => exact ih hinside hchild hbelow hinner
      · next hfile =>
        obtain ⟨c, hc⟩ := FileTree.content?_of_file hentry hfile
        have hapart : ¬ s.loc <+: Path.follow s.base (Path.join [source, name]) := by
          rw [hplace]
          exact houtside _
        exact (copyFile_fills hinside hchild.head hapart hc).congr fun r =>
          (graft_file ht₀ hc r).symm

/-- A deployment puts what stands at its source below its destination. -/
theorem deploy_fills {d : Deployment} (hrel : Path.inside? d.dest = some rel)
    (hshelter : Sheltered s (Path.follow s.base d.source) rel)
    (houtside : ∀ rest, ¬ s.loc <+: Path.follow s.base d.source ++ rest) (ht₀ : t₀.Tidy) :
    Fills s t₀ (graft t₀ (Path.follow s.base d.source) rel) (deploy s.path d) := by
  have hsource : ¬ s.loc <+: Path.follow s.base d.source := by
    have hnil := houtside []
    rwa [List.append_nil] at hnil
  unfold deploy
  refine Fills.get_bind fun t ht => ?_
  cases hfind : t.find d.source with
  | error r => exact .throw _
  | ok found =>
    obtain ⟨loc, e⟩ := found
    obtain ⟨-, hloc, hentry⟩ := FileTree.find_ok hfind
    rw [FileTree.place, ht.base] at hloc
    rw [hloc, ht.outside _ hsource] at hentry
    cases e with
    | file c =>
      have hc : t₀.content? (Path.follow s.base d.source) = some c := by
        rw [FileTree.content?, hentry]
        rfl
      exact (copyFile_fills hrel hshelter.head hsource hc).congr fun r =>
        (graft_file ht₀ hc r).symm
    | directory => exact copyBelow_fills 4096 hrel hshelter houtside hentry ht₀

/-! ## The results -/

/-- The contents that a result puts below the staging directory, by their places in it. -/
def resultContents (t : FileTree) (r : Result) (rel : Location) : Option String :=
  (layered (fun d => graft t (t.place d.source) (Path.components d.dest)) r.deploy rel).or
    (layered (fun f => single (Path.components f.path) f.content) r.files rel)

theorem storeResult_fills {r : Result} (h : Contained s r)
    (houtside : ∀ d ∈ r.deploy, ∀ rest, ¬ s.loc <+: Path.follow s.base d.source ++ rest)
    (ht₀ : t₀.Tidy) (hbase : t₀.base = s.base) :
    Fills s t₀ (resultContents t₀ r) (storeResult s.path r) := by
  refine Fills.bind (Fills.forM fun f hf => ?_) fun _ => Fills.forM fun d hd => ?_
  · obtain ⟨rel, hrel, hhead⟩ := h.files f hf
    rw [Path.components_inside hrel]
    exact store_fills hrel hhead f.content
  · obtain ⟨rel, hrel, hshelter⟩ := h.deploy d hd
    rw [Path.components_inside hrel, FileTree.place, hbase]
    exact deploy_fills hrel hshelter (houtside d hd) ht₀

/-- Work that fills the staging directory and succeeds has written the results, later ones over
earlier ones. -/
theorem fill_fills {results : List Result} (h : ∀ r ∈ results, Contained s r)
    (houtside : ∀ r ∈ results, ∀ d ∈ r.deploy, ∀ rest,
      ¬ s.loc <+: Path.follow s.base d.source ++ rest)
    (ht₀ : t₀.Tidy) (hbase : t₀.base = s.base) :
    Fills s t₀ (layered (resultContents t₀) results) (fill s.path results) :=
  Fills.forM fun r hr => (storeResult_fills (h r hr) (houtside r hr) ht₀ hbase).rewording _

end Boardwright.Output
