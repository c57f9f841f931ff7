import Boardwright.Proofs.Publication

/-!
# What a write leaves behind

A write that succeeds has an exact effect on the tree.

There are three groups.

* Artifacts.  `Result.planned` lists what a result writes, one item for each of its paths, with the
  files of a deployed directory taken from the tree.  `layered_artifacts` says that the
  artifacts, the later over the earlier, are the contents that the staging directory has.
* The tree afterwards.  `content_published`, `content_unpublished` and `mem_children_iff` tell the
  tree after publication by the contents of the staging directory.
* The effect.  `Placed` and `Written` are the specification of a write, in terms of the trees
  before and after and of the artifacts only.  `Output.writeVia_ok` shows `Placed` for results
  that are confined to the staging directory.

`Written` says in addition that the staging directory is gone.  It is discarded by its path, which
is the path of the root and one more name.  If the path of the root has a detour through an entry
that was replaced, it leads nowhere by then, and the empty directory stays: `detourTree` is an
example.  `Followed` is the exact condition.
-/

namespace Boardwright

open Output (Stage Staged Stored Published Prepared Unmentioned layered single graft)

/-! ## Artifacts -/

/-- The files that a deployment writes: a copy of its source, or of every file below it. -/
def Deployment.files (t : FileTree) (d : Deployment) : List OutputFile :=
  match t.content? (t.place d.source) with
  | some content => [{ path := Path.clean d.dest, content }]
  | none => (t.below (t.place d.source)).map fun p =>
    { path := Path.join [d.dest, Text.join "/" p.1], content := p.2 }

/-- What a result writes, in this order: each path with the files that belong to it. -/
def Result.planned (t : FileTree) (r : Result) : List (String × List OutputFile) :=
  r.files.map (fun f => (f.path, [f])) ++ r.deploy.map fun d => (Path.clean d.dest, d.files t)

/-- All files of all results, in the order in which they are written. -/
def artifacts (t : FileTree) (results : List Result) : List OutputFile :=
  results.flatMap fun r => (r.planned t).flatMap (·.2)

/-- The place of a file below a root. -/
def OutputFile.site (t : FileTree) (root : String) (f : OutputFile) : Location :=
  t.place (Path.join [root, f.path])

namespace Output

/-- The content of one file. -/
def fileContent (f : OutputFile) : Location → Option String :=
  single (Path.components f.path) f.content

theorem fileContent_eq_some {f : OutputFile} {rel : Location} {content : String} :
    fileContent f rel = some content ↔ rel = Path.components f.path ∧ f.content = content := by
  unfold fileContent single
  split
  · next heq => simp [heq]
  · next hne => simp [hne]

theorem fileContent_self (f : OutputFile) : fileContent f (Path.components f.path) = some f.content :=
  fileContent_eq_some.2 ⟨rfl, rfl⟩

theorem fileContent_of_ne {f : OutputFile} {rel : Location} (h : rel ≠ Path.components f.path) :
    fileContent f rel = none := if_neg h

variable {s : Stage} {t₀ t t' t₁ t₂ : FileTree} {root : String}

/-- The path of a file below a deployed directory. -/
theorem inside?_below {dest : String} {rel rest : Location} (hrel : Path.inside? dest = some rel)
    (hrest : rest ≠ []) (hnames : ∀ name ∈ rest, FileTree.IsFileName name) :
    Path.inside? (Path.join [dest, Text.join "/" rest]) = some (rel ++ rest) := by
  apply Path.inside?_join hrel
  rw [Path.inside?, Text.split_join hrest fun name hname => (hnames name hname).slash,
    Path.foldlM_descend_names fun name hname => (hnames name hname).toIsName]
  simp

/-- The files of a deployment are those of the graft. -/
theorem layered_deployment {d : Deployment} {rel : Location} (ht : t.WellFormed)
    (hrel : Path.inside? d.dest = some rel) (r : Location) :
    layered fileContent (d.files t) r = graft t (t.place d.source) rel r := by
  unfold Deployment.files
  cases hsource : t.content? (t.place d.source) with
  | some content =>
    rw [graft_file ht.toTidy hsource, layered, layered, Option.none_or, fileContent,
      Path.components_clean, Path.components_inside hrel]
  | none =>
    dsimp only
    have hpath {rest : Location} {content : String}
        (hmem : (rest, content) ∈ t.below (t.place d.source)) :
        Path.components (Path.join [d.dest, Text.join "/" rest]) = rel ++ rest := by
      obtain ⟨hrest, hcontent⟩ := ht.mem_below.1 hmem
      obtain ⟨e, he, -⟩ := Option.bind_eq_some_iff.1 hcontent
      refine Path.components_inside (inside?_below hrel hrest fun name hname => ?_)
      exact ht.names_of_entry he name (List.mem_append_right _ hname)
    by_cases hpre : rel <+: r
    · obtain ⟨rest, rfl⟩ := hpre
      have hgraft : graft t (t.place d.source) rel (rel ++ rest) =
          t.content? (t.place d.source ++ rest) := by
        rw [graft, if_pos (List.prefix_append ..), List.drop_left]
      rw [hgraft]
      cases hcontent : t.content? (t.place d.source ++ rest) with
      | none =>
        refine layered_eq_none fun f hf => fileContent_of_ne fun heq => ?_
        obtain ⟨⟨inner, content⟩, hmem, rfl⟩ := List.mem_map.1 hf
        obtain rfl : rest = inner := List.append_cancel_left (heq.trans (hpath hmem))
        have hthere := (ht.mem_below.1 hmem).2
        rw [hcontent] at hthere
        cases hthere
      | some content =>
        have hrest : rest ≠ [] := by
          rintro rfl
          rw [List.append_nil, hsource] at hcontent
          cases hcontent
        have hmem := ht.mem_below.2 ⟨hrest, hcontent⟩
        have hfile := List.mem_map_of_mem (f := fun p : Location × String =>
          ({ path := Path.join [d.dest, Text.join "/" p.1], content := p.2 } : OutputFile)) hmem
        rw [layered_unique hfile, fileContent_eq_some]
        · exact ⟨(hpath hmem).symm, rfl⟩
        · intro g hg hne
          refine fileContent_of_ne fun heq => hne ?_
          obtain ⟨⟨inner, other⟩, hother, rfl⟩ := List.mem_map.1 hg
          obtain rfl : rest = inner := List.append_cancel_left (heq.trans (hpath hother))
          have hsame := (ht.mem_below.1 hother).2
          rw [hcontent] at hsame
          cases hsame
          rfl
    · rw [graft, if_neg hpre]
      refine layered_eq_none fun f hf => fileContent_of_ne fun heq => hpre ?_
      obtain ⟨⟨inner, content⟩, hmem, rfl⟩ := List.mem_map.1 hf
      rw [heq, hpath hmem]
      exact List.prefix_append ..

theorem graft_congr (hcontent : ∀ loc, t₀.content? loc = t.content? loc) (source rel r : Location) :
    graft t₀ source rel r = graft t source rel r := by
  unfold graft
  rw [hcontent]

/-- The artifacts are what the staging directory gets. -/
theorem layered_artifacts {results : List Result} (ht : t.WellFormed) (hbase : t₀.base = t.base)
    (hcontent : ∀ loc, t₀.content? loc = t.content? loc)
    (h : ∀ r ∈ results, Contained s r) (rel : Location) :
    layered (resultContents t₀) results rel = layered fileContent (artifacts t results) rel := by
  rw [artifacts, layered_flatMap]
  refine layered_congr fun r hr => ?_
  have hplace (d : Deployment) : t₀.place d.source = t.place d.source := by
    rw [FileTree.place, FileTree.place, hbase]
  have hfiles : (r.files.map fun f => (f.path, [f])).flatMap (·.2) = r.files := by
    rw [List.flatMap_map]
    exact List.flatMap_singleton' r.files
  rw [Result.planned, List.flatMap_append, layered_append, hfiles, List.flatMap_map,
    layered_flatMap, resultContents]
  congr 1
  refine layered_congr fun d hd => ?_
  obtain ⟨inner, hinner, -⟩ := (h r hr).deploy d hd
  rw [layered_deployment ht hinner, hplace, graft_congr hcontent, Path.components_inside hinner]

/-- Every artifact has a path that stays inside. -/
theorem inside?_artifact {results : List Result} {f : OutputFile} (ht : t.WellFormed)
    (h : ∀ r ∈ results, Contained s r) (hf : f ∈ artifacts t results) :
    Path.inside? f.path = some (Path.components f.path) := by
  suffices hinside : ∃ rel, Path.inside? f.path = some rel by
    obtain ⟨rel, hrel⟩ := hinside
    rw [Path.components_inside hrel, hrel]
  obtain ⟨r, hr, hf⟩ := List.mem_flatMap.1 hf
  obtain ⟨item, hitem, hf⟩ := List.mem_flatMap.1 hf
  rcases List.mem_append.1 hitem with hitem | hitem
  · obtain ⟨g, hg, rfl⟩ := List.mem_map.1 hitem
    obtain rfl := List.mem_singleton.1 hf
    obtain ⟨rel, hrel, -⟩ := (h r hr).files f hg
    exact ⟨rel, hrel⟩
  · obtain ⟨d, hd, rfl⟩ := List.mem_map.1 hitem
    obtain ⟨rel, hrel, -⟩ := (h r hr).deploy d hd
    change f ∈ d.files t at hf
    unfold Deployment.files at hf
    split at hf
    · obtain rfl := List.mem_singleton.1 hf
      exact ⟨rel, Path.inside?_clean hrel⟩
    · obtain ⟨⟨rest, content⟩, hmem, rfl⟩ := List.mem_map.1 hf
      obtain ⟨hrest, hcontent⟩ := ht.mem_below.1 hmem
      obtain ⟨e, he, -⟩ := Option.bind_eq_some_iff.1 hcontent
      refine ⟨rel ++ rest, inside?_below hrel hrest fun name hname => ?_⟩
      exact ht.names_of_entry he name (List.mem_append_right _ hname)

/-! ## The tree afterwards -/

/-- Outside of the staging directory, discarding it changes nothing. -/
theorem get?_discard {loc : Location} (hbase : t.base = s.base) (hloc : ¬ s.loc <+: loc) :
    (t.discard s.path).get? loc = t.get? loc := by
  cases htarget : t.target s.path with
  | error r => rw [FileTree.discard_of_error htarget]
  | ok g => rw [Stage.get?_discard_path hbase htarget, if_neg hloc]

/-- Inside, discarding it removes everything that is still there. -/
theorem get?_discard_inside (hbase : t.base = s.base) (rest : Location) :
    (t.discard s.path).get? (s.loc ++ rest) = none ∨
      (t.discard s.path).get? (s.loc ++ rest) = t.get? (s.loc ++ rest) := by
  cases htarget : t.target s.path with
  | error r =>
    right
    rw [FileTree.discard_of_error htarget]
  | ok g =>
    left
    rw [Stage.get?_discard_path hbase htarget, if_pos (List.prefix_append ..)]

section Afterwards

variable {n : Nat} {new : Location → Option String} (hprepared : Prepared n root t s t₀)
  (hstaged : Staged s t₀ t₁) (hstored : Stored s new t₀ t₁)
  (hpublished : Published s (t₁.children s.loc) t₁ t₂)

include hstaged in
theorem ne_mark_of_mem_children {name : String} (h : name ∈ t₁.children s.loc) :
    name ≠ s.mark := by
  rintro rfl
  exact hstaged.wellFormed.mem_children.1 h hstaged.free

include hprepared hstored in
/-- The staging directory has what was written into it, and nothing else. -/
theorem content_staged (rest : Location) : t₁.content? (s.loc ++ rest) = new rest := by
  have hbefore : t₀.content? (s.loc ++ rest) = none := by
    by_cases hrest : rest = []
    · rw [hrest, List.append_nil, FileTree.content?, hprepared.staged.directory]
      rfl
    · rw [FileTree.content?, hprepared.empty rest hrest]
      rfl
  rw [hstored.content, hbefore, Option.or_none]

include hprepared hstaged hstored in
/-- The names in it are the first names of what was written. -/
theorem mem_children_iff {name : String} :
    name ∈ t₁.children s.loc ↔ ∃ rest, new (name :: rest) ≠ none := by
  rw [hstaged.wellFormed.mem_children]
  constructor
  · intro hentry
    rcases hstored.made [name] (by simp) hentry with hold | ⟨whole, hwhole, rest, rfl⟩
    · exact absurd (hprepared.empty [name] (by simp)) hold
    · exact ⟨rest, hwhole⟩
  · rintro ⟨rest, hrest⟩ hnone
    have hbelow := hstaged.wellFormed.none_below hnone rest
    have hcontent := content_staged hprepared hstored (name :: rest)
    have hsplit : s.loc ++ name :: rest = s.loc ++ [name] ++ rest := by simp
    rw [FileTree.content?, hsplit, hbelow] at hcontent
    exact hrest hcontent.symm

include hprepared hstaged hstored hpublished in
theorem content_published {name : String} (h : name ∈ t₁.children s.loc) (rest : Location) :
    (t₂.discard s.path).content? (s.home ++ name :: rest) = new (name :: rest) := by
  have hmark := ne_mark_of_mem_children hstaged h
  have hout : ¬ s.loc <+: s.home ++ name :: rest := by
    have hpre := Stage.loc_not_prefix hmark [] rest
    rwa [List.append_nil] at hpre
  rw [FileTree.content?, get?_discard (hpublished.base.trans hstaged.base) hout,
    hpublished.arrived name h rest]
  exact content_staged hprepared hstored (name :: rest)

include hstaged hpublished in
/-- Nothing is left in the staging directory. -/
theorem get?_emptied {rest : Location} (hrest : rest ≠ []) :
    (t₂.discard s.path).get? (s.loc ++ rest) = none := by
  rcases get?_discard_inside (hpublished.base.trans hstaged.base) rest with hnone | hsame
  · exact hnone
  · rw [hsame]
    obtain ⟨name, inner, rfl⟩ := List.exists_cons_of_ne_nil hrest
    by_cases hname : name ∈ t₁.children s.loc
    · exact hpublished.left name hname inner
    · rw [hpublished.others _ fun m hm => ⟨?_, ?_⟩]
      · have hnone : t₁.get? (s.loc ++ [name]) = none := by
          by_cases h : t₁.get? (s.loc ++ [name]) = none
          · exact h
          · exact absurd (hstaged.wellFormed.mem_children.2 h) hname
        have hbelow := hstaged.wellFormed.none_below hnone inner
        rw [List.append_assoc] at hbelow
        exact hbelow
      · exact Stage.home_not_prefix (ne_mark_of_mem_children hstaged hm) _
      · intro hpre
        exact hname (concat_prefix_iff.1 hpre ▸ hm)

include hprepared hstaged hpublished in
theorem content_unpublished {loc : Location}
    (h : ∀ name ∈ t₁.children s.loc, ¬ s.home ++ [name] <+: loc) :
    (t₂.discard s.path).content? loc = t.content? loc := by
  have hbase := hpublished.base.trans hstaged.base
  rw [← hprepared.content loc]
  by_cases hunder : s.loc <+: loc
  · obtain ⟨rest, rfl⟩ := hunder
    by_cases hrest : rest = []
    · subst hrest
      rw [List.append_nil, FileTree.content?, FileTree.content?, hprepared.staged.directory]
      have hdirectory := (hpublished.directories
        (fun m hm => ne_mark_of_mem_children hstaged hm) hstaged).2
      rcases get?_discard_inside hbase [] with hnone | hsame
      · rw [List.append_nil] at hnone
        rw [hnone]
        rfl
      · rw [List.append_nil] at hsame
        rw [hsame, hdirectory]
    · rw [FileTree.content?, FileTree.content?, get?_emptied hstaged hpublished hrest,
        hprepared.empty rest hrest]
  · have hothers : t₂.get? loc = t₁.get? loc := by
      refine hpublished.others loc fun m hm => ⟨h m hm, fun hpre => hunder ?_⟩
      exact (List.prefix_append s.loc [m]).trans hpre
    rw [FileTree.content?, FileTree.content?, get?_discard hbase hunder, hothers,
      hstaged.outside loc hunder]

include hprepared hstaged hpublished in
/-- The staging directory itself is gone, as long as its path can be followed through the root. -/
theorem get?_stage
    (hwalk : (Text.split '/' root).foldlM t₂.enter (t₂.start root) = .ok (t₂.place root)) :
    (t₂.discard s.path).get? s.loc = none := by
  have hbase := hpublished.base.trans hstaged.base
  obtain ⟨g₀, htarget₀⟩ := hprepared.target
  obtain ⟨front, hsplit, hfront⟩ := split_stagePath root n
  have hstart : t₂.start (stagePath root n) = t₂.start root := by
    rw [FileTree.start, FileTree.start, isRooted_stagePath hprepared.below.notEmpty]
  have hparts : front.foldlM t₂.enter (t₂.start root) = .ok (t₂.place root) := by
    rw [← foldlM_enter_split hfront]
    exact hwalk
  have htext : FileTree.IsPathText (stagePath root n) := by
    rw [← hprepared.path]
    exact (FileTree.target_ok htarget₀).text
  have hsize : (stageName n).utf8ByteSize ≤ 255 := by
    rw [← hprepared.mark]
    exact s.isFileName.size
  have htarget := FileTree.target_of_walk htext hsplit (stageName_isName n) hsize
    (hstart ▸ hparts)
  rw [← hprepared.path] at htarget
  rw [Stage.get?_discard_path hbase htarget, if_pos (List.prefix_refl _)]

include hprepared hstaged hpublished in
theorem get?_stage_of_clean (hclean : Path.clean root = root) :
    (t₂.discard s.path).get? s.loc = none := by
  have hplace : t₂.place root = s.home := by
    rw [FileTree.place, hpublished.base, hstaged.base, hprepared.below.follow]
  have hhome := (hpublished.directories (fun m hm => ne_mark_of_mem_children hstaged hm) hstaged).1
  rw [← hplace] at hhome
  exact get?_stage hprepared hstaged hpublished
    (FileTree.walk_of_clean hpublished.tidy hclean hhome)

include hprepared hstaged hpublished in
theorem get?_stage_of_find {found : Location × Entry}
    (hfound : (t₂.discard s.path).find root = .ok found) :
    (t₂.discard s.path).get? s.loc = none := by
  have hbase := hpublished.base.trans hstaged.base
  cases htarget : t₂.target s.path with
  | ok g =>
    rw [Stage.get?_discard_path hbase htarget, if_pos (List.prefix_refl _)]
  | error r =>
    -- The directory has not been removed, so the root was found before that.
    rw [FileTree.discard_of_error htarget] at hfound
    obtain ⟨loc, e⟩ := found
    obtain ⟨-, hloc, hentry⟩ := FileTree.find_ok hfound
    rw [FileTree.place, hbase, hprepared.below.follow] at hloc
    have hhome :=
      (hpublished.directories (fun m hm => ne_mark_of_mem_children hstaged hm) hstaged).1
    rw [hloc, hhome] at hentry
    obtain rfl := Option.some_inj.1 hentry
    exact get?_stage hprepared hstaged hpublished (FileTree.walk_of_find hpublished.tidy hfound)

include hprepared hstaged hpublished in
/-- On the way to the root nothing has the name of the staging directory. -/
theorem get?_remove_stage (hnew : Unmentioned (stageName n) t root results) {parts : List String}
    (hparts : parts <+: Text.split '/' root) :
    (t₂.remove s.loc).get? (parts.foldl Path.go (t₂.start root)) =
      t₂.get? (parts.foldl Path.go (t₂.start root)) := by
  rw [FileTree.get?_remove t₂ s.loc_ne_nil, if_neg]
  intro hpre
  have hmark : stageName n ∈ parts.foldl Path.go (t₂.start root) := by
    rw [← hprepared.mark]
    exact hpre.subset (by simp [Stage.loc])
  rcases Path.mem_foldl_go hmark with hstart | hpart
  · unfold FileTree.start at hstart
    split at hstart
    · cases hstart
    · rw [hpublished.base, hstaged.base, hprepared.base] at hstart
      exact hnew.base hstart
  · exact hnew.root (hparts.subset hpart)

include hprepared hstaged hpublished in
/-- If the staging directory is gone, then the path of the root was followed to remove it, and can
still be followed. -/
theorem find_root_of_get?_stage (hnew : Unmentioned (stageName n) t root results)
    (h : (t₂.discard s.path).get? s.loc = none) :
    (t₂.discard s.path).find root = .ok (s.home, .directory) := by
  have hbase := hpublished.base.trans hstaged.base
  obtain ⟨hhome, hstage⟩ :=
    hpublished.directories (fun m hm => ne_mark_of_mem_children hstaged hm) hstaged
  cases htarget : t₂.target s.path with
  | error r =>
    rw [FileTree.discard_of_error htarget, hstage] at h
    cases h
  | ok g =>
    have hleads := FileTree.target_ok htarget
    rw [FileTree.discard_of_target htarget, hleads.location, Stage.place_path hbase]
    obtain ⟨dir, hwalk⟩ := hleads.walk
    obtain ⟨front, hsplit, hfront⟩ := split_stagePath root n
    rw [← hprepared.path] at hsplit
    rw [FileTree.stems_of_split hsplit (stageName_isName n).notEmpty, List.dropLast_concat,
      FileTree.start, ← hprepared.below.rooted, ← foldlM_enter_split hfront] at hwalk
    have hdir : dir = s.home := by
      rw [FileTree.foldlM_enter_ok hwalk, ← hprepared.below.follow, ← hbase]
      rfl
    subst hdir
    refine FileTree.find_of_enter
      (isPathText_of_stagePath hprepared.below.notEmpty (hprepared.path ▸ hleads.text)) ?_ ?_
    · refine FileTree.foldlM_enter_kept (fun parts hparts hentry => ?_) hwalk
      exact (get?_remove_stage hprepared hstaged hpublished hnew hparts).trans hentry
    · rw [FileTree.foldlM_enter_ok hwalk] at hhome ⊢
      exact (get?_remove_stage hprepared hstaged hpublished hnew (List.prefix_refl _)).trans hhome

end Afterwards

end Output

/-! ## The effect -/

/-- The effect of writing results below a root, with the staging directory at `stage`. -/
structure Placed (t : FileTree) (root : String) (results : List Result) (stage : Location)
    (t' : FileTree) : Prop where
  /-- What is planned are the paths of the results. -/
  paths : (results.flatMap (·.planned t)).map (·.1) = results.flatMap Result.paths
  /-- Every artifact is below the root. -/
  sites : ∀ f ∈ artifacts t results, ∃ name rest, f.site t root = t.place root ++ name :: rest
  /-- Of several artifacts for one place the last one is there. -/
  contents : ∀ before f after, artifacts t results = before ++ f :: after →
    (∀ g ∈ after, g.site t root ≠ f.site t root) → t'.content? (f.site t root) = some f.content
  /-- Whatever else has the first name of an artifact is gone. -/
  replaced : ∀ f ∈ artifacts t results, ∀ name, t.place root ++ [name] <+: f.site t root →
    ∀ rest, (∀ g ∈ artifacts t results, g.site t root ≠ t.place root ++ name :: rest) →
      t'.content? (t.place root ++ name :: rest) = none
  /-- Every other file is as before, below the root and elsewhere. -/
  unchanged : ∀ loc, (∀ f ∈ artifacts t results, ∀ name,
      t.place root ++ [name] <+: f.site t root → ¬ t.place root ++ [name] <+: loc) →
    t'.content? loc = t.content? loc
  /-- Nothing stays in the staging directory. -/
  emptied : ∀ rest, rest ≠ [] → t'.get? (stage ++ rest) = none

/-- From `t` to `t'` the artifacts were written, and nothing else is left of it. -/
structure Written (t : FileTree) (root : String) (results : List Result) (stage : Location)
    (t' : FileTree) : Prop extends Placed t root results stage t' where
  /-- The staging directory does not stay either. -/
  discarded : t'.get? stage = none

/-- The path of a root has no detour, or it can be followed in spite of it. -/
def Followed (root : String) (t' : FileTree) : Prop :=
  Path.clean root = root ∨ ∃ found, t'.find root = .ok found

namespace Output

variable {s : Stage} {t₀ t t' t₁ t₂ : FileTree} {root : String}

theorem map_planned (t : FileTree) (results : List Result) :
    (results.flatMap (·.planned t)).map (·.1) = results.flatMap Result.paths := by
  rw [List.map_flatMap]
  congr 1
  funext r
  rw [paths_eq, Result.planned, List.map_append, List.map_map, List.map_map]
  rfl

theorem site_eq {n : Nat} {f : OutputFile} (h : Prepared n root t s t₀)
    (hf : Path.inside? f.path = some (Path.components f.path)) :
    f.site t root = s.home ++ Path.components f.path := by
  rw [OutputFile.site, FileTree.place, Path.follow_join_inside t.base h.below.notEmpty hf]
  exact congrArg (· ++ _) h.place_root

/-- A layer counts if there is nothing in the layers over it. -/
theorem layered_last {α : Type} {new : α → Location → Option String} {before after : List α} {a : α}
    {r : Location} {content : String} (h : new a r = some content)
    (hafter : ∀ b ∈ after, new b r = none) : layered new (before ++ a :: after) r = some content := by
  rw [layered_append, layered, layered_eq_none hafter, h]
  rfl

theorem layered_ne_none {α : Type} {new : α → Location → Option String} {as : List α}
    {r : Location} : layered new as r ≠ none ↔ ∃ a ∈ as, new a r ≠ none := by
  constructor
  · intro h
    by_cases hall : ∀ a ∈ as, new a r = none
    · exact absurd (layered_eq_none hall) h
    · grind
  · rintro ⟨a, ha, hne⟩ hnone
    induction as with
    | nil => cases ha
    | cons b bs ih =>
      rw [layered, Option.or_eq_none_iff] at hnone
      rcases List.mem_cons.1 ha with rfl | ha
      · exact hne hnone.2
      · exact ih ha hnone.1

section Effect

variable {n : Nat} {results : List Result} {f : OutputFile} (ht : t.WellFormed)
  (hprepared : Prepared n root t s t₀) (hcontained : ∀ r ∈ results, Contained s r)
  (hstaged : Staged s t₀ t₁)
  (hstored : Stored s (layered fileContent (artifacts t results)) t₀ t₁)
  (hpublished : Published s (t₁.children s.loc) t₁ t₂)

include ht hprepared hcontained in
theorem site_artifact (hf : f ∈ artifacts t results) :
    f.site t root = t.place root ++ Path.components f.path := by
  rw [hprepared.place_root]
  exact site_eq hprepared (inside?_artifact ht hcontained hf)

theorem layered_artifact_ne_none (hf : f ∈ artifacts t results) :
    layered fileContent (artifacts t results) (Path.components f.path) ≠ none := by
  rw [layered_ne_none]
  refine ⟨f, hf, ?_⟩
  rw [fileContent_self]
  exact Option.some_ne_none _

include hprepared hstaged hstored in
/-- No artifact takes the place of the staging directory itself. -/
theorem artifact_named (hf : f ∈ artifacts t results) :
    ∃ name rest, Path.components f.path = name :: rest := by
  apply List.exists_cons_of_ne_nil
  intro hnil
  have hcontent := content_staged hprepared hstored []
  rw [List.append_nil, FileTree.content?, hstaged.directory] at hcontent
  apply layered_artifact_ne_none hf
  rw [hnil, ← hcontent]
  rfl

include ht hprepared hcontained hstaged hstored in
/-- The names that are published are the first names of artifacts. -/
theorem mem_children_iff_artifact {name : String} : name ∈ t₁.children s.loc ↔
    ∃ f ∈ artifacts t results, t.place root ++ [name] <+: f.site t root := by
  rw [mem_children_iff hprepared hstaged hstored]
  constructor
  · rintro ⟨rest, hrest⟩
    obtain ⟨f, hf, hne⟩ := layered_ne_none.1 hrest
    obtain ⟨content, hcontent⟩ := Option.ne_none_iff_exists'.1 hne
    refine ⟨f, hf, ?_⟩
    rw [site_artifact ht hprepared hcontained hf, ← (fileContent_eq_some.1 hcontent).1]
    exact concat_prefix_iff.2 rfl
  · rintro ⟨f, hf, hpre⟩
    obtain ⟨first, rest, hcomponents⟩ := artifact_named hprepared hstaged hstored hf
    rw [site_artifact ht hprepared hcontained hf, hcomponents, concat_prefix_iff] at hpre
    refine ⟨rest, ?_⟩
    rw [hpre, ← hcomponents]
    exact layered_artifact_ne_none hf

include ht hprepared hcontained hstaged hstored hpublished in
theorem content_artifact (hf : f ∈ artifacts t results) {name : String}
    (hpre : t.place root ++ [name] <+: f.site t root) (rest : Location) :
    (t₂.discard s.path).content? (t.place root ++ name :: rest) =
      layered fileContent (artifacts t results) (name :: rest) := by
  have hname := (mem_children_iff_artifact ht hprepared hcontained hstaged hstored).2 ⟨f, hf, hpre⟩
  rw [hprepared.place_root]
  exact content_published hprepared hstaged hstored hpublished hname rest

include ht hprepared hcontained hstaged hstored hpublished in
/-- Publication has the effect that is asked for. -/
theorem placed_of_published : Placed t root results s.loc (t₂.discard s.path) := by
  have hsite {f : OutputFile} (hf : f ∈ artifacts t results) :=
    site_artifact ht hprepared hcontained hf
  refine ⟨map_planned t results, ?_, ?_, ?_, ?_, ?_⟩
  · intro f hf
    obtain ⟨name, rest, hcomponents⟩ := artifact_named hprepared hstaged hstored hf
    exact ⟨name, rest, by rw [hsite hf, hcomponents]⟩
  · intro before f after hsplit hafter
    have hf : f ∈ artifacts t results := by rw [hsplit]; simp
    obtain ⟨name, rest, hcomponents⟩ := artifact_named hprepared hstaged hstored hf
    have hpre : t.place root ++ [name] <+: f.site t root := by
      rw [hsite hf, hcomponents, concat_prefix_iff]
    rw [hsite hf, hcomponents,
      content_artifact ht hprepared hcontained hstaged hstored hpublished hf hpre, ← hcomponents,
      hsplit]
    refine layered_last (fileContent_self f) fun g hg => fileContent_of_ne fun heq => hafter g hg ?_
    have hg' : g ∈ artifacts t results := by rw [hsplit]; simp [hg]
    rw [hsite hg', hsite hf, heq]
  · intro f hf name hpre rest hother
    rw [content_artifact ht hprepared hcontained hstaged hstored hpublished hf hpre]
    refine layered_eq_none fun g hg => fileContent_of_ne fun heq => hother g hg ?_
    rw [hsite hg, heq]
  · intro loc hloc
    refine content_unpublished hprepared hstaged hpublished fun name hmem => ?_
    obtain ⟨f, hf, hpre⟩ :=
      (mem_children_iff_artifact ht hprepared hcontained hstaged hstored).1 hmem
    rw [← hprepared.place_root]
    exact hloc f hf name hpre
  · intro rest hrest
    exact get?_emptied hstaged hpublished hrest

include hprepared hstaged hpublished in
theorem get?_stage_iff_followed (hnew : Unmentioned (stageName n) t root results) :
    (t₂.discard s.path).get? s.loc = none ↔ Followed root (t₂.discard s.path) := by
  constructor
  · intro hgone
    exact .inr ⟨_, find_root_of_get?_stage hprepared hstaged hpublished hnew hgone⟩
  · rintro (hclean | ⟨found, hfound⟩)
    · exact get?_stage_of_clean hprepared hstaged hpublished hclean
    · exact get?_stage_of_find hprepared hstaged hpublished hfound

end Effect

/-- A source that does not contain the root has nothing to do with the staging directory. -/
theorem Prepared.source_outside {n : Nat} {source : Location} (h : Prepared n root t s t₀)
    (hnew : s.mark ∉ source) (hsource : ¬ source <+: t.place root) (rest : Location) :
    ¬ s.loc <+: source ++ rest := by
  intro hpre
  rcases List.prefix_or_prefix_of_prefix hpre (List.prefix_append source rest) with hin | hin
  · exact hnew (hin.subset (by simp [Stage.loc]))
  · rcases List.prefix_concat_iff.1 hin with heq | hhome
    · exact hnew (by rw [heq]; simp)
    · rw [h.place_root] at hsource
      exact hsource hhome

theorem writeVia_ok {n : Nat} {results : List Result} (ht : t.WellFormed)
    (hnew : Unmentioned (stageName n) t root results)
    (hconfined : ∀ r ∈ results, Confined t (stagePath root n) root r)
    (hsource : ∀ r ∈ results, ∀ d ∈ r.deploy, ¬ t.place d.source <+: t.place root)
    (h : (writeVia n root results).run t = (.ok (), t')) :
    Placed t root results (t.place root ++ [stageName n]) t' ∧
      (t'.get? (t.place root ++ [stageName n]) = none ↔ Followed root t') := by
  rcases writeVia_cases ht hnew with ⟨e, t₁, hfailed, -⟩ | ⟨s, t₀, hprepared, hrun⟩
  · rw [hfailed] at h
    cases h
  have hcontained : ∀ r ∈ results, Contained s r := fun r hr =>
    hprepared.contained hnew hr (hprepared.path ▸ hconfined r hr)
  have hbase : t₀.base = s.base := hprepared.staged.base
  rw [hrun] at h
  obtain ⟨hok, rfl⟩ := Prod.mk.inj h
  have hwork : (fillAndPublish s.path root results).run t₀ =
      (.ok (), ((fillAndPublish s.path root results).run t₀).2) := Prod.ext hok rfl
  obtain ⟨u, t₁, hfill, hpublish⟩ := Job.run_bind_ok hwork
  have hstaged := fill_keeps hcontained t₀ hprepared.staged
  rw [hfill] at hstaged
  have hfills := fill_fills hcontained (fun r hr d hd =>
    hprepared.source_outside (hprepared.place_new hnew hr hd)
      (by rw [hprepared.base]; exact hsource r hr d hd)) hprepared.staged.wellFormed.toTidy hbase
  have hstored := (hfills.stored t₀ t₁ u hprepared.staged hfill).congr
    (layered_artifacts ht (hbase.trans hprepared.base) hprepared.content hcontained)
  obtain ⟨g, htarget⟩ := hprepared.target_staged hstaged
  obtain ⟨t₂, hrun₂, hpublished⟩ := publish_run hprepared.below hstaged htarget
  obtain rfl : t₂ = ((fillAndPublish s.path root results).run t₀).2 := by
    rw [hpublish] at hrun₂
    exact (congrArg Prod.snd hrun₂).symm
  rw [hprepared.place_root, ← hprepared.mark]
  exact ⟨placed_of_published ht hprepared hcontained hstaged hstored hpublished,
    get?_stage_iff_followed hprepared hstaged hpublished hnew⟩

end Output

/-- A write that succeeds places its artifacts: the last one for each place, in the place of
everything that had the first name of one below the root, and every other file is as before.  It
leaves nothing else behind exactly if the path of the root can be followed to the end.  This is for
results whose paths do not leave the staging directory and that are not deployed from around the
root. -/
theorem write_effect (t t' : FileTree) (root : String) (results : List Result) (ht : t.WellFormed)
    (hfiles : ∀ r ∈ results, ∀ f ∈ r.files,
      Output.StaysIn (Output.stagePath root (Output.stageNumber t root results)) f.path)
    (hdests : ∀ r ∈ results, ∀ d ∈ r.deploy,
      Output.StaysIn (Output.stagePath root (Output.stageNumber t root results)) d.dest)
    (hsources : ∀ r ∈ results, ∀ d ∈ r.deploy, ¬ t.place d.source <+: t.place root)
    (h : (Output.write root results).run t = (.ok (), t')) :
    let stage := t.place root ++ [Output.stageName (Output.stageNumber t root results)]
    Placed t root results stage t' ∧ (Written t root results stage t' ↔ Followed root t') := by
  intro stage
  have hnew := Output.unmentioned_of_not_mem (Output.stageNumber_new t root results)
  rw [Output.write_run] at h
  obtain ⟨hplaced, hgone⟩ := Output.writeVia_ok ht hnew
    (fun r hr => ⟨hfiles r hr, hdests r hr, fun d hd => .inr (hsources r hr d hd)⟩) hsources h
  exact ⟨hplaced, fun hwritten => hgone.1 hwritten.discarded,
    fun hfollowed => ⟨hplaced, hgone.2 hfollowed⟩⟩

/-- Templates, and output of an earlier run. -/
def templateTree : FileTree where
  entries := [
    (["templates"], .directory),
    (["templates", "core.vhd"], .file "core"),
    (["templates", "hdl"], .directory),
    (["templates", "hdl", "fifo.vhd"], .file "fifo"),
    (["out"], .directory),
    (["out", "lib"], .directory),
    (["out", "lib", "stale.c"], .file "stale"),
    (["out", "notes"], .file "mine")]

/-- Two results with a text of one path, and a directory of templates. -/
def overlappingResults : List Result :=
  [{ backend := "first", texts := [{ name := "main.c", dir := "lib", lines := ["one"] }] },
   { backend := "second", texts := [{ name := "main.c", dir := "lib", lines := ["two"] }],
     deploy := [{ source := "templates", dest := "lib/core" }] }]

/-- The later text is there, with a copy of what is in the directory and below it; the stale file of
the earlier run is gone, and what was not written to is as before. -/
theorem write_effect_overlapping :
    ∃ t', (Output.write "out" overlappingResults).run templateTree = (.ok (), t') ∧
      t'.content? ["out", "lib", "main.c"] = some "two\n" ∧
      t'.content? ["out", "lib", "core", "hdl", "fifo.vhd"] = some "fifo" ∧
      t'.content? ["out", "lib", "stale.c"] = none ∧
      t'.content? ["out", "notes"] = some "mine" ∧
      t'.get? ["out", Output.stageName 0] = none := by
  obtain ⟨⟨⟩, t', hrun⟩ := Job.run_of_isOk (t := templateTree)
    (Output.write "out" overlappingResults) (by decide +kernel)
  have hwritten := (write_effect templateTree t' "out" overlappingResults (by decide +kernel)
    (by decide +kernel) (by decide +kernel) (by decide +kernel) hrun).2.2 (.inl (by decide +kernel))
  have hartifacts : artifacts templateTree overlappingResults =
      [{ path := "lib/main.c", content := "one\n" }, { path := "lib/main.c", content := "two\n" },
       { path := "lib/core/core.vhd", content := "core" },
       { path := "lib/core/hdl/fifo.vhd", content := "fifo" }] := by decide +kernel
  have hroot : templateTree.place "out" = ["out"] := by decide +kernel
  have htext : OutputFile.site templateTree "out" { path := "lib/main.c", content := "two\n" } =
      ["out", "lib", "main.c"] := by decide +kernel
  have hcopy : OutputFile.site templateTree "out" { path := "lib/core/hdl/fifo.vhd", content := "fifo" } =
      ["out", "lib", "core", "hdl", "fifo.vhd"] := by decide +kernel
  refine ⟨t', hrun, ?_, ?_, ?_, ?_, ?_⟩
  · rw [← htext]
    exact hwritten.contents [_] _ [_, _] hartifacts (by decide +kernel)
  · rw [← hcopy]
    exact hwritten.contents [_, _, _] _ [] hartifacts nofun
  · have hgone := hwritten.replaced { path := "lib/main.c", content := "two\n" }
      (by rw [hartifacts]; simp) "lib" (by decide +kernel) ["stale.c"] (by decide +kernel)
    rwa [hroot] at hgone
  · rw [hwritten.unchanged]
    · rfl
    · rw [hroot]
      intro f hf name hname hnotes
      obtain rfl : name = "notes" := by simpa using hnotes
      have hnone : ∀ f ∈ artifacts templateTree overlappingResults,
          ¬ ["out", "notes"] <+: f.site templateTree "out" := by decide +kernel
      exact hnone f hf hname
  · have hstage : templateTree.place "out" ++
        [Output.stageName (Output.stageNumber templateTree "out" overlappingResults)] =
          ["out", Output.stageName 0] := by decide +kernel
    rw [← hstage]
    exact hwritten.discarded

/-- A directory in the output. -/
def detourTree : FileTree where
  entries := [
    (["out"], .directory),
    (["out", "a"], .directory),
    (["out", "a", "old"], .file "old")]

/-- A text in the place of that directory. -/
def detourResults : List Result :=
  [{ backend := "first", texts := [{ name := "a", dir := "", lines := ["new"] }] }]

/-- The root is written with a detour through the directory that the text replaces.  The write
succeeds and places the text, and the staging directory stays. -/
theorem write_effect_fails_on_detour :
    detourTree.WellFormed ∧
      (∀ r ∈ detourResults, ∀ f ∈ r.files, Output.StaysIn (Output.stagePath "out/a/.."
        (Output.stageNumber detourTree "out/a/.." detourResults)) f.path) ∧
      (∀ r ∈ detourResults, r.deploy = []) ∧
      ∃ t', (Output.write "out/a/.." detourResults).run detourTree = (.ok (), t') ∧
        t'.content? ["out", "a"] = some "new\n" ∧
        t'.get? (detourTree.place "out/a/.." ++ [Output.stageName
          (Output.stageNumber detourTree "out/a/.." detourResults)]) = some .directory := by
  obtain ⟨⟨⟩, t', hrun⟩ := Job.run_of_isOk (t := detourTree)
    (Output.write "out/a/.." detourResults) (by decide +kernel)
  obtain rfl : ((Output.write "out/a/.." detourResults).run detourTree).2 = t' :=
    congrArg Prod.snd hrun
  exact ⟨by decide +kernel, by decide +kernel, by decide +kernel, _, hrun, by decide +kernel,
    by decide +kernel⟩

end Boardwright
