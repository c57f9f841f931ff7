import Boardwright.Proofs.Staging

/-!
# Publishing the staging directory

A write makes a staging directory below the root, fills it, moves what is in it to the root and
discards it.  This module follows a whole write.

* The name.  `stageNumber_new` says that the name of the staging directory does not occur in the
  tree, the root or the results.
* The path.  `components_stagePath` and `follow_stagePath` say where the directory stands.
* Publishing.  `Published` tells the tree after some entries have moved by the tree before.
  `publishEntry_run` is the step and `publish_run` the whole: once the directory is filled,
  publishing cannot fail.
* Making the directory.  `Prepared` holds as soon as it is there, and `writeVia_cases` takes a
  write apart at this moment.
* Paths that stay.  `Confined` asks of a result that its paths do not leave the directory.
* Failed writes.  By all this a write fails only while the directory is being filled, so that
  `writeVia_error` follows from the invariant `Staged`.
-/

namespace Boardwright.Output

open FileTree (IsFileName IsPathText)

/-! ## The name -/

theorem stageName_toList (n : Nat) :
    (stageName n).toList = ".boardgen-".toList ++ Nat.toDigits 10 n := by
  rw [stageName, String.toList_append, Nat.toString_eq_ofList_toDigits]
  exact congrArg (".boardgen-".toList ++ ·) String.toList_ofList

theorem stageName_isName (n : Nat) : Path.IsName (stageName n) := by
  have hne (part : String) (hshort : part.toList.length < 10) : stageName n ≠ part := by
    rintro rfl
    rw [stageName_toList, List.length_append] at hshort
    exact absurd hshort (Nat.not_lt.2 (Nat.le_add_right _ _))
  exact ⟨hne _ (by decide), hne _ (by decide), hne _ (by decide)⟩

theorem slash_not_mem_stageName (n : Nat) : '/' ∉ (stageName n).toList := by
  rw [stageName_toList]
  intro hmem
  rcases List.mem_append.1 hmem with hmem | hmem
  · exact absurd hmem (by decide)
  · have hdigit := Nat.isDigit_of_mem_toDigits (by decide) (by decide) hmem
    exact absurd hdigit (by decide)

theorem stageName_inj {m n : Nat} (h : stageName m = stageName n) : m = n := by
  have hchars := congrArg String.toList h
  rw [stageName_toList, stageName_toList] at hchars
  have hvalue := congrArg (fun digits => Nat.ofDigitChars 10 digits 0)
    (List.append_cancel_left hchars)
  simpa only [Nat.ofDigitChars_ten_toDigits] using hvalue

/-- There are more numbers to choose from than names that are mentioned. -/
theorem stageNumber_new (t : FileTree) (root : String) (results : List Result) :
    stageName (stageNumber t root results) ∉ mentioned t root results := by
  unfold stageNumber
  generalize mentioned t root results = names
  dsimp only
  cases hfind : (List.range (names.length + 1)).find? fun n => !names.contains (stageName n) with
  | some n =>
    have hn := List.find?_some hfind
    simpa using hn
  | none =>
    have hall : ((List.range (names.length + 1)).map stageName) ⊆ names := by
      intro name hname
      obtain ⟨n, hn, rfl⟩ := List.mem_map.1 hname
      have htaken := List.find?_eq_none.1 hfind n hn
      simpa using htaken
    have hdistinct : ((List.range (names.length + 1)).map stageName).Nodup :=
      List.pairwise_map.2 (List.nodup_range.imp fun hne heq => hne (stageName_inj heq))
    have hlength := hdistinct.length_le_of_subset hall
    rw [List.length_map, List.length_range] at hlength
    omega

/-! ## The path -/

/-- The path of a staging directory is the path of the root with one more part. -/
theorem split_stagePath (root : String) (n : Nat) :
    ∃ front, Text.split '/' (stagePath root n) = front ++ [stageName n] ∧
      (Text.split '/' root = front ∨ Text.split '/' root = front ++ [""]) := by
  have hname := Text.split_of_not_mem (slash_not_mem_stageName n)
  unfold stagePath
  by_cases hslash : root.toList.getLast? = some '/'
  · obtain ⟨init, hinit⟩ := List.getLast?_eq_some_iff.1 hslash
    have hroot : root = String.ofList init ++ "/" := by
      rw [← String.toList_inj, String.toList_append, String.toList_ofList, hinit]
      rfl
    refine ⟨Text.split '/' (String.ofList init), ?_, .inr ?_⟩
    · rw [if_pos hslash]
      show Text.split '/' (root ++ "" ++ stageName n) = _
      rw [String.append_empty, hroot, Text.split_append, hname]
    · have hsplit := Text.split_append (String.ofList init) ""
      rw [String.append_empty] at hsplit
      rw [hroot, hsplit]
      rfl
  · refine ⟨Text.split '/' root, ?_, .inl rfl⟩
    rw [if_neg hslash]
    show Text.split '/' (root ++ "/" ++ stageName n) = _
    rw [Text.split_append, hname]

/-- A slash at the end of the root makes no difference to the way. -/
theorem foldlM_enter_split {t : FileTree} {root : String} {front : List String}
    (hfront : Text.split '/' root = front ∨ Text.split '/' root = front ++ [""]) (dir : Location) :
    (Text.split '/' root).foldlM t.enter dir = front.foldlM t.enter dir := by
  rcases hfront with heq | heq
  · rw [heq]
  · rw [heq, List.foldlM_append]
    cases front.foldlM t.enter dir <;> rfl

theorem isPathText_of_stagePath {root : String} {n : Nat} (hroot : root ≠ "")
    (h : IsPathText (stagePath root n)) : IsPathText root := by
  obtain ⟨-, hnul, hsize⟩ := h
  unfold stagePath at hnul hsize
  simp only [String.toList_append, List.mem_append, not_or] at hnul
  simp only [String.utf8ByteSize_append] at hsize
  exact ⟨hroot, hnul.1.1, by omega⟩

theorem isRooted_stagePath {root : String} (hroot : root ≠ "") (n : Nat) :
    Path.isRooted (stagePath root n) = Path.isRooted root := by
  unfold stagePath
  rw [String.append_assoc, Path.isRooted_append hroot]

theorem components_stagePath {root : String} (hroot : root ≠ "") (n : Nat) :
    Path.components (stagePath root n) = Path.components root ++ [stageName n] := by
  obtain ⟨front, hsplit, hfront⟩ := split_stagePath root n
  have hsame : front.foldl (Path.keep (Path.isRooted root)) [] =
      (Text.split '/' root).foldl (Path.keep (Path.isRooted root)) [] := by
    rcases hfront with heq | heq
    · rw [heq]
    · rw [heq, List.foldl_append]
      rfl
  rw [Path.components, isRooted_stagePath hroot, hsplit, List.foldl_append, hsame]
  show (Path.keep (Path.isRooted root) _ (stageName n)).reverse = _
  rw [Path.keep_name _ _ (stageName_isName n), List.reverse_cons]
  rfl

theorem follow_stagePath {root : String} (hroot : root ≠ "") (n : Nat) (base : Location) :
    Path.follow base (stagePath root n) = Path.follow base root ++ [stageName n] := by
  rw [Path.follow_eq_components, components_stagePath hroot, isRooted_stagePath hroot,
    List.foldl_append, ← Path.follow_eq_components]
  exact Path.go_name _ (stageName_isName n)

/-- The staging directory with a number, below a root. -/
def Stage.ofRoot (base : Location) {root : String} {n : Nat} (hroot : root ≠ "")
    (hname : IsFileName (stageName n)) (hsplit : stageName n ∉ Text.split '/' root) :
    Stage where
  base
  path := stagePath root n
  front := Path.components root
  mark := stageName n
  notEmpty := by
    intro hempty
    have hparts := components_stagePath hroot n
    rw [hempty] at hparts
    simp [Path.components, Text.split, Text.splitChars, Path.keep] at hparts
  components := components_stagePath hroot n
  isFileName := hname
  front_new := by
    intro hmem
    rcases Path.mem_components hmem with hpart | hup
    · exact hsplit hpart
    · exact (stageName_isName n).notUp hup

theorem Stage.ofRoot_home (base : Location) {root : String} {n : Nat} (hroot : root ≠ "")
    (hname : IsFileName (stageName n)) (hsplit : stageName n ∉ Text.split '/' root) :
    (Stage.ofRoot base hroot hname hsplit).home = Path.follow base root := by
  rw [Path.follow_eq_components, ← isRooted_stagePath hroot n]
  rfl

variable {s : Stage} {t₀ t t' : FileTree} {root : String}

/-! ## Publishing -/

/-- Some entries of the staging directory have taken their places below the root. -/
structure Published (s : Stage) (done : List String) (t t' : FileTree) : Prop where
  tidy : t'.Tidy
  base : t'.base = t.base
  arrived : ∀ name ∈ done, ∀ rest, t'.get? (s.home ++ name :: rest) = t.get? (s.loc ++ name :: rest)
  left : ∀ name ∈ done, ∀ rest, t'.get? (s.loc ++ name :: rest) = none
  others : ∀ loc, (∀ name ∈ done, ¬ s.home ++ [name] <+: loc ∧ ¬ s.loc ++ [name] <+: loc) →
    t'.get? loc = t.get? loc

theorem Published.refl (h : t.Tidy) : Published s [] t t :=
  ⟨h, rfl, nofun, nofun, fun _ _ => rfl⟩

/-- Two entries of one directory are in each other's way only if they have one name. -/
theorem concat_prefix_iff {dir rest : Location} {name first : String} :
    dir ++ [name] <+: dir ++ first :: rest ↔ name = first := by
  rw [List.prefix_append_right_inj, List.cons_prefix_cons]
  exact and_iff_left (List.nil_prefix)

theorem concat_not_prefix_self (dir : Location) (name : String) : ¬ dir ++ [name] <+: dir := by
  intro hpre
  have hlength := hpre.length_le
  rw [List.length_append, List.length_singleton] at hlength
  omega

theorem Stage.loc_append (s : Stage) (rest : Location) :
    s.loc ++ rest = s.home ++ s.mark :: rest := by
  rw [Stage.loc, List.append_assoc]
  rfl

theorem Stage.home_not_prefix {name : String} (h : name ≠ s.mark) (rest : Location) :
    ¬ s.home ++ [name] <+: s.loc ++ rest := by
  rw [s.loc_append, concat_prefix_iff]
  exact h

theorem Stage.loc_not_prefix {name : String} (h : name ≠ s.mark) (inner rest : Location) :
    ¬ s.loc ++ inner <+: s.home ++ name :: rest := by
  rw [s.loc_append, List.prefix_append_right_inj, List.cons_prefix_cons]
  exact fun hpre => h hpre.1.symm

/-- Everything below one name is moved from the staging directory to the root, in the place of what
stood there. -/
theorem Published.step {done : List String} {name : String} (h : Published s done t t')
    (hnew : name ∉ done) (hdone : ∀ n ∈ done, n ≠ s.mark) (hname : IsFileName name)
    (hmark : name ≠ s.mark) (hhome : t'.get? s.home = some .directory) :
    Published s (done ++ [name]) t
      ((t'.remove (s.home ++ [name])).move (s.loc ++ [name]) (s.home ++ [name])) := by
  have hsource : s.loc ++ [name] ≠ [] := by simp
  have hdest : s.home ++ [name] ≠ [] := by simp
  have hapart (rest : Location) : ¬ s.home ++ [name] <+: s.loc ++ [name] ++ rest := by
    rw [List.append_assoc]
    exact Stage.home_not_prefix hmark _
  have hget := FileTree.get?_replace t' hsource hdest hapart
  have hcons (dir rest : Location) : dir ++ [name] ++ rest = dir ++ name :: rest := by simp
  refine ⟨?_, h.base, ?_, ?_, ?_⟩
  · refine h.tidy.replace hsource hhome hname fun hpre => ?_
    have hlength := hpre.length_le
    rw [Stage.loc, List.length_append, List.length_append] at hlength
    simp only [List.length_singleton] at hlength
    omega
  · intro n hn rest
    rcases List.mem_append.1 hn with hn | hn
    · have hne : name ≠ n := fun heq => hnew (heq ▸ hn)
      rw [hget, if_neg (mt concat_prefix_iff.1 hne), if_neg (Stage.loc_not_prefix (hdone n hn) _ _)]
      exact h.arrived n hn rest
    · obtain rfl := List.mem_singleton.1 hn
      rw [hget, if_pos (concat_prefix_iff.2 rfl), ← hcons s.home rest, List.drop_left, hcons]
      refine h.others _ fun m hm => ⟨Stage.home_not_prefix (hdone m hm) _, fun hpre => ?_⟩
      exact hnew (concat_prefix_iff.1 hpre ▸ hm)
  · intro n hn rest
    rcases List.mem_append.1 hn with hn | hn
    · have hne : name ≠ n := fun heq => hnew (heq ▸ hn)
      rw [hget, if_neg (Stage.home_not_prefix hmark _), if_neg (mt concat_prefix_iff.1 hne)]
      exact h.left n hn rest
    · obtain rfl := List.mem_singleton.1 hn
      rw [hget, if_neg (Stage.home_not_prefix hmark _), if_pos (concat_prefix_iff.2 rfl)]
  · intro loc hloc
    obtain ⟨hto, hfrom⟩ := hloc name (by simp)
    rw [hget, if_neg hto, if_neg hfrom]
    exact h.others loc fun n hn => hloc n (List.mem_append_left _ hn)

/-- Neither the root nor the staging directory is touched. -/
theorem Published.directories {done : List String} (h : Published s done t t')
    (hdone : ∀ n ∈ done, n ≠ s.mark) (hstaged : Staged s t₀ t) :
    t'.get? s.home = some .directory ∧ t'.get? s.loc = some .directory := by
  have hshort (dir inner : Location) (n : String) (hlength : dir.length ≤ inner.length) :
      ¬ inner ++ [n] <+: dir := by
    intro hpre
    have hle := hpre.length_le
    rw [List.length_append, List.length_singleton] at hle
    omega
  have hhome := hstaged.wellFormed.parents s.home s.mark _ hstaged.directory
  have hlength : s.home.length ≤ s.loc.length := by
    rw [Stage.loc, List.length_append]
    omega
  constructor
  · rw [h.others s.home fun n _ => ⟨hshort _ _ n (Nat.le_refl _), hshort _ _ n hlength⟩]
    exact hhome
  · rw [h.others s.loc fun n hn => ⟨?_, hshort _ _ n (Nat.le_refl _)⟩]
    · exact hstaged.directory
    · exact mt concat_prefix_iff.1 (hdone n hn)

/-- The staging directory is below a root, by its path. -/
structure Stage.IsBelow (s : Stage) (root : String) : Prop where
  notEmpty : root ≠ ""
  components : Path.components root = s.front
  rooted : Path.isRooted root = Path.isRooted s.path

theorem Stage.IsBelow.follow (h : s.IsBelow root) : Path.follow s.base root = s.home := by
  rw [Path.follow_eq_components, h.components, h.rooted]
  rfl

theorem Stage.place_path (hbase : t.base = s.base) : t.place s.path = s.loc := by
  rw [FileTree.place, hbase, s.follow_path]

/-- The staging directory is discarded with all that is in it, if its path can be followed. -/
theorem Stage.get?_discard_path {g : FileTree.Target} (hbase : t.base = s.base)
    (htarget : t.target s.path = .ok g) (loc : Location) :
    (t.discard s.path).get? loc = if s.loc <+: loc then none else t.get? loc := by
  rw [FileTree.discard_of_target htarget, (FileTree.target_ok htarget).location,
    Stage.place_path hbase, FileTree.get?_remove t s.loc_ne_nil]

theorem Stage.target_entry {name : String} (ht : t.Tidy) (hbase : t.base = s.base)
    (hdir : t.get? s.loc = some .directory) (hname : IsFileName name)
    (htext : IsPathText (Path.within s.path [name])) :
    t.target (Path.within s.path [name]) =
      .ok { dir := s.loc, name := some name, closed := false } := by
  rw [← Stage.place_path hbase] at hdir ⊢
  exact FileTree.target_within ht hdir hname htext

theorem Stage.IsBelow.target_entry {name : String} (hbelow : s.IsBelow root) (ht : t.Tidy)
    (hbase : t.base = s.base) (hdir : t.get? s.home = some .directory) (hname : IsFileName name)
    (htext : IsPathText (Path.within root [name])) :
    t.target (Path.within root [name]) =
      .ok { dir := s.home, name := some name, closed := false } := by
  have hplace : t.place root = s.home := by rw [FileTree.place, hbase, hbelow.follow]
  rw [← hplace] at hdir ⊢
  exact FileTree.target_within ht hdir hname htext

/-- An entry can always be published. -/
theorem publishEntry_run {done : List String} {name : String} (hbelow : s.IsBelow root)
    (hstaged : Staged s t₀ t) (h : Published s done t t') (hdone : ∀ n ∈ done, n ≠ s.mark)
    (hnew : name ∉ done) (hname : t.get? (s.loc ++ [name]) ≠ none) :
    ∃ t'', (publishEntry s.path root name).run t' = (.ok (), t'') ∧
      Published s (done ++ [name]) t t'' := by
  obtain ⟨e, he⟩ := Option.ne_none_iff_exists'.1 hname
  have hfile := hstaged.wellFormed.names_of_entry he name (by simp)
  have hmark : name ≠ s.mark := by
    rintro rfl
    exact hname hstaged.free
  obtain ⟨hhome, -⟩ := h.directories hdone hstaged
  have hstep := h.step hnew hdone hfile hmark hhome
  refine ⟨_, ?_, hstep⟩
  have hbase : t'.base = s.base := h.base.trans hstaged.base
  have hinside := Path.inside?_name hfile.toIsName hfile.slash
  have hsourceText : IsPathText (Path.within s.path [name]) :=
    hstaged.fits [name] (by simp) hname
  have hdestText : IsPathText (Path.within root [name]) := by
    rw [Path.within, s.components, List.append_assoc] at hsourceText
    rw [Path.within, hbelow.components, hbelow.rooted]
    exact IsPathText.without hfile.notEmpty hsourceText
  unfold publishEntry
  rw [Path.join_within s.notEmpty hinside, Path.join_within hbelow.notEmpty hinside]
  show (modify _ >>= _ : Job Unit).run t' = _
  rw [Job.run_modify_bind,
    FileTree.discard_of_target (hbelow.target_entry h.tidy hbase hhome hfile hdestText)]
  show (Job.rewording _ _).run (t'.remove (s.home ++ [name])) = _
  have hne : s.home ++ [name] ≠ [] := by simp
  have hcleared : (t'.remove (s.home ++ [name])).Tidy := h.tidy.remove hne
  have hkept {loc : Location} (hloc : ¬ s.home ++ [name] <+: loc) :
      (t'.remove (s.home ++ [name])).get? loc = t'.get? loc := by
    rw [FileTree.get?_remove t' hne, if_neg hloc]
  have hhome' := (hkept (concat_not_prefix_self s.home name)).trans hhome
  have hentry' : (t'.remove (s.home ++ [name])).get? (s.loc ++ [name]) = some e := by
    rw [hkept (Stage.home_not_prefix hmark _), ← he]
    refine h.others _ fun n hn => ⟨Stage.home_not_prefix (hdone n hn) _, ?_⟩
    intro hpre
    exact hnew (concat_prefix_iff.1 hpre ▸ hn)
  have hsource := Stage.target_entry hcleared hbase (hcleared.parents s.loc name e hentry') hfile
    hsourceText
  have hfind := FileTree.find_of_target hsource rfl hentry'
  have hrename := FileTree.rename_of_target hfind
    (hbelow.target_entry hcleared hbase hhome' hfile hdestText)
  apply Job.run_rewording_of_ok
  apply Job.run_change_of_ok
  rw [hrename]
  rfl

/-- All entries can be published one after the other. -/
theorem forM_publishEntry_run {done names : List String} (hbelow : s.IsBelow root)
    (hstaged : Staged s t₀ t) (h : Published s done t t')
    (hnames : ∀ n ∈ done ++ names, t.get? (s.loc ++ [n]) ≠ none) (hdistinct : (done ++ names).Nodup) :
    ∃ t'', (names.forM (publishEntry s.path root)).run t' = (.ok (), t'') ∧
      Published s (done ++ names) t t'' := by
  induction names generalizing done t' with
  | nil =>
    rw [List.append_nil]
    exact ⟨t', rfl, h⟩
  | cons name names ih =>
    have hdone : ∀ n ∈ done, n ≠ s.mark := by
      rintro n hn rfl
      exact hnames _ (List.mem_append_left _ hn) hstaged.free
    have hnew : name ∉ done := by
      intro hmem
      have hapart := (List.nodup_append.1 hdistinct).2.2
      exact hapart name hmem name List.mem_cons_self rfl
    obtain ⟨t₁, hrun, hstep⟩ :=
      publishEntry_run hbelow hstaged h hdone hnew (hnames name (by simp))
    have hassoc : done ++ name :: names = done ++ [name] ++ names := by simp
    rw [hassoc] at hnames hdistinct ⊢
    obtain ⟨t'', hrest, hall⟩ := ih hstep hnames hdistinct
    refine ⟨t'', ?_, hall⟩
    show (publishEntry s.path root name >>= fun _ => names.forM _).run t' = _
    rw [Job.run_bind_of_ok hrun]
    exact hrest

/-- Publishing never fails once the staging directory has been filled, and takes everything out
of it. -/
theorem publish_run {g : FileTree.Target} (hbelow : s.IsBelow root) (hstaged : Staged s t₀ t)
    (htarget : t.target s.path = .ok g) :
    ∃ t', (publish s.path root).run t = (.ok (), t') ∧ Published s (t.children s.loc) t t' := by
  have hplace : t.place s.path = s.loc := Stage.place_path hstaged.base
  have hfind : t.find s.path = .ok (s.loc, .directory) := by
    rw [← hplace]
    apply FileTree.find_directory htarget
    rw [hplace]
    exact hstaged.directory
  unfold publish
  rw [Job.run_get_bind, hfind]
  exact forM_publishEntry_run hbelow hstaged (.refl hstaged.wellFormed.toTidy)
    (fun n hn => hstaged.wellFormed.mem_children.1 hn) (hstaged.wellFormed.children_nodup s.loc)

/-! ## Making the directory -/

/-- A name that occurs nowhere. -/
structure Unmentioned (name : String) (t : FileTree) (root : String) (results : List Result) :
    Prop where
  base : name ∉ t.base
  entries : ∀ p ∈ t.entries, name ∉ p.1
  root : name ∉ Text.split '/' root
  files : ∀ r ∈ results, ∀ f ∈ r.files, name ∉ Text.split '/' f.path
  sources : ∀ r ∈ results, ∀ d ∈ r.deploy, name ∉ Text.split '/' d.source
  dests : ∀ r ∈ results, ∀ d ∈ r.deploy, name ∉ Text.split '/' d.dest

theorem paths_eq (r : Result) :
    r.paths = r.files.map (·.path) ++ r.deploy.map fun d => Path.clean d.dest := by
  unfold Result.paths Result.files
  simp only [List.map_append, List.map_map]
  rfl

theorem unmentioned_of_not_mem {name : String} {results : List Result}
    (h : name ∉ mentioned t root results) : Unmentioned name t root results := by
  unfold mentioned at h
  have hpath (r : Result) (hr : r ∈ results) (path : String)
      (hmem : path ∈ r.paths ++ r.deploy.flatMap fun d => [d.source, d.dest]) :
      name ∉ Text.split '/' path := by
    intro hname
    apply h
    apply List.mem_append_right
    refine List.mem_flatMap.2 ⟨path, List.mem_cons_of_mem _ ?_, hname⟩
    exact List.mem_flatMap.2 ⟨r, hr, hmem⟩
  constructor
  · intro hmem
    exact h (List.mem_append_left _ (List.mem_append_left _ hmem))
  · intro p hp hmem
    apply h
    exact List.mem_append_left _ (List.mem_append_right _ (List.mem_flatMap.2 ⟨p, hp, hmem⟩))
  · intro hmem
    exact h (List.mem_append_right _ (List.mem_flatMap.2 ⟨root, List.mem_cons_self, hmem⟩))
  · intro r hr f hf
    refine hpath r hr f.path (List.mem_append_left _ ?_)
    rw [paths_eq]
    exact List.mem_append_left _ (List.mem_map.2 ⟨f, hf, rfl⟩)
  · intro r hr d hd
    refine hpath r hr d.source (List.mem_append_right _ ?_)
    exact List.mem_flatMap.2 ⟨d, hd, by simp⟩
  · intro r hr d hd
    refine hpath r hr d.dest (List.mem_append_right _ ?_)
    exact List.mem_flatMap.2 ⟨d, hd, by simp⟩

theorem Unmentioned.get? {name : String} {results : List Result}
    (h : Unmentioned name t root results) {loc : Location} (hloc : name ∈ loc) :
    t.get? loc = none := by
  cases hentry : t.get? loc with
  | none => rfl
  | some e =>
    have hne : loc ≠ [] := List.ne_nil_of_mem hloc
    exact absurd hloc (h.entries _ (FileTree.mem_of_get? hne hentry))

/-- Making the root makes nothing with the new name. -/
theorem Unmentioned.grown {name : String} {results : List Result}
    (h : Unmentioned name t root results) (hgrown : Job.Grown (Job.pathsTo root) t t')
    {loc : Location} (hloc : name ∈ loc) : t'.get? loc = none := by
  rcases hgrown.entries loc with hsame | ⟨-, -, p, hp, hplace, -⟩
  · rw [hsame, h.get? hloc]
  · rw [← hplace] at hloc
    have hparts : name ∉ Text.split '/' p := fun hmem => h.root (Job.split_pathsTo hp hmem)
    exact absurd hloc (Path.not_mem_follow h.base hparts)

/-- The staging directory `s` has been made for the root, and is empty. -/
structure Prepared (n : Nat) (root : String) (t : FileTree) (s : Stage) (t₀ : FileTree) : Prop where
  path : s.path = stagePath root n
  mark : s.mark = stageName n
  base : s.base = t.base
  below : s.IsBelow root
  staged : Staged s t₀ t₀
  empty : ∀ rest, rest ≠ [] → t₀.get? (s.loc ++ rest) = none
  target : ∃ g, t₀.target s.path = .ok g
  content : ∀ loc, t₀.content? loc = t.content? loc

theorem makeDirectories_ne_empty {u : Unit} (h : (Job.makeDirectories root).run t = (.ok u, t')) :
    root ≠ "" := by
  rintro rfl
  have hfails : (Job.makeDirectories "").run t = (.error (Refusal.absent.fault "mkdir" ""), t) := rfl
  rw [hfails] at h
  cases h

/-- What the new staging directory is like. -/
theorem prepared_of_makeDirectory {n : Nat} {results : List Result} {t₁ t₀ : FileTree}
    (hnew : Unmentioned (stageName n) t root results) (hroot : root ≠ "")
    (hgrown : Job.Grown (Job.pathsTo root) t t₁)
    (hmake : t₁.makeDirectory (stagePath root n) = .ok t₀) : ∃ s, Prepared n root t s t₀ := by
  obtain ⟨⟨g, htarget⟩, hfree, rfl⟩ := FileTree.makeDirectory_ok hmake
  have hnone : t₁.get? (t₁.place (stagePath root n)) ≠ some .directory := by rw [hfree]; nofun
  obtain ⟨hwell, hne⟩ := hgrown.wellFormed.put_place htarget hnone .directory
  obtain ⟨dir, name, hplace, -, hname⟩ := FileTree.place_split hgrown.wellFormed htarget hnone
  have hlast : t₁.place (stagePath root n) = Path.follow t.base root ++ [stageName n] := by
    rw [FileTree.place, hgrown.base, follow_stagePath hroot]
  obtain rfl : name = stageName n := by
    rw [hplace] at hlast
    exact (List.cons.inj (List.append_inj' hlast rfl).2).1
  have hhome := Stage.ofRoot_home t.base hroot hname hnew.root
  have hpath : (Stage.ofRoot t.base hroot hname hnew.root).path = stagePath root n := rfl
  have hmark : (Stage.ofRoot t.base hroot hname hnew.root).mark = stageName n := rfl
  have hbase : (Stage.ofRoot t.base hroot hname hnew.root).base = t.base := rfl
  have hfront : (Stage.ofRoot t.base hroot hname hnew.root).front =
    Path.components root := rfl
  generalize Stage.ofRoot t.base hroot hname hnew.root = s at *
  have hloc : t₁.place (stagePath root n) = s.loc := by rw [hlast, Stage.loc, hhome, hmark]
  rw [hloc] at hfree hne hwell hnone ⊢
  have hget := FileTree.get?_put t₁ .directory hne
  have hunmarked {loc : Location} (hmem : s.mark ∈ loc) (hother : loc ≠ s.loc) :
      (t₁.put s.loc .directory).get? loc = none := by
    rw [hget, if_neg hother]
    rw [hmark] at hmem
    exact hnew.grown hgrown hmem
  have hempty (rest : Location) (hrest : rest ≠ []) :
      (t₁.put s.loc .directory).get? (s.loc ++ rest) = none := by
    refine hunmarked (by simp [Stage.loc]) ?_
    simpa using hrest
  refine ⟨s, hpath, hmark, hbase, ⟨hroot, hfront.symm, ?_⟩, ?_, hempty, ⟨g, ?_⟩, fun loc => ?_⟩
  · rw [hpath, isRooted_stagePath hroot]
  · refine ⟨hwell, hgrown.base.trans hbase.symm, ?_, fun _ _ => rfl, ?_, ?_, ?_⟩
    · rw [hget, if_pos rfl]
    · intro loc hmem hunder
      refine hunmarked hmem ?_
      rintro rfl
      exact hunder (List.prefix_refl _)
    · intro rel hrel hentry
      exact absurd (hempty rel hrel) hentry
    · exact hempty [s.mark] (by simp)
  · rw [hpath]
    refine FileTree.target_kept (t := t₁) rfl (fun loc hdir => ?_) htarget
    rw [hget]
    split
    · rfl
    · exact hdir
  · rw [← hgrown.content loc, FileTree.content?, FileTree.content?, hget]
    split
    · next heq =>
      rw [heq, hfree]
      rfl
    · rfl

theorem makeStage_of_ok {n : Nat} (h : t.makeDirectory (stagePath root n) = .ok t') :
    (makeStage root n).run t = (.ok (stagePath root n), t') := by
  refine Job.run_bind_of_ok (a := ()) (Job.run_change_of_ok ?_)
  rw [h]
  rfl

theorem makeStage_of_error {n : Nat} {r : Refusal}
    (h : t.makeDirectory (stagePath root n) = .error r) :
    (makeStage root n).run t = (.error (r.fault "mkdir" (stagePath root n)), t) := by
  refine Job.run_bind_of_error (Job.run_change_of_error ?_)
  rw [h]
  rfl

theorem write_run (t : FileTree) (root : String) (results : List Result) :
    (write root results).run t = (writeVia (stageNumber t root results) root results).run t :=
  Job.run_get_bind _ t

/-- The part of a write for which the staging directory is there. -/
def fillAndPublish (stage root : String) (results : List Result) : Job Unit := do
  fill stage results
  publish stage root

/-- A write either fails before the staging directory is there, and then nothing has happened but
that directories were made; or it does its work with the staging directory, and discards that in the
end. -/
theorem writeVia_cases {n : Nat} {results : List Result} (ht : t.WellFormed)
    (hnew : Unmentioned (stageName n) t root results) :
    (∃ e t', (writeVia n root results).run t = (.error e, t') ∧
      (∀ loc, t'.content? loc = t.content? loc) ∧ ∀ loc, stageName n ∈ loc → t'.get? loc = none) ∨
    ∃ s t₀, Prepared n root t s t₀ ∧
      (writeVia n root results).run t =
        (((fillAndPublish s.path root results).run t₀).1,
          ((fillAndPublish s.path root results).run t₀).2.discard s.path) := by
  have hgrown := Job.makeDirectories_grown ht root
  rcases hroot : (Job.makeDirectories root).run t with ⟨outcome, t₁⟩
  rw [hroot] at hgrown
  have hcreate := Job.run_rewording (fault "create output root") (Job.makeDirectories root) t
  rw [hroot] at hcreate
  cases outcome with
  | error e =>
    exact .inl ⟨_, t₁, Job.run_bind_of_error hcreate, hgrown.content, fun _ => hnew.grown hgrown⟩
  | ok u =>
    have hrun : (writeVia n root results).run t =
        ((makeStage root n).rewording (fault "create staging directory") >>= fun stage =>
          Job.thenAlways (fillAndPublish stage root results) (·.discard stage) : Job Unit).run t₁ :=
      Job.run_bind_of_ok hcreate
    cases hmake : t₁.makeDirectory (stagePath root n) with
    | error r =>
      have hstage := Job.run_rewording (fault "create staging directory") (makeStage root n) t₁
      rw [makeStage_of_error hmake] at hstage
      exact .inl ⟨_, t₁, hrun.trans (Job.run_bind_of_error hstage), hgrown.content,
        fun _ => hnew.grown hgrown⟩
    | ok t₀ =>
      obtain ⟨s, hs⟩ :=
        prepared_of_makeDirectory hnew (makeDirectories_ne_empty hroot) hgrown hmake
      refine .inr ⟨s, t₀, hs, ?_⟩
      rw [hrun, Job.run_bind_of_ok (Job.run_rewording_of_ok (makeStage_of_ok hmake)),
        Job.run_thenAlways, hs.path]

/-! ## Paths that stay -/

/-- A path that, joined to the staging directory and cleaned, is still the path of a place in it. -/
def StaysIn (stage path : String) : Prop :=
  Path.components stage <+: Path.components (Path.join [stage, path])

instance (stage path : String) : Decidable (StaysIn stage path) :=
  inferInstanceAs (Decidable (_ <+: _))

theorem inside?_of_stays {path : String} (hpath : s.mark ∉ Text.split '/' path)
    (h : StaysIn s.path path) :
    ∃ rel, Path.inside? path = some rel ∧ rel.head? ≠ some s.mark := by
  have hmem : s.mark ∈ Path.components (Path.join [s.path, path]) :=
    h.subset (by rw [s.components]; simp)
  obtain ⟨rel, hrel⟩ := Path.inside?_of_mem s.notEmpty s.components s.isFileName.toIsName
    s.front_new hpath hmem
  refine ⟨rel, hrel, fun hhead => ?_⟩
  exact hpath (Path.inside?_names hrel s.mark (List.mem_of_head? hhead)).2

/-- No path of a result leaves the staging directory, and a deployment to the root itself is not
one of a directory that contains the root. -/
structure Confined (t : FileTree) (stage root : String) (r : Result) : Prop where
  files : ∀ f ∈ r.files, StaysIn stage f.path
  dests : ∀ d ∈ r.deploy, StaysIn stage d.dest
  sources : ∀ d ∈ r.deploy, Path.components d.dest ≠ [] ∨ ¬ t.place d.source <+: t.place root

theorem Prepared.place_root {n : Nat} (h : Prepared n root t s t₀) : t.place root = s.home := by
  rw [FileTree.place, ← h.base, h.below.follow]

theorem Prepared.place_new {n : Nat} {results : List Result} {r : Result} {d : Deployment}
    (h : Prepared n root t s t₀) (hnew : Unmentioned (stageName n) t root results)
    (hr : r ∈ results) (hd : d ∈ r.deploy) : s.mark ∉ Path.follow s.base d.source := by
  rw [h.mark, h.base]
  exact Path.not_mem_follow hnew.base (hnew.sources r hr d hd)

theorem Prepared.contained {n : Nat} {results : List Result} {r : Result}
    (h : Prepared n root t s t₀) (hnew : Unmentioned (stageName n) t root results)
    (hr : r ∈ results) (hconfined : Confined t s.path root r) : Contained s r := by
  constructor
  · intro f hf
    exact inside?_of_stays (h.mark ▸ hnew.files r hr f hf) (hconfined.files f hf)
  · intro d hd
    obtain ⟨rel, hrel, hhead⟩ :=
      inside?_of_stays (h.mark ▸ hnew.dests r hr d hd) (hconfined.dests d hd)
    refine ⟨rel, hrel, hhead, fun hnil => ⟨h.place_new hnew hr hd, ?_⟩⟩
    rcases hconfined.sources d hd with hdest | hsource
    · rw [Path.components_inside hrel] at hdest
      exact absurd hnil hdest
    · rw [FileTree.place, h.place_root, ← h.base] at hsource
      exact hsource

/-! ## Failed writes -/

/-- A directory of which only the inside has changed can still be reached by its path. -/
theorem Prepared.target_staged {n : Nat} (h : Prepared n root t s t₀) (hstaged : Staged s t₀ t') :
    ∃ g, t'.target s.path = .ok g := by
  obtain ⟨g, htarget⟩ := h.target
  refine ⟨g, FileTree.target_kept (hstaged.base.trans h.staged.base.symm) (fun loc hdir => ?_)
    htarget⟩
  by_cases hunder : s.loc <+: loc
  · obtain ⟨rest, rfl⟩ := hunder
    by_cases hrest : rest = []
    · rw [hrest, List.append_nil]
      exact hstaged.directory
    · rw [h.empty rest hrest] at hdir
      cases hdir
  · rw [hstaged.outside loc hunder]
    exact hdir

/-- Without the staging directory everything is as it was before. -/
theorem Prepared.discard_staged {n : Nat} {results : List Result} (h : Prepared n root t s t₀)
    (hnew : Unmentioned (stageName n) t root results) (hstaged : Staged s t₀ t') (loc : Location) :
    (t'.discard s.path).content? loc = t.content? loc ∧
      (stageName n ∈ loc → (t'.discard s.path).get? loc = none) := by
  obtain ⟨g, htarget⟩ := h.target_staged hstaged
  have hget := Stage.get?_discard_path hstaged.base htarget
  constructor
  · rw [FileTree.content?, hget, ← h.content loc, FileTree.content?]
    by_cases hunder : s.loc <+: loc
    · have hmark : stageName n ∈ loc := by
        rw [← h.mark]
        exact hunder.subset (by simp [Stage.loc])
      have hbefore := h.content loc
      rw [FileTree.content?, FileTree.content?, hnew.get? hmark] at hbefore
      rw [if_pos hunder, hbefore]
    · rw [if_neg hunder, hstaged.outside loc hunder]
  · intro hmark
    rw [hget]
    by_cases hunder : s.loc <+: loc
    · rw [if_pos hunder]
    · rw [if_neg hunder]
      exact hstaged.unmarked loc (h.mark ▸ hmark) hunder

/-- Work with the staging directory fails only while that is being filled. -/
theorem fillAndPublish_error {n : Nat} {results : List Result} {e : Fault}
    (h : Prepared n root t s t₀) (hcontained : ∀ r ∈ results, Contained s r)
    (hrun : ((fillAndPublish s.path root results).run t₀).1 = .error e) :
    Staged s t₀ ((fillAndPublish s.path root results).run t₀).2 := by
  have hkept := fill_keeps hcontained t₀ h.staged
  rcases hfill : (fill s.path results).run t₀ with ⟨outcome, t₁⟩
  rw [hfill] at hkept
  cases outcome with
  | error f =>
    have hall : (fillAndPublish s.path root results).run t₀ = (.error f, t₁) :=
      Job.run_bind_of_error hfill
    rw [hall]
    exact hkept
  | ok u =>
    obtain ⟨g, htarget⟩ := h.target_staged hkept
    obtain ⟨t₂, hpublish, -⟩ := publish_run h.below hkept htarget
    have hall : (fillAndPublish s.path root results).run t₀ = (.ok (), t₂) :=
      (Job.run_bind_of_ok hfill).trans hpublish
    rw [hall] at hrun
    cases hrun

/-- A write that fails leaves every file as it was, and no staging directory. -/
theorem writeVia_error {n : Nat} {results : List Result} {e : Fault} (ht : t.WellFormed)
    (hnew : Unmentioned (stageName n) t root results)
    (hconfined : ∀ r ∈ results, Confined t (stagePath root n) root r)
    (h : (writeVia n root results).run t = (.error e, t')) (loc : Location) :
    t'.content? loc = t.content? loc ∧ (stageName n ∈ loc → t'.get? loc = none) := by
  rcases writeVia_cases ht hnew with ⟨f, t₁, hfailed, hcontent, hstage⟩ | ⟨s, t₀, hprepared, hrun⟩
  · rw [hfailed] at h
    obtain rfl := congrArg Prod.snd h
    exact ⟨hcontent loc, hstage loc⟩
  · have hcontained : ∀ r ∈ results, Contained s r := fun r hr =>
      hprepared.contained hnew hr (hprepared.path ▸ hconfined r hr)
    rw [hrun] at h
    obtain ⟨herror, rfl⟩ := Prod.mk.inj h
    exact hprepared.discard_staged hnew (fillAndPublish_error hprepared hcontained herror) loc

end Boardwright.Output
