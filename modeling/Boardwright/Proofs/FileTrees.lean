import Boardwright.FileTree.Access
import Boardwright.Proofs.Lookup
import Boardwright.Proofs.Paths

/-!
# Trees and paths

What the operations on a file tree do, told by the places they are about.

There are four groups.

* Entries.  One lemma for each change says what stands at a place afterwards:
  `get?_put`, `get?_remove`, `get?_move`.
* Trees.  `Tidy` is what makes a list of entries a tree: proper names, and every entry
  in a directory.  Each change keeps it.  `WellFormed` trees also have no place twice, and
  a directory to start from.
* Paths.  `target_ok` says that a path that can be followed leads to its
  `place`, which depends on its text only; `target_render` is the converse for
  cleaned paths.  The operations by path are then told by places: `find_ok`,
  `makeDirectory_ok`, `writeFile_ok`, `discard_of_target`, `rename_of_target`.
* Listings.  `WellFormed.mem_children` and `WellFormed.mem_below` say what is listed.
-/

namespace Boardwright

/-! ## Entries -/

namespace FileTree

variable {t t' : FileTree} {loc l : Location} {e : Entry}

theorem get?_of_ne (t : FileTree) (h : loc ≠ []) : t.get? loc = t.entries.lookup loc :=
  if_neg h

theorem isPrefixOf_eq (a b : Location) : a.isPrefixOf b = decide (a <+: b) := by
  rw [Bool.eq_iff_iff, List.isPrefixOf_iff_prefix, decide_eq_true_iff]

theorem get?_put (t : FileTree) (e : Entry) (hloc : loc ≠ []) (l : Location) :
    (t.put loc e).get? l = if l = loc then some e else t.get? l := by
  by_cases hl : l = []
  · subst hl
    rw [if_neg (Ne.symm hloc)]
    rfl
  · rw [get?_of_ne _ hl, get?_of_ne _ hl]
    show List.lookup l ((loc, e) :: t.entries.filter fun p => p.1 != loc) = _
    rw [List.lookup_cons, lookup_filter_key (fun k => k != loc)]
    by_cases heq : l = loc
    · simp [heq]
    · have hne : (l == loc) = false := by simpa using heq
      simp [heq, hne]

theorem get?_remove (t : FileTree) (hloc : loc ≠ []) (l : Location) :
    (t.remove loc).get? l = if loc <+: l then none else t.get? l := by
  by_cases hl : l = []
  · subst hl
    rw [if_neg (fun h => hloc (List.prefix_nil.1 h))]
    rfl
  · rw [get?_of_ne _ hl, get?_of_ne _ hl]
    show List.lookup l (t.entries.filter fun p => !loc.isPrefixOf p.1) = _
    rw [lookup_filter_key (fun k => !loc.isPrefixOf k), isPrefixOf_eq]
    by_cases hpre : loc <+: l
    · rw [if_pos hpre, if_neg (by simp [hpre])]
    · rw [if_neg hpre, if_pos (by simp [hpre])]

theorem not_prefix_of_mem_remove {p : Location × Entry} (h : p ∈ (t.remove loc).entries) :
    ¬ loc <+: p.1 := by
  have hkept := (List.mem_filter.1 h).2
  simpa [isPrefixOf_eq] using hkept

/-- Where a move takes what stands at a place. -/
def moved (source dest loc : Location) : Location :=
  if source <+: loc then dest ++ loc.drop source.length else loc

theorem move_entries (t : FileTree) (source dest : Location) :
    (t.move source dest).entries = t.entries.map fun p => (moved source dest p.1, p.2) := by
  have hplace (l : Location) :
      (if source.isPrefixOf l then dest ++ l.drop source.length else l) = moved source dest l := by
    simp only [isPrefixOf_eq, decide_eq_true_eq, moved]
  show t.entries.map (fun p => (if source.isPrefixOf p.1 then _ else p.1, p.2)) = _
  simp only [hplace]

theorem moved_below {source : Location} (dest rest : Location) :
    moved source dest (source ++ rest) = dest ++ rest := by
  rw [moved, if_pos (List.prefix_append ..), List.drop_left]

theorem moved_other {source dest loc : Location} (h : ¬ source <+: loc) :
    moved source dest loc = loc :=
  if_neg h

/-- What stands where after a move to a place where nothing stood. -/
theorem get?_move {source dest : Location} (t : FileTree) (hsource : source ≠ [])
    (hdest : dest ≠ []) (hfree : ∀ p ∈ t.entries, ¬ dest <+: p.1) (l : Location) :
    (t.move source dest).get? l =
      if dest <+: l then t.get? (source ++ l.drop dest.length)
      else if source <+: l then none else t.get? l := by
  by_cases hl : l = []
  · subst hl
    rw [if_neg (fun h => hdest (List.prefix_nil.1 h)),
      if_neg (fun h => hsource (List.prefix_nil.1 h))]
    rfl
  rw [get?_of_ne _ hl, move_entries]
  by_cases hunder : dest <+: l
  · rw [if_pos hunder]
    obtain ⟨rest, rfl⟩ := hunder
    rw [List.drop_left, get?_of_ne _ (by simp [hsource])]
    refine lookup_map_key fun p hp => ?_
    by_cases hfrom : source <+: p.1
    · obtain ⟨tail, htail⟩ := hfrom
      rw [← htail, moved_below, List.append_cancel_left_eq, List.append_cancel_left_eq]
    · rw [moved_other hfrom]
      constructor
      · intro heq
        exact absurd ⟨rest, heq.symm⟩ (hfree p hp)
      · intro heq
        exact absurd ⟨rest, heq.symm⟩ hfrom
  rw [if_neg hunder]
  have hback (p : Location) (hp : source <+: p) : moved source dest p ≠ l := by
    obtain ⟨tail, rfl⟩ := hp
    rw [moved_below]
    intro heq
    exact hunder ⟨tail, heq⟩
  by_cases hfrom : source <+: l
  · rw [if_pos hfrom]
    apply List.lookup_eq_none_iff.2
    intro p hp
    obtain ⟨q, -, rfl⟩ := List.mem_map.1 hp
    rw [bne_iff_ne, ne_comm]
    show moved source dest q.1 ≠ l
    by_cases hq : source <+: q.1
    · exact hback q.1 hq
    · rw [moved_other hq]
      intro heq
      exact hq (heq ▸ hfrom)
  · rw [if_neg hfrom, get?_of_ne _ hl]
    refine lookup_map_key fun p hp => ?_
    by_cases hp : source <+: p.1
    · constructor
      · intro heq
        exact absurd heq (hback p.1 hp)
      · intro heq
        exact absurd (heq ▸ hp) hfrom
    · rw [moved_other hp]

/-- What stands where after a move to a place that was cleared for it. -/
theorem get?_replace {source dest : Location} (t : FileTree) (hsource : source ≠ [])
    (hdest : dest ≠ []) (hapart : ∀ rest, ¬ dest <+: source ++ rest) (l : Location) :
    ((t.remove dest).move source dest).get? l =
      if dest <+: l then t.get? (source ++ l.drop dest.length)
      else if source <+: l then none else t.get? l := by
  rw [get?_move (t.remove dest) hsource hdest fun p => not_prefix_of_mem_remove]
  by_cases hunder : dest <+: l
  · rw [if_pos hunder, if_pos hunder, get?_remove t hdest, if_neg (hapart _)]
  · rw [if_neg hunder, if_neg hunder, get?_remove t hdest, if_neg hunder]

theorem content?_of_file (h : t.get? loc ≠ none) (hfile : t.get? loc ≠ some .directory) :
    ∃ content, t.content? loc = some content := by
  obtain ⟨e, he⟩ := Option.ne_none_iff_exists'.1 h
  cases e with
  | directory => exact absurd he hfile
  | file content =>
    refine ⟨content, ?_⟩
    rw [content?, he]
    rfl

/-! ## Trees -/

/-- What a directory can hold something under. -/
structure IsFileName (name : String) : Prop extends Path.IsName name where
  slash : '/' ∉ name.toList
  nul : '\x00' ∉ name.toList
  size : name.utf8ByteSize ≤ 255

instance (name : String) : Decidable (IsFileName name) :=
  decidable_of_iff
    (((name ≠ "" ∧ name ≠ "." ∧ name ≠ "..") ∧ '/' ∉ name.toList) ∧ '\x00' ∉ name.toList ∧
      name.utf8ByteSize ≤ 255)
    ⟨fun h => ⟨⟨h.1.1.1, h.1.1.2.1, h.1.1.2.2⟩, h.1.2, h.2.1, h.2.2⟩,
      fun h => ⟨⟨⟨h.notEmpty, h.notHere, h.notUp⟩, h.slash⟩, h.nul, h.size⟩⟩

/-- The entries make up a tree. -/
structure Tidy (t : FileTree) : Prop where
  names : ∀ p ∈ t.entries, ∀ name ∈ p.1, IsFileName name
  parents : ∀ loc name e, t.get? (loc ++ [name]) = some e → t.get? loc = some .directory

/-- A tree in which no place occurs twice and paths start from a directory. -/
structure WellFormed (t : FileTree) : Prop extends Tidy t where
  distinct : (t.entries.map (·.1)).Nodup
  here : t.get? t.base = some .directory

theorem mem_of_get? (hloc : loc ≠ []) (h : t.get? loc = some e) : (loc, e) ∈ t.entries := by
  rw [get?_of_ne t hloc] at h
  exact mem_of_lookup h

namespace Tidy

theorem names_of_entry (ht : t.Tidy) (h : t.get? loc = some e) :
    ∀ name ∈ loc, IsFileName name := by
  by_cases hloc : loc = []
  · subst hloc
    nofun
  · exact ht.names _ (mem_of_get? hloc h)

/-- Everything above an entry is a directory. -/
theorem above (ht : t.Tidy) {rest : Location} (hrest : rest ≠ [])
    (h : t.get? (loc ++ rest) = some e) : t.get? loc = some .directory := by
  induction rest generalizing loc with
  | nil => exact absurd rfl hrest
  | cons name rest ih =>
    by_cases hnil : rest = []
    · subst hnil
      exact ht.parents loc name e h
    · have hinner : t.get? (loc ++ [name]) = some .directory := by
        apply ih hnil
        rw [List.append_assoc]
        exact h
      exact ht.parents loc name _ hinner

/-- Nothing is below a place where no directory stands. -/
theorem none_below_of_ne (ht : t.Tidy) (h : t.get? loc ≠ some .directory) {rest : Location}
    (hrest : rest ≠ []) : t.get? (loc ++ rest) = none := by
  cases hentry : t.get? (loc ++ rest) with
  | none => rfl
  | some e => exact absurd (ht.above hrest hentry) h

theorem none_below (ht : t.Tidy) (h : t.get? loc = none) (rest : Location) :
    t.get? (loc ++ rest) = none := by
  by_cases hrest : rest = []
  · rw [hrest, List.append_nil]
    exact h
  · exact ht.none_below_of_ne (by rw [h]; nofun) hrest

theorem dropLast (ht : t.Tidy) (h : t.get? loc = some .directory) :
    t.get? loc.dropLast = some .directory := by
  by_cases hloc : loc = []
  · subst hloc
    rfl
  · rw [← List.dropLast_concat_getLast hloc] at h
    exact ht.parents _ _ _ h

theorem put {dir : Location} {name : String} (ht : t.Tidy) (hdir : t.get? dir = some .directory)
    (hname : IsFileName name)
    (hkind : t.get? (dir ++ [name]) = some .directory → e = .directory) :
    (t.put (dir ++ [name]) e).Tidy := by
  have hne : dir ++ [name] ≠ [] := by simp
  constructor
  · intro p hp
    rcases List.mem_cons.1 hp with rfl | hp
    · intro n hn
      rcases List.mem_append.1 hn with hn | hn
      · exact ht.names_of_entry hdir n hn
      · exact List.mem_singleton.1 hn ▸ hname
    · exact ht.names p (List.mem_filter.1 hp).1
  · intro l n e' h
    rw [get?_put t e hne] at h ⊢
    by_cases hhere : l ++ [n] = dir ++ [name]
    · obtain ⟨rfl, -⟩ := List.append_inj' hhere rfl
      rw [if_neg (by simp)]
      exact hdir
    · rw [if_neg hhere] at h
      have hparent := ht.parents l n e' h
      by_cases hl : l = dir ++ [name]
      · rw [if_pos hl, hkind (hl ▸ hparent)]
      · rw [if_neg hl]
        exact hparent

theorem remove (ht : t.Tidy) (hloc : loc ≠ []) : (t.remove loc).Tidy := by
  constructor
  · intro p hp
    exact ht.names p (List.mem_filter.1 hp).1
  · intro l n e' h
    rw [get?_remove t hloc] at h ⊢
    by_cases hunder : loc <+: l ++ [n]
    · rw [if_pos hunder] at h
      cases h
    · rw [if_neg hunder] at h
      rw [if_neg fun hl => hunder (hl.trans (List.prefix_append ..))]
      exact ht.parents l n e' h

theorem move {source dir : Location} {name : String} (ht : t.Tidy) (hsource : source ≠ [])
    (hdir : t.get? dir = some .directory) (hname : IsFileName name)
    (hfree : ∀ p ∈ t.entries, ¬ dir ++ [name] <+: p.1) (hapart : ¬ source <+: dir) :
    (t.move source (dir ++ [name])).Tidy := by
  have hne : dir ++ [name] ≠ [] := by simp
  constructor
  · intro p hp
    rw [move_entries] at hp
    obtain ⟨q, hq, rfl⟩ := List.mem_map.1 hp
    show ∀ n ∈ moved source (dir ++ [name]) q.1, IsFileName n
    by_cases hfrom : source <+: q.1
    · obtain ⟨rest, hrest⟩ := hfrom
      rw [← hrest, moved_below]
      intro n hn
      rcases List.mem_append.1 hn with hn | hn
      · rcases List.mem_append.1 hn with hn | hn
        · exact ht.names_of_entry hdir n hn
        · exact List.mem_singleton.1 hn ▸ hname
      · exact ht.names q hq n (hrest ▸ List.mem_append_right _ hn)
    · rw [moved_other hfrom]
      exact ht.names q hq
  · intro l n e' h
    rw [get?_move t hsource hne hfree] at h ⊢
    by_cases hunder : dir ++ [name] <+: l ++ [n]
    · rw [if_pos hunder] at h
      rcases List.prefix_concat_iff.1 hunder with heq | hl
      · obtain ⟨rfl, -⟩ := List.append_inj' heq rfl
        have hself : ¬ dir ++ [name] <+: dir := by
          intro hpre
          have hlength := hpre.length_le
          rw [List.length_append, List.length_singleton] at hlength
          omega
        rw [if_neg hself, if_neg hapart]
        exact hdir
      · rw [if_pos hl]
        obtain ⟨rest, rfl⟩ := hl
        rw [List.append_assoc, List.drop_left, ← List.append_assoc] at h
        rw [List.drop_left]
        exact ht.parents _ n e' h
    · rw [if_neg hunder] at h
      rw [if_neg fun hl => hunder (hl.trans (List.prefix_append ..))]
      by_cases hfrom : source <+: l ++ [n]
      · rw [if_pos hfrom] at h
        cases h
      · rw [if_neg hfrom] at h
        rw [if_neg fun hl => hfrom (hl.trans (List.prefix_append ..))]
        exact ht.parents l n e' h

theorem replace {source dir : Location} {name : String} (ht : t.Tidy) (hsource : source ≠ [])
    (hdir : t.get? dir = some .directory) (hname : IsFileName name) (hapart : ¬ source <+: dir) :
    ((t.remove (dir ++ [name])).move source (dir ++ [name])).Tidy := by
  have hne : dir ++ [name] ≠ [] := by simp
  have hdir' : (t.remove (dir ++ [name])).get? dir = some .directory := by
    rw [get?_remove t hne, if_neg]
    · exact hdir
    · intro hpre
      have hlength := hpre.length_le
      rw [List.length_append, List.length_singleton] at hlength
      omega
  exact (ht.remove hne).move hsource hdir' hname (fun p => not_prefix_of_mem_remove) hapart

end Tidy

theorem WellFormed.put {dir : Location} {name : String} (ht : t.WellFormed)
    (hdir : t.get? dir = some .directory) (hname : IsFileName name)
    (hkind : t.get? (dir ++ [name]) = some .directory → e = .directory) :
    (t.put (dir ++ [name]) e).WellFormed where
  toTidy := ht.toTidy.put hdir hname hkind
  distinct := by
    show (((dir ++ [name]) :: (t.entries.filter _).map (·.1))).Nodup
    rw [List.nodup_cons]
    constructor
    · intro hmem
      obtain ⟨p, hp, hp'⟩ := List.mem_map.1 hmem
      have hne := (List.mem_filter.1 hp).2
      simp [hp'] at hne
    · exact ht.distinct.sublist (List.filter_sublist.map _)
  here := by
    show (t.put (dir ++ [name]) e).get? t.base = some .directory
    rw [get?_put t e (by simp)]
    by_cases hbase : t.base = dir ++ [name]
    · rw [if_pos hbase, hkind (hbase ▸ ht.here)]
    · rw [if_neg hbase]
      exact ht.here

theorem WellFormed.get?_of_mem (ht : t.WellFormed) (hloc : loc ≠ []) (h : (loc, e) ∈ t.entries) :
    t.get? loc = some e := by
  rw [get?_of_ne t hloc]
  exact lookup_of_mem_nodup ht.distinct h

/-- It is enough to look at the entries. -/
theorem wellFormed_iff : t.WellFormed ↔
    (∀ p ∈ t.entries, ∀ name ∈ p.1, IsFileName name) ∧
      (∀ p ∈ t.entries, p.1 ≠ [] → t.get? p.1.dropLast = some .directory) ∧
      (t.entries.map (·.1)).Nodup ∧ t.get? t.base = some .directory := by
  constructor
  · intro ht
    refine ⟨ht.names, fun p hp hloc => ?_, ht.distinct, ht.here⟩
    apply ht.parents p.1.dropLast (p.1.getLast hloc) p.2
    rw [List.dropLast_concat_getLast]
    exact ht.get?_of_mem hloc hp
  · rintro ⟨hnames, hparents, hdistinct, hhere⟩
    refine ⟨⟨hnames, fun loc name e h => ?_⟩, hdistinct, hhere⟩
    have hloc : loc ++ [name] ≠ [] := by simp
    have hdir := hparents _ (mem_of_get? hloc h) hloc
    rwa [List.dropLast_concat] at hdir

instance (t : FileTree) : Decidable t.WellFormed :=
  decidable_of_iff' _ wellFormed_iff

/-! ## Paths -/

/-- The place that a path leads to. -/
def place (t : FileTree) (path : String) : Location := Path.follow t.base path

/-- Where paths start from. -/
def start (t : FileTree) (path : String) : Location := if Path.isRooted path then [] else t.base

/-- The parts of a path without the empty ones at its end. -/
def stems (path : String) : List String :=
  ((Text.split '/' path).reverse.dropWhile (· = "")).reverse

/-- A text that can be a path. -/
structure IsPathText (path : String) : Prop where
  notEmpty : path ≠ ""
  nul : '\x00' ∉ path.toList
  size : path.utf8ByteSize < 4096

theorem IsPathText.not_contains {path : String} (h : IsPathText path) :
    ¬ path.toList.contains '\x00' = true :=
  fun hmem => h.nul (List.contains_iff_mem.1 hmem)

/-- A cleaned path with one part less is shorter. -/
theorem IsPathText.without {rooted : Bool} {front : List String} {part name : String}
    (hname : name ≠ "") (h : IsPathText (Path.render rooted (front ++ [part, name]))) :
    IsPathText (Path.render rooted (front ++ [name])) := by
  have hshorter : _ ∧ (Text.join "/" (front ++ [name])).toList ⊆ _ :=
    Text.join_without part (List.cons_ne_nil name [])
  obtain ⟨hsize, hchars⟩ := hshorter
  have hlast : Text.join "/" (front ++ [name]) ≠ "" := by
    intro hempty
    cases front with
    | nil => exact hname hempty
    | cons first front =>
      rw [List.cons_append, Text.join_cons "/" first (by simp)] at hempty
      have hlength := congrArg (fun text => text.toList.length) hempty
      simp [String.toList_append] at hlength
  cases rooted with
  | true =>
    have hsize' := h.size
    have hnul := h.nul
    change (("/" : String) ++ Text.join "/" (front ++ [part, name])).utf8ByteSize < 4096 at hsize'
    change '\x00' ∉ (("/" : String) ++ Text.join "/" (front ++ [part, name])).toList at hnul
    rw [String.utf8ByteSize_append] at hsize'
    rw [String.toList_append] at hnul
    show IsPathText ("/" ++ Text.join "/" (front ++ [name]))
    refine ⟨?_, ?_, ?_⟩
    · intro hempty
      have hlength := congrArg (fun text => text.toList.length) hempty
      simp [String.toList_append] at hlength
    · rw [String.toList_append]
      intro hmem
      rcases List.mem_append.1 hmem with hmem | hmem
      · exact hnul (List.mem_append_left _ hmem)
      · exact hnul (List.mem_append_right _ (hchars hmem))
    · rw [String.utf8ByteSize_append]
      omega
  | false =>
    have hplain {parts : List String} (hparts : parts ≠ []) :
        Path.render false parts = Text.join "/" parts := if_neg hparts
    rw [hplain (by simp)] at h ⊢
    exact ⟨hlast, fun hmem => h.nul (hchars hmem), Nat.lt_of_le_of_lt hsize h.size⟩

theorem split_eq_stems (path : String) :
    ∃ count, Text.split '/' path = stems path ++ List.replicate count "" := by
  have hparts := List.takeWhile_append_dropWhile (p := (· = ""))
    (l := (Text.split '/' path).reverse)
  have hempty : ((Text.split '/' path).reverse.takeWhile (· = "")).reverse =
      List.replicate ((Text.split '/' path).reverse.takeWhile (· = "")).length "" := by
    rw [List.eq_replicate_iff]
    refine ⟨List.length_reverse, fun part hpart => ?_⟩
    exact of_decide_eq_true (List.all_eq_true.1 List.all_takeWhile part (List.mem_reverse.1 hpart))
  refine ⟨((Text.split '/' path).reverse.takeWhile (· = "")).length, ?_⟩
  rw [← hempty, stems, ← List.reverse_append, hparts, List.reverse_reverse]

theorem foldl_go_replicate (count : Nat) (dir : Location) :
    (List.replicate count "").foldl Path.go dir = dir := by
  induction count with
  | zero => rfl
  | succ count ih => exact ih

/-- The empty parts at the end of a path do not matter for its place. -/
theorem place_eq_stems (t : FileTree) (path : String) :
    t.place path = (stems path).foldl Path.go (t.start path) := by
  obtain ⟨count, hsplit⟩ := split_eq_stems path
  show (Text.split '/' path).foldl Path.go _ = _
  rw [hsplit, List.foldl_append, foldl_go_replicate]
  rfl

theorem stems_getLast {path name : String} (h : (stems path).getLast? = some name) :
    name ≠ "" := by
  rw [stems, List.getLast?_reverse] at h
  have hhead := List.head?_dropWhile_not (p := (· = "")) (l := (Text.split '/' path).reverse)
  rw [h] at hhead
  simpa using hhead

theorem stems_subset (path : String) : stems path ⊆ Text.split '/' path := by
  obtain ⟨count, hsplit⟩ := split_eq_stems path
  rw [hsplit]
  exact List.subset_append_left ..

theorem stems_of_split {path last : String} {front : List String}
    (hsplit : Text.split '/' path = front ++ [last]) (hlast : last ≠ "") :
    stems path = front ++ [last] := by
  rw [stems, hsplit, List.reverse_append, List.reverse_singleton, List.singleton_append,
    List.dropWhile_cons_of_neg (by simpa using hlast), List.reverse_cons, List.reverse_reverse]

theorem enter_ok {dir dir' : Location} {name : String} (h : t.enter dir name = .ok dir') :
    dir' = Path.go dir name := by
  unfold enter at h
  unfold Path.go
  split at h
  · next hskip =>
    rw [if_pos hskip]
    exact (Except.ok.inj h).symm
  · next hskip =>
    rw [if_neg hskip]
    split at h
    · next hup =>
      rw [if_pos hup]
      exact (Except.ok.inj h).symm
    · next hup =>
      rw [if_neg hup]
      split at h
      · cases h
      · split at h
        · cases h
        · cases h
        · exact (Except.ok.inj h).symm

theorem enter_directory {dir dir' : Location} {name : String} (ht : t.Tidy)
    (hdir : t.get? dir = some .directory) (h : t.enter dir name = .ok dir') :
    t.get? dir' = some .directory := by
  unfold enter at h
  split at h
  · exact Except.ok.inj h ▸ hdir
  · split at h
    · exact Except.ok.inj h ▸ ht.dropLast hdir
    · split at h
      · cases h
      · split at h
        · cases h
        · cases h
        · next hentry => exact Except.ok.inj h ▸ hentry

theorem foldlM_enter_ok {dir dir' : Location} {names : List String}
    (h : names.foldlM t.enter dir = .ok dir') : dir' = names.foldl Path.go dir := by
  induction names generalizing dir with
  | nil => exact (Except.ok.inj h).symm
  | cons name names ih =>
    cases hstep : t.enter dir name with
    | error r =>
      rw [List.foldlM_cons, hstep] at h
      cases h
    | ok next =>
      rw [List.foldlM_cons, hstep] at h
      rw [List.foldl_cons, ← enter_ok hstep]
      exact ih h

theorem foldlM_enter_append {dir dir' : Location} {front rest : List String}
    (h : (front ++ rest).foldlM t.enter dir = .ok dir') :
    ∃ between, front.foldlM t.enter dir = .ok between ∧
      rest.foldlM t.enter between = .ok dir' := by
  rw [List.foldlM_append] at h
  cases hfront : front.foldlM t.enter dir with
  | error r =>
    rw [hfront] at h
    cases h
  | ok between =>
    rw [hfront] at h
    exact ⟨between, rfl, h⟩

theorem foldlM_enter_directory {dir dir' : Location} {names : List String} (ht : t.Tidy)
    (hdir : t.get? dir = some .directory) (h : names.foldlM t.enter dir = .ok dir') :
    t.get? dir' = some .directory := by
  induction names generalizing dir with
  | nil => exact Except.ok.inj h ▸ hdir
  | cons name names ih =>
    cases hstep : t.enter dir name with
    | error r =>
      rw [List.foldlM_cons, hstep] at h
      cases h
    | ok next =>
      rw [List.foldlM_cons, hstep] at h
      exact ih (enter_directory ht hdir hstep) h

/-- What is known of a path that can be followed. -/
structure Leads (t : FileTree) (path : String) (g : Target) : Prop where
  text : IsPathText path
  walk : ∃ dir, (stems path).dropLast.foldlM t.enter (t.start path) = .ok dir
  location : g.location = t.place path
  name : ∀ name, g.name = some name → IsFileName name
  directory : t.Tidy → t.get? (t.start path) = some .directory →
    t.get? g.dir = some .directory

theorem target_ok {path : String} {g : Target} (h : t.target path = .ok g) : t.Leads path g := by
  unfold target at h
  by_cases hempty : path = ""
  · rw [if_pos hempty] at h
    cases h
  rw [if_neg hempty] at h
  by_cases hnul : path.toList.contains '\x00' = true
  · rw [if_pos hnul] at h
    cases h
  rw [if_neg hnul] at h
  by_cases hsize : 4096 ≤ path.utf8ByteSize
  · rw [if_pos hsize] at h
    cases h
  rw [if_neg hsize] at h
  have hnul' : '\x00' ∉ path.toList := fun hmem => hnul (List.contains_iff_mem.2 hmem)
  have htext : IsPathText path := ⟨hempty, hnul', Nat.lt_of_not_le hsize⟩
  have hplace := place_eq_stems t path
  cases hwalk : (stems path).dropLast.foldlM t.enter (t.start path) with
  | error r =>
    change ((stems path).dropLast.foldlM t.enter (t.start path) >>= _) = _ at h
    rw [hwalk] at h
    cases h
  | ok dir =>
    change ((stems path).dropLast.foldlM t.enter (t.start path) >>= _) = _ at h
    rw [hwalk] at h
    dsimp only [bind, Except.bind] at h
    have hdir := foldlM_enter_ok hwalk
    have hdirectory (ht : t.Tidy) (hstart : t.get? (t.start path) = some .directory) :=
      foldlM_enter_directory ht hstart hwalk
    -- The path ends in nothing, in a step on the spot, in a step up or in a name.
    have hends {last : String} (hlast : (stems path).getLast? = some last) :
        t.place path = Path.go dir last := by
      obtain ⟨front, hfront⟩ := List.getLast?_eq_some_iff.1 hlast
      rw [hplace, hfront, List.foldl_append, hdir, hfront, List.dropLast_concat]
      rfl
    split at h
    · next hlast =>
      obtain rfl := Except.ok.inj h
      have hnil : stems path = [] := List.getLast?_eq_none_iff.1 hlast
      refine ⟨htext, ⟨dir, hwalk⟩, ?_, nofun, fun _ hstart => hstart⟩
      rw [hplace, hnil]
      exact List.append_nil _
    · next hlast =>
      obtain rfl := Except.ok.inj h
      refine ⟨htext, ⟨dir, hwalk⟩, ?_, nofun, hdirectory⟩
      rw [hends hlast]
      exact List.append_nil _
    · next hlast =>
      obtain rfl := Except.ok.inj h
      refine ⟨htext, ⟨dir, hwalk⟩, ?_, nofun, fun ht hstart => ht.dropLast (hdirectory ht hstart)⟩
      rw [hends hlast]
      exact List.append_nil _
    · next name hhere hup hlast =>
      split at h
      · cases h
      · next hname =>
        obtain rfl := Except.ok.inj h
        have hisName : Path.IsName name :=
          ⟨stems_getLast hlast, fun heq => hhere heq, fun heq => hup heq⟩
        have hpart : name ∈ Text.split '/' path :=
          stems_subset path (List.mem_of_getLast? hlast)
        obtain ⟨hslash, hchars⟩ := Text.mem_split hpart
        refine ⟨htext, ⟨dir, hwalk⟩, ?_, ?_, hdirectory⟩
        · rw [hends hlast, Path.go_name dir hisName]
          rfl
        · rintro _ ⟨⟩
          exact ⟨hisName, hslash, fun hmem => hnul' (hchars hmem), Nat.le_of_not_lt hname⟩

/-- A path that ends in a name can be followed if what is in front of the name can. -/
theorem target_of_walk {path name : String} {front : List String} {dir : Location}
    (htext : IsPathText path) (hsplit : Text.split '/' path = front ++ [name])
    (hname : Path.IsName name) (hsize : name.utf8ByteSize ≤ 255)
    (hwalk : front.foldlM t.enter (t.start path) = .ok dir) :
    t.target path = .ok { dir, name := some name, closed := false } := by
  have hstems := stems_of_split hsplit hname.notEmpty
  unfold target
  rw [if_neg htext.notEmpty, if_neg htext.not_contains, if_neg (Nat.not_le_of_lt htext.size)]
  change ((stems path).dropLast.foldlM t.enter (t.start path) >>= _) = _
  rw [hstems, List.dropLast_concat, hwalk]
  dsimp only [bind, Except.bind]
  have hlast : ((Text.split '/' path).reverse.dropWhile (· = "")).reverse.getLast? = some name := by
    show (stems path).getLast? = some name
    rw [hstems, List.getLast?_concat]
  have hclosed : ¬ (Text.split '/' path).getLast? = some "" := by
    rw [hsplit, List.getLast?_concat, Option.some_inj]
    exact hname.notEmpty
  split
  · next hnone =>
    rw [hlast] at hnone
    cases hnone
  · next hhere =>
    rw [hlast, Option.some_inj] at hhere
    exact absurd hhere hname.notHere
  · next hup =>
    rw [hlast, Option.some_inj] at hup
    exact absurd hup hname.notUp
  · next found _ _ hfound =>
    rw [hlast, Option.some_inj] at hfound
    subst hfound
    rw [if_neg (Nat.not_lt_of_le hsize), decide_eq_false hclosed]
    rfl

theorem enter_up (dir : Location) : t.enter dir ".." = .ok dir.dropLast := rfl

theorem foldlM_enter_ups {ups : List String} (h : ∀ up ∈ ups, up = "..") (dir : Location) :
    ups.foldlM t.enter dir = .ok (ups.foldl Path.go dir) := by
  induction ups generalizing dir with
  | nil => rfl
  | cons up ups ih =>
    obtain rfl := h up List.mem_cons_self
    rw [List.foldlM_cons, enter_up]
    exact ih (fun u hu => h u (List.mem_cons_of_mem _ hu)) _

theorem enter_name {dir : Location} {name : String} (hname : IsFileName name)
    (h : t.get? (dir ++ [name]) = some .directory) : t.enter dir name = .ok (dir ++ [name]) := by
  have hskip : ¬ (name = "" || name = ".") = true := by simp [hname.notEmpty, hname.notHere]
  unfold enter
  rw [if_neg hskip, if_neg hname.notUp, if_neg (Nat.not_lt_of_le hname.size), h]

theorem foldlM_enter_names {names : List String} {dir : Location} (ht : t.Tidy)
    (h : t.get? (dir ++ names) = some .directory) :
    names.foldlM t.enter dir = .ok (dir ++ names) := by
  induction names generalizing dir with
  | nil => rw [List.append_nil]; rfl
  | cons name names ih =>
    have hrest : t.get? (dir ++ [name] ++ names) = some .directory := by
      rw [List.append_assoc]
      exact h
    have hhere : t.get? (dir ++ [name]) = some .directory := by
      by_cases hnil : names = []
      · subst hnil
        exact h
      · exact ht.above hnil hrest
    have hname := ht.names_of_entry hhere name (List.mem_append_right _ List.mem_cons_self)
    rw [List.foldlM_cons, enter_name hname hhere]
    show names.foldlM t.enter (dir ++ [name]) = _
    rw [ih hrest, List.append_assoc]
    rfl

/-- The parts of a cleaned path can be followed to a directory: above a directory there are
directories only. -/
theorem foldlM_enter_stacked {rooted : Bool} {parts : List String} {dir : Location} (ht : t.Tidy)
    (hstacked : Path.Stacked rooted parts.reverse)
    (h : t.get? (parts.foldl Path.go dir) = some .directory) :
    parts.foldlM t.enter dir = .ok (parts.foldl Path.go dir) := by
  obtain ⟨ups, names, hparts, hups, hnames⟩ := hstacked.split_ups
  rw [List.reverse_reverse] at hparts
  rw [hparts, List.foldl_append, Path.foldl_go_names hnames] at h
  rw [hparts, List.foldlM_append, foldlM_enter_ups hups, List.foldl_append,
    Path.foldl_go_names hnames]
  exact foldlM_enter_names ht h

theorem foldlM_enter_rooted (rooted : Bool) (dir : Location) :
    (if rooted then [""] else []).foldlM t.enter dir = .ok dir := by
  cases rooted <;> rfl

/-- A cleaned path can be followed if it leads into a directory. -/
theorem target_render {rooted : Bool} {front : List String} {name : String} (ht : t.Tidy)
    (hstacked : Path.Stacked rooted front.reverse)
    (hplain : ∀ part ∈ front, part ≠ "" ∧ '/' ∉ part.toList) (hname : IsFileName name)
    (htext : IsPathText (Path.render rooted (front ++ [name])))
    (hdir : t.get? (front.foldl Path.go (if rooted then [] else t.base)) = some .directory) :
    t.target (Path.render rooted (front ++ [name])) =
      .ok { dir := front.foldl Path.go (if rooted then [] else t.base)
            name := some name
            closed := false } := by
  have hplain' : ∀ part ∈ front ++ [name], part ≠ "" ∧ '/' ∉ part.toList := by
    intro part hpart
    rcases List.mem_append.1 hpart with hpart | hpart
    · exact hplain part hpart
    · rw [List.mem_singleton.1 hpart]
      exact ⟨hname.notEmpty, hname.slash⟩
  have hstart : t.start (Path.render rooted (front ++ [name])) = if rooted then [] else t.base := by
    rw [start, Path.isRooted_render hplain']
  have hsplit : Text.split '/' (Path.render rooted (front ++ [name])) =
      (if rooted then [""] else []) ++ front ++ [name] := by
    rw [Path.split_render (by simp) fun part hpart => (hplain' part hpart).2, List.append_assoc]
  refine target_of_walk htext hsplit hname.toIsName hname.size ?_
  rw [hstart, List.foldlM_append, foldlM_enter_rooted]
  exact foldlM_enter_stacked ht hstacked hdir

theorem target_within {dir name : String} (ht : t.Tidy)
    (hdir : t.get? (t.place dir) = some .directory) (hname : IsFileName name)
    (htext : IsPathText (Path.within dir [name])) :
    t.target (Path.within dir [name]) =
      .ok { dir := t.place dir, name := some name, closed := false } := by
  have hplace : t.place dir =
      (Path.components dir).foldl Path.go (if Path.isRooted dir then [] else t.base) :=
    Path.follow_eq_components t.base dir
  rw [hplace] at hdir ⊢
  exact target_render ht (Path.components_stacked dir) (Path.components_plain dir) hname htext hdir

theorem Tidy.foldl_ups {ups : List String} {dir : Location} (ht : t.Tidy)
    (h : ∀ up ∈ ups, up = "..") (hdir : t.get? dir = some .directory) :
    t.get? (ups.foldl Path.go dir) = some .directory := by
  induction ups generalizing dir with
  | nil => exact hdir
  | cons up ups ih =>
    obtain rfl := h up List.mem_cons_self
    exact ih (fun u hu => h u (List.mem_cons_of_mem _ hu)) (ht.dropLast hdir)

/-- On the way to a directory, a cleaned path leads through directories. -/
theorem Tidy.foldl_front {rooted : Bool} {front rest : List String} {dir : Location} (ht : t.Tidy)
    (hstacked : Path.Stacked rooted (front ++ rest).reverse) (hdir : t.get? dir = some .directory)
    (h : t.get? ((front ++ rest).foldl Path.go dir) = some .directory) :
    t.get? (front.foldl Path.go dir) = some .directory := by
  obtain ⟨ups, names, hparts, hups, hnames⟩ := hstacked.split_ups
  rw [List.reverse_reverse] at hparts
  rcases List.append_eq_append_iff.1 hparts with ⟨mid, rfl, -⟩ | ⟨mid, rfl, rfl⟩
  · exact ht.foldl_ups (fun up hup => hups up (List.mem_append_left _ hup)) hdir
  · rw [List.append_assoc, List.foldl_append, Path.foldl_go_names hnames, ← List.append_assoc] at h
    rw [List.foldl_append, Path.foldl_go_names fun name hname =>
      hnames name (List.mem_append_left _ hname)]
    by_cases hrest : rest = []
    · rw [hrest, List.append_nil] at h
      exact h
    · exact ht.above hrest h

theorem start_directory (ht : t.WellFormed) (path : String) :
    t.get? (t.start path) = some .directory := by
  unfold start
  split
  · rfl
  · exact ht.here

theorem enter_kept {dir dir' : Location} {name : String}
    (hdir : t.get? dir' = some .directory → t'.get? dir' = some .directory)
    (h : t.enter dir name = .ok dir') : t'.enter dir name = .ok dir' := by
  unfold enter at h ⊢
  split at h
  · next hskip =>
    rw [if_pos hskip]
    exact h
  · next hskip =>
    rw [if_neg hskip]
    split at h
    · next hup =>
      rw [if_pos hup]
      exact h
    · next hup =>
      rw [if_neg hup]
      split at h
      · cases h
      · next hsize =>
        rw [if_neg hsize]
        split at h
        · cases h
        · cases h
        · next hentry =>
          obtain rfl := Except.ok.inj h
          rw [hdir hentry]

/-- A way can still be gone where the directories along it are kept. -/
theorem foldlM_enter_kept {dir dir' : Location} {names : List String}
    (hdirs : ∀ front, front <+: names → t.get? (front.foldl Path.go dir) = some .directory →
      t'.get? (front.foldl Path.go dir) = some .directory)
    (h : names.foldlM t.enter dir = .ok dir') : names.foldlM t'.enter dir = .ok dir' := by
  induction names generalizing dir with
  | nil => exact h
  | cons name names ih =>
    cases hstep : t.enter dir name with
    | error r =>
      rw [List.foldlM_cons, hstep] at h
      cases h
    | ok next =>
      rw [List.foldlM_cons, hstep] at h
      obtain rfl := enter_ok hstep
      rw [List.foldlM_cons, enter_kept (hdirs [name] ⟨names, rfl⟩) hstep]
      refine ih (fun front hfront => ?_) h
      exact hdirs (name :: front) (List.cons_prefix_cons.2 ⟨rfl, hfront⟩)

/-- Directories are enough to follow a path, so it can still be followed where they are kept. -/
theorem target_kept {path : String} {g : Target} (hbase : t'.base = t.base)
    (hdirs : ∀ loc, t.get? loc = some .directory → t'.get? loc = some .directory)
    (h : t.target path = .ok g) : t'.target path = .ok g := by
  obtain ⟨htext, ⟨dir, hwalk⟩, -⟩ := target_ok h
  have hwalk' : (stems path).dropLast.foldlM t'.enter (t'.start path) = .ok dir := by
    rw [start, hbase]
    exact foldlM_enter_kept (fun _ _ => hdirs _) hwalk
  rw [← h]
  unfold target
  rw [if_neg htext.notEmpty, if_neg htext.not_contains, if_neg (Nat.not_le_of_lt htext.size),
    if_neg htext.notEmpty, if_neg htext.not_contains, if_neg (Nat.not_le_of_lt htext.size)]
  change ((stems path).dropLast.foldlM t'.enter (t'.start path) >>= _) =
    ((stems path).dropLast.foldlM t.enter (t.start path) >>= _)
  rw [hwalk, hwalk', hbase]

theorem find_ok {path : String} (h : t.find path = .ok (loc, e)) :
    (∃ g, t.target path = .ok g) ∧ loc = t.place path ∧ t.get? loc = some e := by
  unfold find at h
  cases htarget : t.target path with
  | error r =>
    rw [htarget] at h
    cases h
  | ok g =>
    rw [htarget] at h
    dsimp only [bind, Except.bind] at h
    have hlocation := (target_ok htarget).location
    split at h
    · cases h
    · next hentry =>
      split at h
      · cases h
      · obtain ⟨rfl, rfl⟩ := Prod.mk.inj (Except.ok.inj h)
        exact ⟨⟨g, rfl⟩, hlocation, hentry⟩
    · next hentry =>
      obtain ⟨rfl, rfl⟩ := Prod.mk.inj (Except.ok.inj h)
      exact ⟨⟨g, rfl⟩, hlocation, hentry⟩

theorem find_of_target {path : String} {g : Target} (h : t.target path = .ok g)
    (hclosed : g.closed = false) (hentry : t.get? g.location = some e) :
    t.find path = .ok (g.location, e) := by
  unfold find
  rw [h]
  dsimp only [bind, Except.bind]
  cases e with
  | file content =>
    rw [hentry]
    dsimp only
    rw [hclosed]
    rfl
  | directory =>
    rw [hentry]
    rfl

theorem find_directory {path : String} {g : Target} (h : t.target path = .ok g)
    (hentry : t.get? (t.place path) = some .directory) :
    t.find path = .ok (t.place path, .directory) := by
  rw [← (target_ok h).location] at hentry ⊢
  unfold find
  rw [h]
  dsimp only [bind, Except.bind]
  rw [hentry]
  rfl

theorem foldlM_enter_replicate (count : Nat) (dir : Location) :
    (List.replicate count "").foldlM t.enter dir = .ok dir := by
  induction count with
  | zero => rfl
  | succ count ih => exact ih

/-- A path to a directory can be followed to its end. -/
theorem walk_of_find {path : String} (ht : t.Tidy) (h : t.find path = .ok (loc, .directory)) :
    (Text.split '/' path).foldlM t.enter (t.start path) = .ok (t.place path) := by
  obtain ⟨⟨g, htarget⟩, rfl, hentry⟩ := find_ok h
  obtain ⟨dir, hwalk⟩ := (target_ok htarget).walk
  obtain ⟨count, hsplit⟩ := split_eq_stems path
  have hstems : (stems path).foldlM t.enter (t.start path) = .ok (t.place path) := by
    rw [place_eq_stems] at hentry ⊢
    rcases List.eq_nil_or_concat (stems path) with hnil | ⟨front, last, hfront⟩
    · rw [hnil]
      rfl
    · rw [List.concat_eq_append] at hfront
      have hlast : last ≠ "" := stems_getLast (by rw [hfront, List.getLast?_concat])
      rw [hfront, List.dropLast_concat] at hwalk
      rw [hfront, List.foldl_append, ← foldlM_enter_ok hwalk] at hentry ⊢
      rw [List.foldlM_append, hwalk]
      show [last].foldlM t.enter dir = .ok (Path.go dir last)
      rw [List.foldlM_cons]
      rcases Path.part_cases last with rfl | rfl | rfl | hname
      · exact absurd rfl hlast
      · rfl
      · rfl
      · change t.get? (Path.go dir last) = some .directory at hentry
        rw [Path.go_name dir hname] at hentry ⊢
        rw [enter_name (ht.names_of_entry hentry last (by simp)) hentry]
        rfl
  rw [hsplit, List.foldlM_append, hstems]
  exact foldlM_enter_replicate count _

/-- So can a cleaned path, if there is a directory where it leads. -/
theorem walk_of_clean {path : String} (ht : t.Tidy) (hclean : Path.clean path = path)
    (hdir : t.get? (t.place path) = some .directory) :
    (Text.split '/' path).foldlM t.enter (t.start path) = .ok (t.place path) := by
  have hstacked := Path.components_stacked path
  have hplain := Path.components_plain path
  have hplace : t.place path = (Path.components path).foldl Path.go (t.start path) :=
    Path.follow_eq_components t.base path
  by_cases hparts : Path.components path = []
  · rw [Path.clean_eq_render, hparts] at hclean
    rw [hplace, hparts]
    cases hrooted : Path.isRooted path with
    | true =>
      rw [hrooted] at hclean
      rw [← hclean]
      rfl
    | false =>
      rw [hrooted] at hclean
      rw [← hclean]
      rfl
  · have hsplit : Text.split '/' path =
        (if Path.isRooted path then [""] else []) ++ Path.components path := by
      rw [Path.clean_eq_render] at hclean
      rw [← Path.split_render hparts fun part hpart => (hplain part hpart).2, hclean]
    rw [hplace] at hdir ⊢
    rw [hsplit, List.foldlM_append, foldlM_enter_rooted]
    exact foldlM_enter_stacked ht hstacked hdir

theorem utf8ByteSize_of_enter {dir dir' : Location} {name : String}
    (h : t.enter dir name = .ok dir') : name.utf8ByteSize ≤ 255 := by
  rcases Path.part_cases name with rfl | rfl | rfl | hname
  · decide
  · decide
  · decide
  · have hskip : ¬ (name = "" || name = ".") = true := by
      simp [hname.notEmpty, hname.notHere]
    unfold enter at h
    rw [if_neg hskip, if_neg hname.notUp] at h
    by_contra hsize
    rw [if_pos (Nat.lt_of_not_le hsize)] at h
    cases h

/-- All of a path can be followed, so it leads somewhere. -/
theorem target_of_enter {path : String} {dir : Location} (htext : IsPathText path)
    (hwalk : (Text.split '/' path).foldlM t.enter (t.start path) = .ok dir) :
    ∃ g, t.target path = .ok g := by
  obtain ⟨count, hsplit⟩ := split_eq_stems path
  rw [hsplit] at hwalk
  obtain ⟨found, hstems, -⟩ := foldlM_enter_append hwalk
  obtain ⟨dir', hfront, hsize⟩ : ∃ dir', (stems path).dropLast.foldlM t.enter (t.start path) =
      .ok dir' ∧ ∀ last ∈ (stems path).getLast?, last.utf8ByteSize ≤ 255 := by
    rcases List.eq_nil_or_concat (stems path) with hnil | ⟨front, last, hconcat⟩
    · rw [hnil]
      exact ⟨_, rfl, nofun⟩
    · rw [List.concat_eq_append] at hconcat
      rw [hconcat] at hstems ⊢
      obtain ⟨dir', hfront, hlast⟩ := foldlM_enter_append hstems
      rw [List.dropLast_concat, List.getLast?_concat]
      refine ⟨dir', hfront, ?_⟩
      rintro _ ⟨⟩
      cases hstep : t.enter dir' last with
      | error r =>
        rw [List.foldlM_cons, hstep] at hlast
        cases hlast
      | ok next => exact utf8ByteSize_of_enter hstep
  unfold target
  rw [if_neg htext.notEmpty, if_neg htext.not_contains, if_neg (Nat.not_le_of_lt htext.size)]
  change ∃ g, ((stems path).dropLast.foldlM t.enter (t.start path) >>= _) = _
  rw [hfront]
  dsimp only [bind, Except.bind]
  split
  · exact ⟨_, rfl⟩
  · exact ⟨_, rfl⟩
  · exact ⟨_, rfl⟩
  · next name _ _ hlast =>
    rw [if_neg (Nat.not_lt_of_le (hsize name hlast))]
    exact ⟨_, rfl⟩

theorem find_of_enter {path : String} {dir : Location} (htext : IsPathText path)
    (hwalk : (Text.split '/' path).foldlM t.enter (t.start path) = .ok dir)
    (hdir : t.get? dir = some .directory) : t.find path = .ok (dir, .directory) := by
  obtain ⟨g, htarget⟩ := target_of_enter htext hwalk
  have hplace : dir = t.place path := foldlM_enter_ok hwalk
  rw [hplace] at hdir ⊢
  exact find_directory htarget hdir

theorem makeDirectory_ok {path : String} (h : t.makeDirectory path = .ok t') :
    (∃ g, t.target path = .ok g) ∧ t.get? (t.place path) = none ∧
      t' = t.put (t.place path) .directory := by
  unfold makeDirectory at h
  cases htarget : t.target path with
  | error r =>
    rw [htarget] at h
    cases h
  | ok g =>
    rw [htarget] at h
    dsimp only [bind, Except.bind] at h
    rw [← (target_ok htarget).location]
    split at h
    · cases h
    · next hentry => exact ⟨⟨g, rfl⟩, hentry, (Except.ok.inj h).symm⟩

theorem writeFile_ok {path content : String} (h : t.writeFile path content = .ok t') :
    (∃ g, t.target path = .ok g) ∧ t.get? (t.place path) ≠ some .directory ∧
      t' = t.put (t.place path) (.file content) := by
  unfold writeFile at h
  cases htarget : t.target path with
  | error r =>
    rw [htarget] at h
    cases h
  | ok g =>
    rw [htarget] at h
    dsimp only [bind, Except.bind] at h
    rw [← (target_ok htarget).location]
    split at h
    · cases h
    · split at h
      · cases h
      · next hentry => exact ⟨⟨g, rfl⟩, fun heq => hentry heq, (Except.ok.inj h).symm⟩

theorem discard_of_error {path : String} {r : Refusal} (h : t.target path = .error r) :
    t.discard path = t := by
  unfold discard
  rw [h]

theorem discard_of_target {path : String} {g : Target} (h : t.target path = .ok g) :
    t.discard path = t.remove g.location := by
  unfold discard
  rw [h]

theorem rename_of_target {source dest : String} {g : Target} (hsource : t.find source = .ok (loc, e))
    (hdest : t.target dest = .ok g) : t.rename source dest = .ok (t.move loc g.location) := by
  unfold rename
  rw [hsource, hdest]
  rfl

/-- A place that a path leads to and that is no directory is in a directory, under a proper
name. -/
theorem place_split {path : String} {g : Target} (ht : t.WellFormed) (h : t.target path = .ok g)
    (hplace : t.get? (t.place path) ≠ some .directory) :
    ∃ dir name, t.place path = dir ++ [name] ∧ t.get? dir = some .directory ∧
      IsFileName name := by
  have hleads := target_ok h
  have hdir := hleads.directory ht.toTidy (start_directory ht path)
  cases hname : g.name with
  | none =>
    have hlocation : t.place path = g.dir := by
      rw [← hleads.location, Target.location, hname]
      exact List.append_nil _
    rw [hlocation] at hplace
    exact absurd hdir hplace
  | some name =>
    refine ⟨g.dir, name, ?_, hdir, hleads.name name hname⟩
    rw [← hleads.location, Target.location, hname]
    rfl

theorem WellFormed.put_place {path : String} {g : Target} (ht : t.WellFormed)
    (h : t.target path = .ok g) (hplace : t.get? (t.place path) ≠ some .directory) (e : Entry) :
    (t.put (t.place path) e).WellFormed ∧ t.place path ≠ [] := by
  obtain ⟨dir, name, hsplit, hdir, hname⟩ := place_split ht h hplace
  rw [hsplit] at hplace ⊢
  exact ⟨ht.put hdir hname fun hthere => absurd hthere hplace, by simp⟩

/-! ## Listings -/

/-- A name in a directory, as the last name of a place. -/
theorem child_eq_some {dir l : Location} {name : String} :
    (if l.dropLast = dir then l.getLast? else none) = some name ↔ l = dir ++ [name] := by
  constructor
  · intro h
    split at h
    · next hdir =>
      obtain ⟨front, hfront⟩ := List.getLast?_eq_some_iff.1 h
      rw [hfront, List.dropLast_concat] at hdir
      rw [hfront, hdir]
    · cases h
  · rintro rfl
    rw [List.dropLast_concat, if_pos rfl, List.getLast?_concat]

/-- The names in a directory are the names under which something stands there. -/
theorem WellFormed.mem_children (ht : t.WellFormed) {dir : Location} {name : String} :
    name ∈ t.children dir ↔ t.get? (dir ++ [name]) ≠ none := by
  unfold children
  rw [(sortBy_perm _ _).mem_iff, List.mem_filterMap]
  constructor
  · rintro ⟨⟨l, e⟩, hmem, hname⟩
    obtain rfl := child_eq_some.1 hname
    rw [ht.get?_of_mem (by simp) hmem]
    exact Option.some_ne_none e
  · intro hentry
    obtain ⟨e, he⟩ := Option.ne_none_iff_exists'.1 hentry
    exact ⟨_, mem_of_get? (by simp) he, child_eq_some.2 rfl⟩

theorem WellFormed.children_nodup (ht : t.WellFormed) (dir : Location) :
    (t.children dir).Nodup := by
  unfold children
  rw [(sortBy_perm _ _).nodup_iff, List.Nodup, List.pairwise_filterMap]
  refine (List.pairwise_map.1 ht.distinct).imp ?_
  intro p q hne name hp name' hq heq
  have hp' := child_eq_some.1 hp
  have hq' := child_eq_some.1 hq
  apply hne
  rw [hp', hq', heq]

/-- The files below a directory are those that are found there. -/
theorem WellFormed.mem_below (ht : t.WellFormed) {dir rel : Location} {content : String} :
    (rel, content) ∈ t.below dir ↔ rel ≠ [] ∧ t.content? (dir ++ rel) = some content := by
  unfold below
  rw [(sortBy_perm _ _).mem_iff, List.mem_filterMap]
  constructor
  · rintro ⟨⟨l, e⟩, hmem, hpair⟩
    dsimp only at hpair
    split at hpair
    · next hunder =>
      rw [Bool.and_eq_true, List.isPrefixOf_iff_prefix, bne_iff_ne] at hunder
      obtain ⟨⟨rest, rfl⟩, hne⟩ := hunder
      obtain ⟨c, hc, heq⟩ := Option.map_eq_some_iff.1 hpair
      rw [List.drop_left] at heq
      obtain ⟨rfl, rfl⟩ := Prod.mk.inj heq
      have hrest : rest ≠ [] := by
        rintro rfl
        exact hne (List.append_nil _).symm
      refine ⟨hrest, ?_⟩
      rw [content?, ht.get?_of_mem (by simp [hrest]) hmem]
      exact hc
    · cases hpair
  · rintro ⟨hrel, hcontent⟩
    obtain ⟨e, he, hc⟩ := Option.bind_eq_some_iff.1 hcontent
    refine ⟨_, mem_of_get? (by simp [hrel]) he, ?_⟩
    have hunder : (dir.isPrefixOf (dir ++ rel) && dir != dir ++ rel) = true := by
      rw [Bool.and_eq_true, List.isPrefixOf_iff_prefix, bne_iff_ne]
      exact ⟨List.prefix_append .., fun heq => hrel (List.self_eq_append_right.1 heq)⟩
    dsimp only
    rw [if_pos hunder, List.drop_left, hc]
    rfl

end FileTree

end Boardwright
