import Boardwright.Path

/-!
# Where paths lead

Paths are cleaned and joined by looking at their text only.  In a tree without
links this changes nothing: a path leads to the same place before and after.
`follow` is that place, told from the text alone.

There are four groups.

* Texts.  `Text.split_append` and `Text.split_join` cut a joined text at its
  joints again, and `Text.join_split` joins what was cut.
* Stacks.  Cleaning keeps a stack of components; `foldl_go_keep` says that the
  stack and the parts read so far lead to the same place.
* Cleaned paths.  `render` is a cleaned path from its components, and
  `join_eq_render` and `components_join` say what joining does to them.
* Paths that stay below a directory.  `inside?` follows a path from nowhere and
  gives up where it would climb, so that `foldl_go_inside` holds for every start.
  `inside?_of_mem` finds such paths: the ones after which a component that they do
  not mention themselves is still there.
-/

namespace Boardwright

namespace Text

/-! ## Texts -/

theorem splitChars_append (sep : Char) (cs ds : List Char) :
    splitChars sep (cs ++ sep :: ds) = splitChars sep cs ++ splitChars sep ds := by
  induction cs with
  | nil => simp [splitChars]
  | cons c cs ih =>
    rw [List.cons_append, splitChars, splitChars, ih]
    by_cases hc : c = sep
    · rw [if_pos hc, if_pos hc, List.cons_append]
    · rw [if_neg hc, if_neg hc]
      obtain ⟨piece, pieces, hpieces⟩ := List.exists_cons_of_ne_nil (splitChars_ne_nil sep cs)
      rw [hpieces]
      rfl

theorem splitChars_of_not_mem {sep : Char} {cs : List Char} (h : sep ∉ cs) :
    splitChars sep cs = [cs] := by
  induction cs with
  | nil => rfl
  | cons c cs ih =>
    have hc : c ≠ sep := fun hc => h (by simp [hc])
    have hrest : sep ∉ cs := fun hmem => h (List.mem_cons_of_mem _ hmem)
    rw [splitChars, if_neg hc, ih hrest]

theorem splitChars_pieces {sep : Char} {cs : List Char} :
    ∀ piece ∈ splitChars sep cs, sep ∉ piece ∧ piece ⊆ cs := by
  induction cs with
  | nil => simp [splitChars]
  | cons c cs ih =>
    rw [splitChars]
    by_cases hc : c = sep
    · rw [if_pos hc]
      intro piece hpiece
      rcases List.mem_cons.1 hpiece with rfl | hrest
      · simp
      · exact ⟨(ih piece hrest).1, fun x hx => List.mem_cons_of_mem _ ((ih piece hrest).2 hx)⟩
    · rw [if_neg hc]
      obtain ⟨first, pieces, hpieces⟩ := List.exists_cons_of_ne_nil (splitChars_ne_nil sep cs)
      rw [hpieces] at ih ⊢
      intro piece hpiece
      rcases List.mem_cons.1 hpiece with rfl | hrest
      · obtain ⟨hsep, hsub⟩ := ih first List.mem_cons_self
        refine ⟨?_, ?_⟩
        · rw [List.mem_cons, not_or]
          exact ⟨fun h => hc h.symm, hsep⟩
        · intro x hx
          rcases List.mem_cons.1 hx with rfl | hx
          · exact List.mem_cons_self
          · exact List.mem_cons_of_mem _ (hsub hx)
      · obtain ⟨hsep, hsub⟩ := ih piece (List.mem_cons_of_mem _ hrest)
        exact ⟨hsep, fun x hx => List.mem_cons_of_mem _ (hsub hx)⟩

/-- A text with the separator inside is cut there. -/
theorem split_singleton_append (sep : Char) (a b : String) :
    split sep (a ++ String.singleton sep ++ b) = split sep a ++ split sep b := by
  have hchars : (a ++ String.singleton sep ++ b).toList = a.toList ++ sep :: b.toList := by
    simp [String.toList_append]
  rw [split, hchars, splitChars_append, List.map_append]
  rfl

theorem split_append (a b : String) : split '/' (a ++ "/" ++ b) = split '/' a ++ split '/' b :=
  split_singleton_append '/' a b

theorem split_of_not_mem {sep : Char} {s : String} (h : sep ∉ s.toList) : split sep s = [s] := by
  rw [split, splitChars_of_not_mem h, List.map_cons, List.map_nil, String.ofList_toList]

/-- A part has no separator in it, and no character that is not in the text. -/
theorem mem_split {sep : Char} {s part : String} (h : part ∈ split sep s) :
    sep ∉ part.toList ∧ part.toList ⊆ s.toList := by
  obtain ⟨piece, hpiece, rfl⟩ := List.mem_map.1 h
  rw [String.toList_ofList]
  exact splitChars_pieces piece hpiece

theorem join_cons (sep part : String) {parts : List String} (h : parts ≠ []) :
    join sep (part :: parts) = part ++ sep ++ join sep parts := by
  cases parts with
  | nil => exact absurd rfl h
  | cons next parts => rfl

theorem split_join_singleton {sep : Char} {parts : List String} (hsome : parts ≠ [])
    (h : ∀ part ∈ parts, sep ∉ part.toList) :
    split sep (join (String.singleton sep) parts) = parts := by
  induction parts with
  | nil => exact absurd rfl hsome
  | cons part parts ih =>
    have hpart := split_of_not_mem (h part List.mem_cons_self)
    by_cases hparts : parts = []
    · subst hparts
      exact hpart
    · rw [join_cons _ _ hparts, split_singleton_append, hpart,
        ih hparts fun p hp => h p (List.mem_cons_of_mem _ hp)]
      rfl

theorem split_join {parts : List String} (hsome : parts ≠ [])
    (h : ∀ part ∈ parts, '/' ∉ part.toList) : split '/' (join "/" parts) = parts :=
  split_join_singleton hsome h

theorem join_append_cons (sep front part : String) (parts : List String) :
    join sep ((front ++ part) :: parts) = front ++ join sep (part :: parts) := by
  cases parts with
  | nil => rfl
  | cons next parts => simp only [join, String.append_assoc]

/-- The parts of a text, joined again. -/
theorem join_split (sep : Char) (s : String) :
    join (String.singleton sep) (split sep s) = s := by
  have hchars : ∀ cs : List Char,
      join (String.singleton sep) ((splitChars sep cs).map String.ofList) = String.ofList cs := by
    intro cs
    induction cs with
    | nil => rfl
    | cons c cs ih =>
      obtain ⟨piece, pieces, hpieces⟩ := List.exists_cons_of_ne_nil (splitChars_ne_nil sep cs)
      rw [hpieces] at ih
      rw [splitChars, hpieces]
      by_cases hc : c = sep
      · rw [if_pos hc, List.map_cons, join_cons _ _ (by simp), ih, hc]
        exact String.toList_inj.1 (by simp)
      · have hfirst : String.ofList (c :: piece) = String.ofList [c] ++ String.ofList piece :=
          String.toList_inj.1 (by simp)
        rw [if_neg hc, List.map_cons, hfirst, join_append_cons, ← List.map_cons, ih]
        exact String.toList_inj.1 (by simp)
  rw [split, hchars, String.ofList_toList]

/-- A text with one part less is shorter, and has no other characters. -/
theorem join_without {front back : List String} (part : String) (h : back ≠ []) :
    (join "/" (front ++ back)).utf8ByteSize ≤ (join "/" (front ++ part :: back)).utf8ByteSize ∧
      (join "/" (front ++ back)).toList ⊆ (join "/" (front ++ part :: back)).toList := by
  induction front with
  | nil =>
    rw [List.nil_append, List.nil_append, join_cons "/" part h, String.utf8ByteSize_append,
      String.toList_append]
    exact ⟨Nat.le_add_left _ _, List.subset_append_right ..⟩
  | cons first front ih =>
    obtain ⟨hsize, hchars⟩ := ih
    rw [List.cons_append, List.cons_append, join_cons "/" first (by simp [h]),
      join_cons "/" first (by simp)]
    constructor
    · simp only [String.utf8ByteSize_append]
      omega
    · simp only [String.toList_append]
      intro c hc
      rcases List.mem_append.1 hc with hc | hc
      · exact List.mem_append_left _ hc
      · exact List.mem_append_right _ (hchars hc)

theorem join_append (sep : String) {front back : List String} (hfront : front ≠ [])
    (hback : back ≠ []) : join sep (front ++ back) = join sep front ++ sep ++ join sep back := by
  induction front with
  | nil => exact absurd rfl hfront
  | cons part front ih =>
    by_cases hrest : front = []
    · subst hrest
      exact join_cons sep part hback
    · rw [List.cons_append, join_cons _ _ (by simp [hrest]), ih hrest, join_cons _ _ hrest]
      simp only [String.append_assoc]

end Text

namespace Path

open Text (split split_append split_of_not_mem mem_split split_join)

/-! ## Stacks -/

/-- A part that names something, so that it leads one step down. -/
structure IsName (part : String) : Prop where
  notEmpty : part ≠ ""
  notHere : part ≠ "."
  notUp : part ≠ ".."

/-- One step from a place. -/
def go (dir : List String) (part : String) : List String :=
  if part = "" || part = "." then dir
  else if part = ".." then dir.dropLast
  else dir ++ [part]

/-- The place that a path leads to from `start`. -/
def follow (start : List String) (path : String) : List String :=
  (split '/' path).foldl go (if isRooted path then [] else start)

@[simp] theorem go_empty (dir : List String) : go dir "" = dir := rfl

@[simp] theorem go_here (dir : List String) : go dir "." = dir := rfl

@[simp] theorem go_up (dir : List String) : go dir ".." = dir.dropLast := rfl

theorem go_name (dir : List String) {part : String} (h : IsName part) :
    go dir part = dir ++ [part] := by
  simp [go, h.notEmpty, h.notHere, h.notUp]

theorem foldl_go_names {names : List String} (h : ∀ name ∈ names, IsName name)
    (dir : List String) : names.foldl go dir = dir ++ names := by
  induction names generalizing dir with
  | nil => simp
  | cons name names ih =>
    rw [List.foldl_cons, go_name dir (h name List.mem_cons_self),
      ih fun n hn => h n (List.mem_cons_of_mem _ hn), List.append_assoc]
    rfl

/-- A place is made of names from the start and from the parts. -/
theorem mem_foldl_go {parts dir : List String} {name : String} (h : name ∈ parts.foldl go dir) :
    name ∈ dir ∨ name ∈ parts := by
  induction parts generalizing dir with
  | nil => exact .inl h
  | cons part parts ih =>
    rcases ih h with hdir | hparts
    · unfold go at hdir
      split at hdir
      · exact .inl hdir
      · split at hdir
        · exact .inl (List.dropLast_subset _ hdir)
        · rcases List.mem_append.1 hdir with hdir | hpart
          · exact .inl hdir
          · exact .inr (List.mem_singleton.1 hpart ▸ List.mem_cons_self)
    · exact .inr (List.mem_cons_of_mem _ hparts)

theorem not_mem_follow {start : List String} {path name : String} (hstart : name ∉ start)
    (hpath : name ∉ split '/' path) : name ∉ follow start path := by
  intro hmem
  rcases mem_foldl_go hmem with h | h
  · split at h
    · cases h
    · exact hstart h
  · exact hpath h

theorem keep_name (rooted : Bool) (kept : List String) {part : String} (h : IsName part) :
    keep rooted kept part = part :: kept := by
  simp [keep, h.notEmpty, h.notHere, h.notUp]

theorem keep_up_name (rooted : Bool) (kept : List String) {part : String} (h : part ≠ "..") :
    keep rooted (part :: kept) ".." = kept := by
  simp [keep, h]

theorem keep_up_up (rooted : Bool) (kept : List String) :
    keep rooted (".." :: kept) ".." = ".." :: ".." :: kept := rfl

/-- A part is passed over, leads up or is a name. -/
theorem part_cases (part : String) : part = "" ∨ part = "." ∨ part = ".." ∨ IsName part := by
  by_cases hempty : part = ""
  · exact .inl hempty
  by_cases hhere : part = "."
  · exact .inr (.inl hhere)
  by_cases hup : part = ".."
  · exact .inr (.inr (.inl hup))
  · exact .inr (.inr (.inr ⟨hempty, hhere, hup⟩))

/-- What the stack of a path looks like, innermost first: names, and below them the steps up
that are left of a path without a root. -/
def Stacked (rooted : Bool) : List String → Prop
  | [] => True
  | part :: rest =>
    (IsName part ∨ part = ".." ∧ rooted = false ∧ ∀ p ∈ rest, p = "..") ∧ Stacked rooted rest

theorem stacked_nil (rooted : Bool) : Stacked rooted [] := trivial

theorem keep_stacked {rooted : Bool} {kept : List String} (h : Stacked rooted kept)
    (part : String) : Stacked rooted (keep rooted kept part) := by
  rcases part_cases part with rfl | rfl | rfl | hname
  · exact h
  · exact h
  · cases kept with
    | nil =>
      cases rooted with
      | true => exact trivial
      | false => exact ⟨.inr ⟨rfl, rfl, nofun⟩, trivial⟩
    | cons last rest =>
      rcases h.1 with hlast | ⟨rfl, hrooted, hrest⟩
      · rw [keep_up_name rooted rest hlast.notUp]
        exact h.2
      · rw [keep_up_up]
        refine ⟨.inr ⟨rfl, hrooted, fun p hp => ?_⟩, h⟩
        rcases List.mem_cons.1 hp with rfl | hp
        · rfl
        · exact hrest p hp
  · rw [keep_name rooted kept hname]
    exact ⟨.inl hname, h⟩

theorem foldl_keep_stacked {rooted : Bool} {kept : List String} (h : Stacked rooted kept)
    (parts : List String) : Stacked rooted (parts.foldl (keep rooted) kept) := by
  induction parts generalizing kept with
  | nil => exact h
  | cons part parts ih => exact ih (keep_stacked h part)

/-- Keeping a part on the stack or following it leads to the same place.  A rooted path starts
at the root, which has nothing above. -/
theorem foldl_go_keep {rooted : Bool} {kept start : List String} (hkept : Stacked rooted kept)
    (hstart : rooted = true → start = []) (part : String) :
    (keep rooted kept part).reverse.foldl go start = go (kept.reverse.foldl go start) part := by
  rcases part_cases part with rfl | rfl | rfl | hname
  · rfl
  · rfl
  · cases kept with
    | nil =>
      cases rooted with
      | true =>
        rw [hstart rfl]
        rfl
      | false => rfl
    | cons last rest =>
      rcases hkept.1 with hlast | ⟨rfl, -, -⟩
      · rw [keep_up_name rooted rest hlast.notUp, List.reverse_cons, List.foldl_append,
          List.foldl_cons, List.foldl_nil, go_name _ hlast, go_up, List.dropLast_concat]
      · rw [keep_up_up, List.reverse_cons, List.foldl_append]
        rfl
  · rw [keep_name rooted kept hname, List.reverse_cons, List.foldl_append]
    rfl

theorem foldl_go_foldl_keep {rooted : Bool} {kept start : List String}
    (hkept : Stacked rooted kept) (hstart : rooted = true → start = []) (parts : List String) :
    (parts.foldl (keep rooted) kept).reverse.foldl go start =
      parts.foldl go (kept.reverse.foldl go start) := by
  induction parts generalizing kept with
  | nil => rfl
  | cons part parts ih =>
    rw [List.foldl_cons, ih (keep_stacked hkept part), foldl_go_keep hkept hstart, List.foldl_cons]

/-- Cleaning once more changes nothing. -/
theorem foldl_keep_reverse {rooted : Bool} {kept : List String} (h : Stacked rooted kept) :
    kept.reverse.foldl (keep rooted) [] = kept := by
  induction kept with
  | nil => rfl
  | cons last rest ih =>
    rw [List.reverse_cons, List.foldl_append, ih h.2, List.foldl_cons, List.foldl_nil]
    rcases h.1 with hlast | ⟨rfl, rfl, hrest⟩
    · exact keep_name rooted rest hlast
    · cases rest with
      | nil => rfl
      | cons next rest =>
        obtain rfl : next = ".." := hrest next List.mem_cons_self
        rfl

theorem Stacked.part {rooted : Bool} {kept : List String} (h : Stacked rooted kept) :
    ∀ part ∈ kept, IsName part ∨ part = ".." := by
  induction kept with
  | nil => nofun
  | cons last rest ih =>
    intro part hpart
    rcases List.mem_cons.1 hpart with rfl | hrest
    · exact h.1.imp id And.left
    · exact ih h.2 part hrest

/-- Steps up, and names behind them. -/
theorem Stacked.split_ups {rooted : Bool} {kept : List String} (h : Stacked rooted kept) :
    ∃ ups names, kept.reverse = ups ++ names ∧ (∀ up ∈ ups, up = "..") ∧
      ∀ name ∈ names, IsName name := by
  induction kept with
  | nil => exact ⟨[], [], rfl, nofun, nofun⟩
  | cons last rest ih =>
    rcases h.1 with hlast | ⟨rfl, -, hrest⟩
    · obtain ⟨ups, names, hsplit, hups, hnames⟩ := ih h.2
      refine ⟨ups, names ++ [last], by simp [hsplit], hups, fun name hname => ?_⟩
      rcases List.mem_append.1 hname with hname | hname
      · exact hnames name hname
      · exact List.mem_singleton.1 hname ▸ hlast
    · refine ⟨(".." :: rest).reverse, [], by simp, fun up hup => ?_, nofun⟩
      rcases List.mem_cons.1 (List.mem_reverse.1 hup) with rfl | hup
      · rfl
      · exact hrest up hup

theorem Stacked.names_append {rooted : Bool} {names kept : List String}
    (hnames : ∀ name ∈ names, IsName name) (h : Stacked rooted kept) :
    Stacked rooted (names ++ kept) := by
  induction names with
  | nil => exact h
  | cons name names ih =>
    refine ⟨.inl (hnames name List.mem_cons_self), ih fun n hn => ?_⟩
    exact hnames n (List.mem_cons_of_mem _ hn)

theorem Stacked.of_append {rooted : Bool} {front kept : List String}
    (h : Stacked rooted (front ++ kept)) : Stacked rooted kept := by
  induction front with
  | nil => exact h
  | cons part front ih => exact ih h.2

theorem components_stacked (path : String) :
    Stacked (isRooted path) (components path).reverse := by
  rw [components, List.reverse_reverse]
  exact foldl_keep_stacked (stacked_nil _) _

theorem mem_foldl_keep {rooted : Bool} {parts kept : List String} {part : String}
    (h : part ∈ parts.foldl (keep rooted) kept) : part ∈ kept ∨ part ∈ parts ∨ part = ".." := by
  induction parts generalizing kept with
  | nil => exact .inl h
  | cons p parts ih =>
    rcases ih h with hkept | hparts | hup
    · rcases part_cases p with rfl | rfl | rfl | hname
      · exact .inl hkept
      · exact .inl hkept
      · cases kept with
        | nil =>
          cases rooted with
          | true => cases hkept
          | false => exact .inr (.inr (List.mem_singleton.1 hkept))
        | cons last rest =>
          by_cases hlast : last = ".."
          · rw [hlast, keep_up_up] at hkept
            rcases List.mem_cons.1 hkept with hup | hkept
            · exact .inr (.inr hup)
            · exact .inl (hlast ▸ hkept)
          · rw [keep_up_name rooted rest hlast] at hkept
            exact .inl (List.mem_cons_of_mem _ hkept)
      · rw [keep_name rooted kept hname] at hkept
        rcases List.mem_cons.1 hkept with rfl | hkept
        · exact .inr (.inl List.mem_cons_self)
        · exact .inl hkept
    · exact .inr (.inl (List.mem_cons_of_mem _ hparts))
    · exact .inr (.inr hup)

/-- A component is a part of the path or leads up. -/
theorem mem_components {path part : String} (h : part ∈ components path) :
    part ∈ split '/' path ∨ part = ".." := by
  rcases mem_foldl_keep (List.mem_reverse.1 h) with hnil | hpart | hup
  · cases hnil
  · exact .inl hpart
  · exact .inr hup

theorem slash_not_mem_components {path part : String} (h : part ∈ components path) :
    '/' ∉ part.toList := by
  rcases mem_components h with hpart | rfl
  · exact (mem_split hpart).1
  · decide

/-- The components of a path lead where the path leads. -/
theorem follow_eq_components (start : List String) (path : String) :
    follow start path = (components path).foldl go (if isRooted path then [] else start) := by
  have hstart : isRooted path = true → (if isRooted path then [] else start) = [] :=
    fun hrooted => if_pos hrooted
  exact (foldl_go_foldl_keep (stacked_nil _) hstart (split '/' path)).symm

/-! ## Cleaned paths -/

/-- The cleaned path with the given components. -/
def render (rooted : Bool) (parts : List String) : String :=
  if rooted then "/" ++ Text.join "/" parts
  else if parts = [] then "." else Text.join "/" parts

theorem join_eq_empty_iff {parts : List String} (h : ∀ part ∈ parts, part ≠ "") :
    Text.join "/" parts = "" ↔ parts = [] := by
  constructor
  · intro hjoin
    cases parts with
    | nil => rfl
    | cons part parts =>
      have hpart := h part List.mem_cons_self
      by_cases hparts : parts = []
      · subst hparts
        exact absurd hjoin hpart
      · rw [Text.join_cons _ _ hparts] at hjoin
        have hlist := congrArg String.toList hjoin
        simp [String.toList_append] at hlist
  · rintro rfl
    rfl

theorem components_ne_empty {path part : String} (h : part ∈ components path) : part ≠ "" := by
  rcases (components_stacked path).part part (List.mem_reverse.2 h) with hname | rfl
  · exact hname.notEmpty
  · decide

theorem clean_eq_render (path : String) : clean path = render (isRooted path) (components path) := by
  unfold clean render
  have hempty : Text.join "/" (components path) = "" ↔ components path = [] :=
    join_eq_empty_iff fun _ => components_ne_empty
  cases hrooted : isRooted path with
  | true => rfl
  | false => simp only [hempty, Bool.false_eq_true, if_false]

theorem isRooted_append {a : String} (h : a ≠ "") (b : String) : isRooted (a ++ b) = isRooted a := by
  have hne : a.toList ≠ [] := fun hnil => h (String.toList_eq_nil_iff.1 hnil)
  obtain ⟨c, cs, hcs⟩ := List.exists_cons_of_ne_nil hne
  rw [isRooted, isRooted, String.toList_append, hcs]
  rfl

/-- The parts of a cleaned path. -/
theorem split_render {rooted : Bool} {parts : List String} (hsome : parts ≠ [])
    (h : ∀ part ∈ parts, '/' ∉ part.toList) :
    split '/' (render rooted parts) = (if rooted then [""] else []) ++ parts := by
  cases rooted with
  | true =>
    have hroot : ("/" : String) ++ Text.join "/" parts = "" ++ "/" ++ Text.join "/" parts := by
      simp
    show split '/' ("/" ++ Text.join "/" parts) = [""] ++ parts
    rw [hroot, split_append, split_join hsome h]
    rfl
  | false =>
    show split '/' (if parts = [] then "." else Text.join "/" parts) = [] ++ parts
    rw [if_neg hsome, split_join hsome h]
    rfl

theorem isRooted_render {rooted : Bool} {parts : List String}
    (h : ∀ part ∈ parts, part ≠ "" ∧ '/' ∉ part.toList) : isRooted (render rooted parts) = rooted := by
  cases rooted with
  | true =>
    show isRooted ("/" ++ Text.join "/" parts) = true
    rw [isRooted_append (by decide)]
    decide
  | false =>
    cases parts with
    | nil => decide
    | cons part parts =>
      obtain ⟨hne, hslash⟩ := h part List.mem_cons_self
      have hpart : isRooted part = false := by
        cases hcs : part.toList with
        | nil => exact absurd (String.toList_eq_nil_iff.1 hcs) hne
        | cons c cs =>
          rw [hcs] at hslash
          have hc : c ≠ '/' := fun hc => hslash (hc ▸ List.mem_cons_self)
          simp [isRooted, hcs, hc]
      show isRooted (Text.join "/" (part :: parts)) = false
      by_cases hparts : parts = []
      · subst hparts
        exact hpart
      · rw [Text.join_cons _ _ hparts, String.append_assoc, isRooted_append hne]
        exact hpart

theorem follow_render (start : List String) {rooted : Bool} {parts : List String}
    (h : ∀ part ∈ parts, part ≠ "" ∧ '/' ∉ part.toList) :
    follow start (render rooted parts) = parts.foldl go (if rooted then [] else start) := by
  unfold follow
  rw [isRooted_render h]
  by_cases hparts : parts = []
  · subst hparts
    cases rooted <;> rfl
  · rw [split_render hparts fun part hpart => (h part hpart).2]
    cases rooted <;> rfl

theorem components_render {rooted : Bool} {parts : List String}
    (hstacked : Stacked rooted parts.reverse)
    (h : ∀ part ∈ parts, part ≠ "" ∧ '/' ∉ part.toList) :
    components (render rooted parts) = parts := by
  have hfold : parts.foldl (keep rooted) [] = parts.reverse := by
    have hagain := foldl_keep_reverse hstacked
    rwa [List.reverse_reverse] at hagain
  unfold components
  rw [isRooted_render h]
  by_cases hparts : parts = []
  · subst hparts
    cases rooted <;> rfl
  · rw [split_render hparts fun part hpart => (h part hpart).2, List.foldl_append]
    have hstart : (if rooted then [""] else []).foldl (keep rooted) [] = [] := by
      cases rooted <;> rfl
    rw [hstart, hfold, List.reverse_reverse]

/-- A component is neither empty nor cut by a slash. -/
theorem components_plain (path : String) :
    ∀ part ∈ components path, part ≠ "" ∧ '/' ∉ part.toList :=
  fun _ hpart => ⟨components_ne_empty hpart, slash_not_mem_components hpart⟩

theorem clean_render {rooted : Bool} {parts : List String} (hstacked : Stacked rooted parts.reverse)
    (h : ∀ part ∈ parts, part ≠ "" ∧ '/' ∉ part.toList) :
    clean (render rooted parts) = render rooted parts := by
  rw [clean_eq_render, isRooted_render h, components_render hstacked h]

/-- A slash at the end is cleaned away. -/
theorem clean_append_slash {path : String} (h : path ≠ "") : clean (path ++ "/") = clean path := by
  have hparts : components (path ++ "/") = components path := by
    rw [components, components, isRooted_append h]
    have hsplit := Text.split_append path ""
    rw [String.append_empty] at hsplit
    rw [hsplit, List.foldl_append]
    rfl
  rw [clean_eq_render, clean_eq_render, hparts, isRooted_append h]

/-- The parent is what stands in front of the last name. -/
theorem parent_append {front name : String} (hfront : front = "" ∨ front.toList.getLast? = some '/')
    (hname : '/' ∉ name.toList) : parent (front ++ name) = clean front := by
  have hall : ∀ c ∈ name.toList.reverse, (c != '/') = true := by
    intro c hc
    rw [bne_iff_ne]
    rintro rfl
    exact hname (List.mem_reverse.1 hc)
  have hstop : front.toList.reverse.dropWhile (· != '/') = front.toList.reverse := by
    rcases hfront with rfl | hlast
    · rfl
    · obtain ⟨init, hinit⟩ := List.getLast?_eq_some_iff.1 hlast
      rw [hinit, List.reverse_append]
      rfl
  rw [parent, String.toList_append, List.reverse_append, List.dropWhile_append_of_pos hall, hstop,
    List.reverse_reverse, String.ofList_toList]

theorem parent_render {rooted : Bool} {front : List String} {name : String}
    (hstacked : Stacked rooted front.reverse)
    (h : ∀ part ∈ front, part ≠ "" ∧ '/' ∉ part.toList) (hname : '/' ∉ name.toList) :
    parent (render rooted (front ++ [name])) = render rooted front := by
  by_cases hfront : front = []
  · subst hfront
    cases rooted with
    | true => exact parent_append (.inr rfl) hname
    | false =>
      have hempty : parent ("" ++ name) = "." := parent_append (.inl rfl) hname
      rw [String.empty_append] at hempty
      exact hempty
  · have hsplit : render rooted (front ++ [name]) = render rooted front ++ "/" ++ name := by
      have hjoin : Text.join "/" (front ++ [name]) = Text.join "/" front ++ "/" ++ name :=
        Text.join_append "/" hfront (by simp)
      cases rooted with
      | true => simp only [render, if_true, hjoin, String.append_assoc]
      | false =>
        show (if front ++ [name] = [] then "." else Text.join "/" (front ++ [name])) =
          (if front = [] then "." else Text.join "/" front) ++ "/" ++ name
        rw [if_neg (by simp), if_neg hfront, hjoin]
    have hne : render rooted front ≠ "" := by
      intro heq
      have hparts := components_render hstacked h
      rw [heq] at hparts
      exact hfront hparts.symm
    have hslash : (render rooted front ++ "/").toList.getLast? = some '/' := by
      rw [String.toList_append]
      exact List.getLast?_concat
    rw [hsplit, parent_append (.inr hslash) hname, clean_append_slash hne, clean_render hstacked h]

theorem follow_clean (start : List String) (path : String) :
    follow start (clean path) = follow start path := by
  rw [clean_eq_render, follow_render start (components_plain path), follow_eq_components]

theorem components_clean (path : String) : components (clean path) = components path := by
  rw [clean_eq_render, components_render (components_stacked path) (components_plain path)]

/-- Joining two paths and cleaning the first with the second behind it are the same. -/
theorem join_pair {a : String} (ha : a ≠ "") (b : String) :
    ∃ path, join [a, b] = clean path ∧ isRooted path = isRooted a ∧
      ∀ (σ : Type) (f : σ → String → σ) (s : σ), (∀ s, f s "" = s) →
        (split '/' path).foldl f s = (split '/' b).foldl f ((split '/' a).foldl f s) := by
  by_cases hb : b = ""
  · subst hb
    refine ⟨a, ?_, rfl, fun σ f s hf => ?_⟩
    · simp [join, ha, Text.join]
    · exact (hf _).symm
  · refine ⟨a ++ "/" ++ b, ?_, ?_, fun σ f s _ => ?_⟩
    · simp [join, ha, hb, Text.join]
    · rw [String.append_assoc, isRooted_append ha]
    · rw [split_append, List.foldl_append]

theorem components_join {a : String} (ha : a ≠ "") (b : String) :
    components (join [a, b]) =
      ((split '/' b).foldl (keep (isRooted a)) (components a).reverse).reverse := by
  obtain ⟨path, hjoin, hrooted, hfold⟩ := join_pair ha b
  rw [hjoin, components_clean, components, hrooted, hfold _ _ _ fun _ => rfl, components,
    List.reverse_reverse]

theorem join_eq_render {a : String} (ha : a ≠ "") (b : String) :
    join [a, b] = render (isRooted a) (components (join [a, b])) := by
  obtain ⟨path, hjoin, hrooted, -⟩ := join_pair ha b
  rw [hjoin, components_clean, ← hrooted]
  exact clean_eq_render path

/-- A joined path leads where the second path leads from the place of the first. -/
theorem follow_join (start : List String) {a : String} (ha : a ≠ "") (b : String) :
    follow start (join [a, b]) = (split '/' b).foldl go (follow start a) := by
  obtain ⟨path, hjoin, hrooted, hfold⟩ := join_pair ha b
  rw [hjoin, follow_clean, follow, hrooted, hfold _ _ _ fun _ => rfl]
  rfl

/-! ## Paths that stay below a directory -/

/-- One step that never leads up out of where it all began.  The steps are kept innermost
first. -/
def descend (kept : List String) (part : String) : Option (List String) :=
  if part = "" || part = "." then some kept
  else if part = ".." then
    match kept with
    | [] => none
    | _ :: rest => some rest
  else some (part :: kept)

/-- Where a path leads below any directory, if it never climbs out of it. -/
def inside? (path : String) : Option (List String) :=
  ((split '/' path).foldlM descend []).map List.reverse

theorem descend_name (kept : List String) {part : String} (h : IsName part) :
    descend kept part = some (part :: kept) := by
  simp [descend, h.notEmpty, h.notHere, h.notUp]

/-- Steps that stay inside are kept on any stack, and lead down from any place. -/
theorem foldlM_descend {parts kept kept' : List String} (h : parts.foldlM descend kept = some kept')
    (hkept : ∀ part ∈ kept, IsName part) :
    (∀ part ∈ kept', IsName part) ∧
      (∀ rooted below, parts.foldl (keep rooted) (kept ++ below) = kept' ++ below) ∧
      ∀ dir, parts.foldl go (dir ++ kept.reverse) = dir ++ kept'.reverse := by
  induction parts generalizing kept with
  | nil =>
    obtain rfl : kept = kept' := Option.some_inj.1 h
    exact ⟨hkept, fun _ _ => rfl, fun _ => rfl⟩
  | cons part parts ih =>
    obtain ⟨next, hnext, hrest⟩ := Option.bind_eq_some_iff.1 h
    rcases part_cases part with rfl | rfl | rfl | hname
    · obtain rfl : kept = next := Option.some_inj.1 hnext
      exact ih hrest hkept
    · obtain rfl : kept = next := Option.some_inj.1 hnext
      exact ih hrest hkept
    · cases kept with
      | nil => cases hnext
      | cons last rest =>
        obtain rfl : rest = next := Option.some_inj.1 hnext
        have hlast := hkept last List.mem_cons_self
        obtain ⟨hnames, hstack, hplace⟩ :=
          ih hrest fun part hpart => hkept part (List.mem_cons_of_mem _ hpart)
        refine ⟨hnames, fun rooted below => ?_, fun dir => ?_⟩
        · rw [List.foldl_cons, List.cons_append, keep_up_name rooted _ hlast.notUp]
          exact hstack rooted below
        · rw [List.foldl_cons, List.reverse_cons, ← List.append_assoc, go_up,
            List.dropLast_concat]
          exact hplace dir
    · rw [descend_name kept hname, Option.some_inj] at hnext
      subst hnext
      obtain ⟨hnames, hstack, hplace⟩ := ih hrest (by
        intro p hp
        rcases List.mem_cons.1 hp with rfl | hp
        · exact hname
        · exact hkept p hp)
      refine ⟨hnames, fun rooted below => ?_, fun dir => ?_⟩
      · rw [List.foldl_cons, keep_name rooted _ hname]
        exact hstack rooted below
      · rw [List.foldl_cons, go_name _ hname, List.append_assoc, ← List.reverse_cons]
        exact hplace dir

theorem inside?_names {path : String} {rel : List String} (h : inside? path = some rel) :
    ∀ name ∈ rel, IsName name ∧ name ∈ split '/' path := by
  obtain ⟨kept, hkept, rfl⟩ := Option.map_eq_some_iff.1 h
  obtain ⟨hnames, hstack, -⟩ := foldlM_descend hkept nofun
  intro name hname
  rw [List.mem_reverse] at hname
  refine ⟨hnames name hname, ?_⟩
  have hmem : name ∈ (split '/' path).foldl (keep true) ([] ++ []) := by
    rw [hstack true []]
    exact List.mem_append_left _ hname
  rcases mem_foldl_keep hmem with hnil | hpart | hup
  · cases hnil
  · exact hpart
  · exact absurd hup (hnames name hname).notUp

theorem foldl_go_inside {path : String} {rel : List String} (h : inside? path = some rel)
    (dir : List String) : (split '/' path).foldl go dir = dir ++ rel := by
  obtain ⟨kept, hkept, rfl⟩ := Option.map_eq_some_iff.1 h
  have hplace := (foldlM_descend hkept nofun).2.2 dir
  rwa [List.reverse_nil, List.append_nil] at hplace

theorem foldl_keep_inside {path : String} {rel : List String} (h : inside? path = some rel)
    (rooted : Bool) (kept : List String) :
    (split '/' path).foldl (keep rooted) kept = rel.reverse ++ kept := by
  obtain ⟨inner, hinner, rfl⟩ := Option.map_eq_some_iff.1 h
  rw [List.reverse_reverse]
  exact (foldlM_descend hinner nofun).2.1 rooted kept

theorem components_join_inside {a b : String} {rel : List String} (ha : a ≠ "")
    (h : inside? b = some rel) : components (join [a, b]) = components a ++ rel := by
  rw [components_join ha, foldl_keep_inside h, List.reverse_append, List.reverse_reverse,
    List.reverse_reverse]

theorem follow_join_inside (start : List String) {a b : String} {rel : List String} (ha : a ≠ "")
    (h : inside? b = some rel) : follow start (join [a, b]) = follow start a ++ rel := by
  rw [follow_join start ha, foldl_go_inside h]

/-- Names lead down. -/
theorem foldlM_descend_names {names : List String} (h : ∀ name ∈ names, IsName name)
    (kept : List String) : names.foldlM descend kept = some (names.reverse ++ kept) := by
  induction names generalizing kept with
  | nil => rfl
  | cons name names ih =>
    rw [List.foldlM_cons, descend_name kept (h name List.mem_cons_self)]
    show names.foldlM descend (name :: kept) = _
    rw [ih fun n hn => h n (List.mem_cons_of_mem _ hn), List.reverse_cons, List.append_assoc]
    rfl

/-- A path whose components are all names leads down along them. -/
theorem inside?_render {rooted : Bool} {names : List String}
    (h : ∀ name ∈ names, IsName name ∧ '/' ∉ name.toList) :
    inside? (render rooted names) = some names := by
  have hnames : ∀ name ∈ names, IsName name := fun name hname => (h name hname).1
  unfold inside?
  by_cases hsome : names = []
  · subst hsome
    cases rooted <;> rfl
  · rw [split_render hsome fun name hname => (h name hname).2, List.foldlM_append]
    have hstart : (if rooted then [""] else []).foldlM descend [] = some [] := by
      cases rooted <;> rfl
    rw [hstart]
    show ((names.foldlM descend []).map List.reverse) = some names
    rw [foldlM_descend_names hnames, List.append_nil, Option.map_some, List.reverse_reverse]

theorem inside?_plain {path : String} {rel : List String} (h : inside? path = some rel) :
    ∀ name ∈ rel, IsName name ∧ '/' ∉ name.toList :=
  fun name hname => ⟨(inside?_names h name hname).1, (mem_split (inside?_names h name hname).2).1⟩

/-- A path that stays inside has its names as components. -/
theorem components_inside {path : String} {rel : List String} (h : inside? path = some rel) :
    components path = rel := by
  rw [components, foldl_keep_inside h, List.append_nil, List.reverse_reverse]

theorem inside?_clean {path : String} {rel : List String} (h : inside? path = some rel) :
    inside? (clean path) = some rel := by
  rw [clean_eq_render, components_inside h, inside?_render (inside?_plain h)]

/-- Joined paths that stay inside lead down one after the other. -/
theorem inside?_join {a b : String} {rel rel' : List String} (ha : inside? a = some rel)
    (hb : inside? b = some rel') : inside? (join [a, b]) = some (rel ++ rel') := by
  have hnames : ∀ name ∈ rel ++ rel', IsName name ∧ '/' ∉ name.toList := by
    intro name hname
    rcases List.mem_append.1 hname with hname | hname
    · exact inside?_plain ha name hname
    · exact inside?_plain hb name hname
  by_cases hempty : a = ""
  · subst hempty
    obtain rfl : [] = rel := Option.some_inj.1 ha
    by_cases hb' : b = ""
    · subst hb'
      exact hb
    · have hjoin : join ["", b] = clean b := by
        simp [join, hb', Text.join]
      rw [hjoin, List.nil_append]
      exact inside?_clean hb
  · rw [join_eq_render hempty, components_join_inside hempty hb, components_inside ha]
    exact inside?_render hnames

theorem inside?_name {name : String} (h : IsName name) (hslash : '/' ∉ name.toList) :
    inside? name = some [name] := by
  rw [inside?, split_of_not_mem hslash, foldlM_descend_names fun n hn => by
    rw [List.mem_singleton.1 hn]; exact h]
  rfl

/-- The path of a place below a directory. -/
def within (dir : String) (rel : List String) : String :=
  render (isRooted dir) (components dir ++ rel)

theorem join_within {dir path : String} {rel : List String} (hdir : dir ≠ "")
    (h : inside? path = some rel) : join [dir, path] = within dir rel := by
  rw [join_eq_render hdir, components_join_inside hdir h, within]

theorem within_plain (dir : String) {rel : List String}
    (h : ∀ name ∈ rel, IsName name ∧ '/' ∉ name.toList) :
    ∀ part ∈ components dir ++ rel, part ≠ "" ∧ '/' ∉ part.toList := by
  intro part hpart
  rcases List.mem_append.1 hpart with hpart | hpart
  · exact components_plain dir part hpart
  · exact ⟨(h part hpart).1.notEmpty, (h part hpart).2⟩

theorem within_stacked (dir : String) {rel : List String} (h : ∀ name ∈ rel, IsName name) :
    Stacked (isRooted dir) (components dir ++ rel).reverse := by
  rw [List.reverse_append]
  exact Stacked.names_append (fun name hname => h name (List.mem_reverse.1 hname))
    (components_stacked dir)

theorem follow_within (start : List String) (dir : String) {rel : List String}
    (h : ∀ name ∈ rel, IsName name ∧ '/' ∉ name.toList) :
    follow start (within dir rel) = follow start dir ++ rel := by
  rw [within, follow_render start (within_plain dir h), List.foldl_append, ← follow_eq_components,
    foldl_go_names fun name hname => (h name hname).1]

theorem parent_within {dir : String} {rel : List String} (hdir : components dir ≠ [])
    (h : ∀ name ∈ rel, IsName name ∧ '/' ∉ name.toList) :
    parent (within dir rel) = render (isRooted dir) (components dir ++ rel).dropLast := by
  have hne : components dir ++ rel ≠ [] := by simp [hdir]
  have hplain := within_plain dir h
  have hstacked := within_stacked dir fun name hname => (h name hname).1
  rw [← List.dropLast_concat_getLast hne] at hplain hstacked
  rw [within, ← List.dropLast_concat_getLast hne, List.dropLast_concat]
  rw [List.reverse_append] at hstacked
  refine parent_render hstacked.of_append (fun part hpart => ?_) (hplain _ (by simp)).2
  exact hplain part (List.mem_append_left _ hpart)

/-- A stack that has lost a component gets it back only from a part that is the component. -/
theorem not_mem_foldl_keep {rooted : Bool} {parts kept : List String} {mark : String}
    (hmark : mark ≠ "..") (hkept : mark ∉ kept) (hparts : mark ∉ parts) :
    mark ∉ parts.foldl (keep rooted) kept := by
  intro hmem
  rcases mem_foldl_keep hmem with h | h | h
  · exact hkept h
  · exact hparts h
  · exact hmark h

theorem foldlM_descend_of_mem {rooted : Bool} {parts kept below : List String} {mark : String}
    (hmark : IsName mark) (hbelow : mark ∉ below) (hparts : mark ∉ parts)
    (hkept : ∀ part ∈ kept, IsName part ∧ part ≠ mark)
    (h : mark ∈ parts.foldl (keep rooted) (kept ++ mark :: below)) :
    ∃ kept', parts.foldlM descend kept = some kept' := by
  induction parts generalizing kept with
  | nil => exact ⟨kept, rfl⟩
  | cons part parts ih =>
    have hrest : mark ∉ parts := fun hmem => hparts (List.mem_cons_of_mem _ hmem)
    have hpart : part ≠ mark := fun heq => hparts (heq ▸ List.mem_cons_self)
    rw [List.foldl_cons] at h
    rcases part_cases part with rfl | rfl | rfl | hname
    · exact ih hrest hkept h
    · exact ih hrest hkept h
    · cases kept with
      | nil =>
        -- The step leads out, and the mark is gone for good.
        rw [List.nil_append, keep_up_name rooted below hmark.notUp] at h
        exact absurd h (not_mem_foldl_keep hmark.notUp hbelow hrest)
      | cons last rest =>
        have hlast := hkept last List.mem_cons_self
        rw [List.cons_append, keep_up_name rooted _ hlast.1.notUp] at h
        exact ih hrest (fun p hp => hkept p (List.mem_cons_of_mem _ hp)) h
    · rw [keep_name rooted _ hname, ← List.cons_append] at h
      have hcons : ∀ p ∈ part :: kept, IsName p ∧ p ≠ mark := by
        intro p hp
        rcases List.mem_cons.1 hp with rfl | hp
        · exact ⟨hname, hpart⟩
        · exact hkept p hp
      rw [List.foldlM_cons, descend_name kept hname]
      exact ih hrest hcons h

/-- A directory whose own name is still there after another path was joined to it has not been
left on the way, if that path does not mention the name. -/
theorem inside?_of_mem {dir path mark : String} {front : List String} (hdir : dir ≠ "")
    (hcomponents : components dir = front ++ [mark]) (hmark : IsName mark) (hfront : mark ∉ front)
    (hpath : mark ∉ split '/' path) (h : mark ∈ components (join [dir, path])) :
    ∃ rel, inside? path = some rel := by
  rw [components_join hdir, List.mem_reverse, hcomponents, List.reverse_append] at h
  have hbelow : mark ∉ front.reverse := fun hmem => hfront (List.mem_reverse.1 hmem)
  have hnone : ∀ part ∈ ([] : List String), IsName part ∧ part ≠ mark := nofun
  obtain ⟨kept, hkept⟩ := foldlM_descend_of_mem hmark hbelow hpath hnone h
  exact ⟨kept.reverse, by rw [inside?, hkept]; rfl⟩

end Path

end Boardwright
