import Boardwright.Descriptor
import Boardwright.Proofs.Paths

/-!
# Reading descriptors

A descriptor is written line by line, and nothing in the text says what belongs to
what but blank lines, blanks, commas and the first words of lines.  `Descriptor.read`
takes a text apart at these, and `read_text` says that it gives back what was written
if names and values keep clear of them.

A value is written in one way only, but several values are written alike, such as a
number and a name with the same digits.  `Descriptor.plain` forgets the difference:
it has the text of each value in place of the value.

There are three levels, each with a form of the text that can be cut (`Line.text_eq`,
`Block.rows`, `text_eq_join`) and a lemma that cutting it is right
(`Line.read_text`, `Block.read_rows`, `read_text`).  `text_eq_iff` is the result.
-/

namespace Boardwright

namespace Text

/-! ## Cutting -/

/-- The text in front of the first occurrence of a character. -/
def before (mark : Char) (s : String) : String :=
  String.ofList (s.toList.takeWhile (· != mark))

/-- The text from the first occurrence of a character on. -/
def onward (mark : Char) (s : String) : String :=
  String.ofList (s.toList.dropWhile (· != mark))

/-- The text without its first characters. -/
def dropFront (n : Nat) (s : String) : String := String.ofList (s.toList.drop n)

/-- A text is cut between a piece without the character and one that begins with it. -/
theorem cut_append {mark : Char} (head tail : String) (hhead : mark ∉ head.toList)
    (htail : ∀ c ∈ tail.toList.head?, c = mark) :
    before mark (head ++ tail) = head ∧ onward mark (head ++ tail) = tail := by
  have hpos : ∀ c ∈ head.toList, (c != mark) = true := by
    intro c hc
    simp only [bne_iff_ne, ne_eq]
    rintro rfl
    exact hhead hc
  unfold before onward
  rw [String.toList_append, List.takeWhile_append_of_pos hpos, List.dropWhile_append_of_pos hpos]
  cases hchars : tail.toList with
  | nil =>
    have hempty : tail = "" := String.toList_inj.1 hchars
    simp [hempty]
  | cons c rest =>
    obtain rfl : c = mark := htail c (by simp [hchars])
    rw [List.takeWhile_cons_of_neg (by simp), List.dropWhile_cons_of_neg (by simp), ← hchars,
      List.append_nil, String.ofList_toList, String.ofList_toList]
    exact ⟨rfl, rfl⟩

theorem dropFront_append (head tail : String) : dropFront head.toList.length (head ++ tail) = tail := by
  unfold dropFront
  rw [String.toList_append, List.drop_left, String.ofList_toList]

theorem dropFront_blank (s : String) : dropFront 1 (" " ++ s) = s := dropFront_append " " s

theorem not_mem_join {mark : Char} {sep : String} {parts : List String} (hsep : mark ∉ sep.toList)
    (hparts : ∀ part ∈ parts, mark ∉ part.toList) : mark ∉ (join sep parts).toList := by
  induction parts with
  | nil => simp [join]
  | cons part parts ih =>
    have hfirst := hparts part List.mem_cons_self
    have hrest := ih fun p hp => hparts p (List.mem_cons_of_mem _ hp)
    cases parts with
    | nil => exact hfirst
    | cons next parts =>
      rw [join_cons _ _ (List.cons_ne_nil _ _), String.toList_append, String.toList_append]
      simp [hfirst, hsep, hrest]

/-- Each part with the second half of the separator in front. -/
theorem join_append_sep (sep sep' : String) (part : String) (parts : List String) :
    sep' ++ join (sep ++ sep') (part :: parts) = join sep ((part :: parts).map (sep' ++ ·)) := by
  induction parts generalizing part with
  | nil => rfl
  | cons next parts ih =>
    calc sep' ++ join (sep ++ sep') (part :: next :: parts)
        = (sep' ++ part) ++ sep ++ (sep' ++ join (sep ++ sep') (next :: parts)) := by
          rw [join_cons _ _ (List.cons_ne_nil _ _)]
          simp only [String.append_assoc]
      _ = (sep' ++ part) ++ sep ++ join sep ((next :: parts).map (sep' ++ ·)) := by rw [ih]
      _ = join sep ((part :: next :: parts).map (sep' ++ ·)) :=
          (join_cons _ _ (List.cons_ne_nil _ _)).symm

/-- Lines that each end in a line feed. -/
theorem join_ended (rows : List String) :
    String.join (rows.map (· ++ "\n")) = join "\n" (rows ++ [""]) := by
  induction rows with
  | nil => rfl
  | cons row rows ih =>
    rw [List.map_cons, String.join_cons, ih, List.cons_append, join_cons _ _ (by simp)]

end Text

namespace Descriptor

/-! ## What the text keeps -/

/-- Every value as it is written. -/
def Line.plain (l : Line) : Line :=
  { l with assignments := l.assignments.map fun a => { a with value := .ident a.value.text } }

def Block.plain (b : Block) : Block := { b with lines := b.lines.map Line.plain }

/-- The descriptor with its lines, blocks, kinds and names, and every value as it is written. -/
def plain (d : Descriptor) : Descriptor where
  header := d.header.map Line.plain
  blocks := d.blocks.map Block.plain

/-- The line is of one of the three kinds.  Its names have no blank in them, and neither names nor
values have a comma or a line feed.  Signs of equality do no harm. -/
structure Line.Clean (l : Line) : Prop where
  kind : l.kind = .parameter ∨ l.kind = .port ∨ l.kind = .busInterface
  names : ∀ a ∈ l.assignments, ' ' ∉ a.name.toList ∧ ',' ∉ a.name.toList ∧ '\n' ∉ a.name.toList
  values : ∀ a ∈ l.assignments, ',' ∉ a.value.text.toList ∧ '\n' ∉ a.value.text.toList

/-- All lines are clean, and the names of blocks are on one line. -/
structure Clean (d : Descriptor) : Prop where
  header : ∀ l ∈ d.header, l.Clean
  names : ∀ b ∈ d.blocks, '\n' ∉ b.name.toList
  lines : ∀ b ∈ d.blocks, ∀ l ∈ b.lines, l.Clean

instance (l : Line) : Decidable l.Clean :=
  decidable_of_iff (_ ∧ _ ∧ _)
    ⟨fun h => ⟨h.1, h.2.1, h.2.2⟩, fun h => ⟨h.kind, h.names, h.values⟩⟩

instance (d : Descriptor) : Decidable d.Clean :=
  decidable_of_iff (_ ∧ _ ∧ _)
    ⟨fun h => ⟨h.1, h.2.1, h.2.2⟩, fun h => ⟨h.header, h.names, h.lines⟩⟩

/-! ## Lines -/

def Kind.ofName (name : String) : Kind :=
  if name = "PARAMETER" then .parameter
  else if name = "PORT" then .port
  else if name = "BUS_INTERFACE" then .busInterface
  else .other 3

def Assignment.read (s : String) : Assignment where
  name := Text.before ' ' s
  value := .ident (Text.dropFront 3 (Text.onward ' ' s))

/-- A line, without indentation. -/
def Line.read (s : String) : Line where
  kind := .ofName (Text.before ' ' s)
  assignments :=
    if Text.onward ' ' s = "" then []
    else (Text.split ',' (Text.onward ' ' s)).map fun part => .read (Text.dropFront 1 part)

namespace Line

/-- Every assignment has a blank in front, and commas stand between them. -/
theorem text_eq (l : Line) :
    l.text = l.kind.name ++ Text.join "," (l.assignments.map fun a => " " ++ assignmentText a) := by
  unfold text
  cases l.assignments with
  | nil => exact (String.append_empty ..).symm
  | cons a as =>
    have hjoin := Text.join_append_sep "," " " (assignmentText a) (as.map assignmentText)
    rw [← List.map_cons, List.map_map] at hjoin
    show l.kind.name ++ " " ++ Text.join ", " _ = _
    rw [String.append_assoc]
    exact congrArg _ hjoin

@[simp] theorem text_plain (l : Line) : l.plain.text = l.text := by
  rw [text_eq, text_eq, plain, List.map_map]
  rfl

variable {l : Line}

theorem Clean.kind_name (h : l.Clean) :
    ' ' ∉ l.kind.name.toList ∧ '\n' ∉ l.kind.name.toList ∧ l.kind.name ≠ "" ∧
      Kind.ofName l.kind.name = l.kind := by
  rcases h.kind with hk | hk | hk
  all_goals
    rw [hk]
    decide

theorem text_ne_empty (h : l.Clean) : l.text ≠ "" := by
  rw [text_eq, ne_eq, String.append_eq_empty_iff]
  exact fun hempty => h.kind_name.2.2.1 hempty.1

theorem newline_not_mem_text (h : l.Clean) : '\n' ∉ l.text.toList := by
  have hparts : ∀ part ∈ l.assignments.map (fun a => " " ++ assignmentText a),
      '\n' ∉ part.toList := by
    intro part hpart
    obtain ⟨a, ha, rfl⟩ := List.mem_map.1 hpart
    simp [assignmentText, (h.names a ha).2.2, (h.values a ha).2]
  rw [text_eq, String.toList_append, List.mem_append, not_or]
  exact ⟨h.kind_name.2.1, Text.not_mem_join (by decide) hparts⟩

/-- The blank behind the name is the first one. -/
theorem read_assignmentText {a : Assignment} (h : ' ' ∉ a.name.toList) :
    Assignment.read (assignmentText a) = { a with value := .ident a.value.text } := by
  have htext : assignmentText a = a.name ++ (" = " ++ a.value.text) := String.append_assoc ..
  obtain ⟨hbefore, honward⟩ := Text.cut_append a.name (" = " ++ a.value.text) h (by simp)
  have hvalue : Text.dropFront 3 (" = " ++ a.value.text) = a.value.text :=
    Text.dropFront_append " = " a.value.text
  rw [htext, Assignment.read, hbefore, honward, hvalue]

/-- Whatever stands behind the kind begins with a blank. -/
theorem join_blank {as : List Assignment} (h : as ≠ []) :
    ∃ rest, Text.join "," (as.map fun a => " " ++ assignmentText a) = " " ++ rest := by
  cases as with
  | nil => exact absurd rfl h
  | cons a as => exact ⟨_, Text.join_append_cons ..⟩

/-- Written and read again, a line is the same up to the sorts of its values. -/
theorem read_text (h : l.Clean) : read l.text = l.plain := by
  obtain ⟨hblank, -, -, hkind⟩ := h.kind_name
  by_cases hnone : l.assignments = []
  · obtain ⟨hbefore, honward⟩ := Text.cut_append l.kind.name "" hblank (by simp)
    rw [text_eq, plain, hnone]
    show read (l.kind.name ++ "") = _
    rw [read, hbefore, honward, hkind]
    rfl
  · obtain ⟨rest, hrest⟩ := join_blank hnone
    obtain ⟨hbefore, honward⟩ := Text.cut_append l.kind.name (" " ++ rest) hblank (by simp)
    have hcommas : ∀ part ∈ l.assignments.map (fun a => " " ++ assignmentText a),
        ',' ∉ part.toList := by
      intro part hpart
      obtain ⟨a, ha, rfl⟩ := List.mem_map.1 hpart
      simp [assignmentText, (h.names a ha).2.1, (h.values a ha).1]
    have hsplit : Text.split ',' (" " ++ rest) =
        l.assignments.map fun a => " " ++ assignmentText a := by
      rw [← hrest]
      exact Text.split_join_singleton (by simpa using hnone) hcommas
    have hread : (l.assignments.map fun a => " " ++ assignmentText a).map
        (fun part => Assignment.read (Text.dropFront 1 part)) =
          l.assignments.map fun a => { a with value := .ident a.value.text } := by
      rw [List.map_map]
      refine List.map_congr_left fun a ha => ?_
      rw [Function.comp_apply, Text.dropFront_blank, read_assignmentText (h.names a ha).1]
    rw [text_eq, hrest, read, hbefore, honward, hkind, if_neg (by simp), hsplit, hread, plain]

end Line

/-! ## Blocks -/

/-- The lines of a block, without the blank one in front. -/
def Block.rows (b : Block) : List String :=
  ("BEGIN " ++ b.name) :: b.lines.map (fun l => " " ++ l.text) ++ ["END"]

def Block.read (rows : List String) : Block where
  name := Text.dropFront 6 (rows.headD "")
  lines := rows.tail.dropLast.map fun row => .read (Text.dropFront 1 row)

namespace Block

variable {b : Block}

theorem text_plain (b : Block) : b.plain.text = b.text := by
  simp [text, plain, Function.comp_def]

theorem read_rows (h : ∀ l ∈ b.lines, l.Clean) : read b.rows = b.plain := by
  have hname : Text.dropFront 6 ("BEGIN " ++ b.name) = b.name :=
    Text.dropFront_append "BEGIN " b.name
  have hlines : (b.lines.map fun l => " " ++ l.text).map
      (fun row => Line.read (Text.dropFront 1 row)) = b.lines.map Line.plain := by
    rw [List.map_map]
    refine List.map_congr_left fun l hl => ?_
    rw [Function.comp_apply, Text.dropFront_blank, Line.read_text (h l hl)]
  unfold read rows plain
  rw [List.cons_append, List.headD_cons, List.tail_cons, List.dropLast_concat, hname, hlines]

/-- A row of a block is neither blank nor more than one line. -/
theorem rows_proper (hname : '\n' ∉ b.name.toList) (h : ∀ l ∈ b.lines, l.Clean) :
    ∀ row ∈ b.rows, row ≠ "" ∧ '\n' ∉ row.toList := by
  intro row hrow
  rcases List.mem_append.1 hrow with hrow | hrow
  · rcases List.mem_cons.1 hrow with rfl | hrow
    · simp [hname]
    · obtain ⟨l, hl, rfl⟩ := List.mem_map.1 hrow
      simp [Line.newline_not_mem_text (h l hl)]
  · rw [List.mem_singleton.1 hrow]
    decide

end Block

/-! ## Descriptors -/

/-- The lines of the header, and those of each block. -/
def groups (d : Descriptor) : List (List String) :=
  d.header.map Line.text :: d.blocks.map Block.rows

/-- Blank lines are where blocks begin. -/
def read (text : String) : Descriptor :=
  let groups := (Text.split '\n' text).dropLast.splitOn ""
  { header := (groups.headD []).map Line.read, blocks := groups.tail.map Block.read }

/-- The text shows no more than the plain descriptor. -/
theorem text_plain (d : Descriptor) : d.plain.text = d.text := by
  simp [text, plain, Function.comp_def, Block.text_plain]

theorem intercalate_cons {α : Type} (a : α) (as : List α) (ass : List (List α)) :
    [a].intercalate (as :: ass) = as ++ ass.flatMap (a :: ·) := by
  induction ass generalizing as with
  | nil => simp
  | cons bs ass ih =>
    rw [List.intercalate_cons_cons, ih]
    simp

theorem mem_intercalate {α : Type} {a sep : α} {ass : List (List α)}
    (h : a ∈ [sep].intercalate ass) : a = sep ∨ ∃ as ∈ ass, a ∈ as := by
  cases ass with
  | nil => simp at h
  | cons as ass =>
    rw [intercalate_cons] at h
    rcases List.mem_append.1 h with h | h
    · exact .inr ⟨as, List.mem_cons_self, h⟩
    · obtain ⟨bs, hbs, h⟩ := List.mem_flatMap.1 h
      rcases List.mem_cons.1 h with rfl | h
      · exact .inl rfl
      · exact .inr ⟨bs, List.mem_cons_of_mem _ hbs, h⟩

theorem text_eq_join (d : Descriptor) :
    d.text = Text.join "\n" ([""].intercalate d.groups ++ [""]) := by
  rw [← Text.join_ended, groups, intercalate_cons]
  apply String.toList_inj.1
  simp [text, Block.text, Block.rows, String.toList_join, List.flatMap_map, List.flatMap_assoc]

section Clean

variable {d : Descriptor} (h : d.Clean)

include h

theorem groups_proper : ∀ group ∈ d.groups, ∀ row ∈ group, row ≠ "" ∧ '\n' ∉ row.toList := by
  intro group hgroup row hrow
  rcases List.mem_cons.1 hgroup with rfl | hgroup
  · obtain ⟨l, hl, rfl⟩ := List.mem_map.1 hrow
    exact ⟨Line.text_ne_empty (h.header l hl), Line.newline_not_mem_text (h.header l hl)⟩
  · obtain ⟨b, hb, rfl⟩ := List.mem_map.1 hgroup
    exact Block.rows_proper (h.names b hb) (h.lines b hb) row hrow

/-- Cut at the line feeds, a text falls into its rows. -/
theorem split_text : Text.split '\n' d.text = [""].intercalate d.groups ++ [""] := by
  rw [text_eq_join]
  refine Text.split_join_singleton (by simp) fun row hrow => ?_
  rcases List.mem_append.1 hrow with hrow | hrow
  · rcases mem_intercalate hrow with rfl | ⟨group, hgroup, hrow⟩
    · exact List.not_mem_nil
    · exact (groups_proper h group hgroup row hrow).2
  · rw [List.mem_singleton.1 hrow]
    exact List.not_mem_nil

theorem read_text : read d.text = d.plain := by
  have hblank : ∀ group ∈ d.groups, "" ∉ group := fun group hgroup hmem =>
    (groups_proper h group hgroup "" hmem).1 rfl
  have hheader : (d.header.map Line.text).map Line.read = d.header.map Line.plain := by
    rw [List.map_map]
    exact List.map_congr_left fun l hl => Line.read_text (h.header l hl)
  have hblocks : (d.blocks.map Block.rows).map Block.read = d.blocks.map Block.plain := by
    rw [List.map_map]
    exact List.map_congr_left fun b hb => Block.read_rows (h.lines b hb)
  unfold read
  rw [split_text h, List.dropLast_concat, List.splitOn_intercalate "" hblank (List.cons_ne_nil _ _)]
  show Descriptor.mk ((d.header.map Line.text).map Line.read)
    ((d.blocks.map Block.rows).map Block.read) = _
  rw [hheader, hblocks, plain]

end Clean

/-- Two descriptors have the same text if and only if they have the same lines and blocks in the
same order, with the same kinds and names, and with values that are written alike. -/
theorem text_eq_iff (d d' : Descriptor) (h : d.Clean) (h' : d'.Clean) :
    d.text = d'.text ↔ d.plain = d'.plain := by
  constructor
  · intro htext
    rw [← read_text h, ← read_text h', htext]
  · intro hplain
    rw [← text_plain d, ← text_plain d', hplain]

/-- A descriptor with a header of its own and a block. -/
def buttons (width lines : Value) : Descriptor where
  header := [(Line.port "RESET" (.ident "RESET")).also "DIR" (.ident "I")]
  blocks := [
    { name := "axi_gpio"
      lines := [.parameter "C_GPIO_WIDTH" width, { kind := .busInterface }, .port "Intr" lines] }]

theorem text_eq_iff_buttons :
    (buttons (.number 5) (.concat [.ident "left", .ident "right"])).Clean ∧
      (buttons (.ident "5") (.ident "left & right")).Clean ∧
      (buttons (.number 5) (.concat [.ident "left", .ident "right"])).plain =
        (buttons (.ident "5") (.ident "left & right")).plain :=
  ⟨by decide, by decide, (text_eq_iff _ _ (by decide) (by decide)).1 (by decide)⟩

/-- With a comma in a value there are two readings. -/
example : (Line.port "CLK" (.ident "clock, DIR = I")).text =
    ((Line.port "CLK" (.ident "clock")).also "DIR" (.ident "I")).text := by decide

end Descriptor

end Boardwright
