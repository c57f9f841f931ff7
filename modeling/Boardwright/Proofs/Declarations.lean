import Boardwright.Proofs.Decoding

/-!
# Media and schedulers that a document declares

A document declares its medium and its scheduler by a table each.  The key may
hold one table, several tables or something else, and only the first is what the
format asks for.  This module shows what becomes of the declaration in each case.

* Entries.  `mediumOptions_entries` says that the options of a medium are the
  entries of its table, in a fixed order, and `lines_item` that lines of code are
  the strings of an array.
* Tables.  `MediumKept` and `CodeFrom` are what it means for a medium and for a
  piece of code to come from a table with nothing lost; `mediumOf_kept` and
  `code_from` show them of what is read without a fault.
* Documents.  `Honoured` says that an accepted board has what its document
  declares.

Something that is no table is refused, but several tables for one key are passed
over, whatever they say; `rivalTable` is a document where a medium gets lost in
that way.
-/

namespace Boardwright

/-- Two choices agree if they agree element by element. -/
theorem filterMap_eq_of_map_eq {α β γ : Type} {f : α → Option γ} {g : β → Option γ} {as : List α}
    {bs : List β} (h : as.map f = bs.map g) : as.filterMap f = bs.filterMap g := by
  calc as.filterMap f = (as.map f).filterMap id := by rw [List.filterMap_map, Function.id_comp]
    _ = (bs.map g).filterMap id := by rw [h]
    _ = bs.filterMap g := by rw [List.filterMap_map, Function.id_comp]

/-- The entry that gives an option. -/
def MediumOption.entry : MediumOption → String × Toml.Item
  | .mac text => ("mac", .string text)
  | .ip text => ("ip", .string text)
  | .mask text => ("mask", .string text)
  | .gateway text => ("gateway", .string text)
  | .port n => ("port", .integer n)

namespace Board.Decode

open Toml (Table Item)

variable {file : String} {t : Table} {key : String}

/-! ## Entries -/

/-- The entries of a table under some keys, in the order of the keys. -/
def entriesAt (t : Table) (keys : List String) : List (String × Item) :=
  keys.filterMap fun key => (t.get? key).map (key, ·)

/-- The keys of medium options. -/
def optionKeys : List String := ["mac", "ip", "mask", "gateway", "port"]

theorem natural_item (h : (natural file t key).faults = []) :
    t.get? key = (natural file t key).value.map .integer := by
  unfold natural at h ⊢
  split at h
  · assumption
  · split at h
    · cases h
    · next hitem hn =>
      rw [hitem, if_neg hn]
      rfl
  · cases h

theorem mediumOptions_entries (h : (mediumOptions file t).faults = []) :
    (mediumOptions file t).value.map MediumOption.entry = entriesAt t optionKeys := by
  simp only [mediumOptions, Reading.bind_faults, List.append_eq_nil_iff] at h
  obtain ⟨hmac, hip, hmask, hgateway, hport, -⟩ := h
  have hmac := string_clean hmac
  have hip := string_clean hip
  have hmask := string_clean hmask
  have hgateway := string_clean hgateway
  have hport := natural_item hport
  simp only [mediumOptions, Reading.bind_value, Reading.pure_value, entriesAt, optionKeys]
  rw [List.map_filterMap]
  -- Key by key, the option and the entry are there together.
  apply filterMap_eq_of_map_eq
  simp only [List.map_cons, List.map_nil, id_eq, hmac, hip, hmask, hgateway, hport,
    Option.map_map]
  rfl

theorem stringItems?_eq {items : List Item} {texts : List String}
    (h : stringItems? items = some texts) : items = texts.map .string := by
  induction items generalizing texts with
  | nil =>
    obtain rfl : [] = texts := Option.some_inj.1 h
    rfl
  | cons item items ih =>
    cases item with
    | string text =>
      obtain ⟨rest, hrest, rfl⟩ := Option.map_eq_some_iff.1 h
      rw [ih hrest]
      rfl
    | _ => cases h

theorem lines_item (h : (lines file t key).faults = []) :
    t.get? key = (lines file t key).value.map fun texts => .array (texts.map .string) := by
  unfold lines at h ⊢
  split
  · assumption
  · next items hitem =>
    cases htexts : stringItems? items with
    | some texts =>
      rw [hitem, stringItems?_eq htexts]
      rfl
    | none =>
      simp only [hitem, htexts] at h
      cases h
  · next hother =>
    simp only [hother] at h
    cases h

/-! ## Tables -/

/-- A medium comes from a table, and a network medium with all options that the table
gives. -/
structure MediumKept (file : String) (t : Table) (m : Medium) : Prop extends
    MediumFrom file t m where
  options : m.name = "ethernet" ∨ m.name = "ethernet_lite" →
    m.options.map MediumOption.entry = entriesAt t optionKeys

/-- Code comes from an entry: exactly its lines or, if there is none, the default. -/
inductive CodeFrom (t : Table) (key : String) : Code → Prop where
  | user (texts : List String) (h : t.get? key = some (.array (texts.map .string))) :
    CodeFrom t key (.user texts)
  | default (h : t.get? key = none) : CodeFrom t key .default

theorem mediumOf_options (file : String) (t : Table)
    (h : (mediumOf file t).value.name = "ethernet" ∨ (mediumOf file t).value.name = "ethernet_lite") :
    (mediumOf file t).value.options = (mediumOptions file t).value := by
  have hvalue : (mediumOf file t).value ∈ [Medium.none, .uart (place file t "kind"),
      .ethernet (mediumOptions file t).value (place file t "kind"),
      .ethernetLite (mediumOptions file t).value (place file t "kind"),
      .pcie (place file t "kind")] := by
    simp only [mediumOf, Reading.bind_value]
    repeat' split
    all_goals simp [Reading.fail]
  simp only [List.mem_cons, List.not_mem_nil, or_false] at hvalue
  rcases hvalue with hm | hm | hm | hm | hm
  all_goals rw [hm] at h ⊢
  case inr.inr.inl => rfl
  case inr.inr.inr.inl => rfl
  all_goals exact absurd h (by simp [Medium.name])

theorem mediumOf_kept (h : (mediumOf file t).faults = []) :
    MediumKept file t (mediumOf file t).value := by
  refine ⟨mediumOf_clean h, fun hname => ?_⟩
  rw [mediumOf_options file t hname]
  simp only [mediumOf, Reading.bind_faults, List.append_eq_nil_iff] at h
  exact mediumOptions_entries h.2.1

theorem code_from (h : (code file t key).faults = []) : CodeFrom t key (code file t key).value := by
  have hfaults : (lines file t key).faults = [] := by
    simp only [code, Reading.bind_faults, List.append_eq_nil_iff] at h
    exact h.1
  have hitem := lines_item hfaults
  simp only [code, Reading.bind_value]
  cases hvalue : (lines file t key).value with
  | some texts =>
    rw [hvalue] at hitem
    exact .user texts hitem
  | none =>
    rw [hvalue] at hitem
    exact .default hitem

/-- Something that is no table is refused. -/
theorem tables_item {item : Item} (h : (tables file t key).faults = [])
    (hitem : t.get? key = some item) : (∃ sub, item = .table sub) ∨ ∃ ts, item = .tables ts := by
  unfold tables at h
  rw [hitem] at h
  cases item with
  | table sub => exact .inl ⟨sub, rfl⟩
  | tables ts => exact .inr ⟨ts, rfl⟩
  | _ => cases h

/-! ## Documents -/

/-- There are not several tables under a key, nor an empty list of them. -/
def Single (t : Table) (key : String) : Prop :=
  ∀ ts, t.get? key = some (.tables ts) → ts.length = 1

/-- Some scheduler table has code. -/
def HasCode (t : Table) : Prop := ∃ sub ∈ tablesAt t "scheduler", sub.get? "code" ≠ none

/-- What a document declares is what the board has: the medium comes from the one table
for it, and so does the code of the scheduler. -/
structure Honoured (file : String) (t : Table) (b : Board) : Prop where
  medium : t.get? "medium" ≠ none →
    ∃ sub, tablesAt t "medium" = [sub] ∧ MediumKept file sub b.medium
  scheduler : HasCode t →
    ∃ sub, tablesAt t "scheduler" = [sub] ∧ CodeFrom sub "code" b.scheduler.code

/-- One table under a key, if something is there. -/
theorem tablesAt_of_single (h : (tables file t key).faults = []) (hsingle : Single t key)
    (hkey : t.get? key ≠ none) : ∃ sub, tablesAt t key = [sub] := by
  obtain ⟨item, hitem⟩ := Option.ne_none_iff_exists'.1 hkey
  rcases tables_item h hitem with ⟨sub, rfl⟩ | ⟨ts, rfl⟩
  · exact ⟨sub, by simp only [tablesAt, hitem]⟩
  · obtain ⟨sub, rfl⟩ := List.length_eq_one_iff.1 (hsingle ts hitem)
    exact ⟨sub, by simp only [tablesAt, hitem]⟩

theorem single_of_tablesAt {sub : Table} (h : tablesAt t key = [sub]) : Single t key := by
  intro ts hitem
  simp only [tablesAt, hitem] at h
  rw [h]
  rfl

theorem length_ne_one_of_not_single (h : ¬ Single t key) : (tablesAt t key).length ≠ 1 := by
  intro hone
  obtain ⟨sub, hsub⟩ := List.length_eq_one_iff.1 hone
  exact h (single_of_tablesAt hsub)

theorem HasCode.declared (h : HasCode t) : t.get? "scheduler" ≠ none := by
  intro hnone
  obtain ⟨sub, hsub, -⟩ := h
  simp only [tablesAt, hnone] at hsub
  cases hsub

theorem medium_value {ts : List Table} (h : ts.length ≠ 1) : (medium file ts).value = .none := by
  unfold medium
  split
  · exact absurd rfl h
  · rfl

theorem scheduler_code {ts : List Table} (h : ts.length ≠ 1) :
    (scheduler file ts).value.code = .default := by
  unfold scheduler
  split
  · exact absurd rfl h
  · rfl

/-- What it takes of the medium and the scheduler to read a board without a fault. -/
theorem board_parts (h : (board file t).faults = []) :
    (tables file t "medium").faults = [] ∧ (medium file (tablesAt t "medium")).faults = [] ∧
      (tables file t "scheduler").faults = [] ∧
      (scheduler file (tablesAt t "scheduler")).faults = [] := by
  simp only [board, Reading.bind_faults, tables_value, List.append_eq_nil_iff] at h
  obtain ⟨-, -, hmedia, hmedium, hschedulers, hscheduler, -⟩ := h
  exact ⟨hmedia, hmedium, hschedulers, hscheduler⟩

theorem board_medium (file : String) (t : Table) :
    (board file t).value.medium = (medium file (tablesAt t "medium")).value := by
  rw [← tables_value file]
  rfl

theorem board_scheduler (file : String) (t : Table) :
    (board file t).value.scheduler = (scheduler file (tablesAt t "scheduler")).value := by
  rw [← tables_value file]
  rfl

theorem honoured_of_single (h : (board file t).faults = []) (hmedium : Single t "medium")
    (hscheduler : HasCode t → Single t "scheduler") : Honoured file t (board file t).value := by
  obtain ⟨hmedia, hread, hschedulers, hcode⟩ := board_parts h
  constructor
  · intro hkey
    obtain ⟨sub, hsub⟩ := tablesAt_of_single hmedia hmedium hkey
    rw [hsub] at hread
    refine ⟨sub, hsub, ?_⟩
    rw [board_medium, hsub]
    exact mediumOf_kept hread
  · intro hhas
    obtain ⟨sub, hsub⟩ := tablesAt_of_single hschedulers (hscheduler hhas) hhas.declared
    rw [hsub] at hcode
    have hfaults : (code file sub "code").faults = [] := (List.append_eq_nil_iff.1 hcode).1
    refine ⟨sub, hsub, ?_⟩
    rw [board_scheduler, hsub]
    exact code_from hfaults

/-- Several tables for one key have nothing of theirs in the board. -/
theorem Honoured.single {b : Board} (h : Honoured file t b) :
    Single t "medium" ∧ (HasCode t → Single t "scheduler") := by
  constructor
  · intro ts hts
    obtain ⟨sub, hsub, -⟩ := h.medium (by rw [hts]; exact Option.some_ne_none _)
    exact single_of_tablesAt hsub ts hts
  · intro hhas
    obtain ⟨sub, hsub, -⟩ := h.scheduler hhas
    exact single_of_tablesAt hsub

end Board.Decode

open Board.Decode (Honoured Single HasCode)

/-- An accepted board has the medium and the code that its document declares if and only
if the document does not give several tables for the medium, nor for the scheduler while
one of them has code.  Where it does give several tables, none of them counts. -/
theorem declarations_kept_iff_single (file : String) (t : Toml.Table) (b : Board)
    (h : Board.ofTable file t = .ok b) :
    (Honoured file t b ↔ Single t "medium" ∧ (HasCode t → Single t "scheduler")) ∧
      (¬ Single t "medium" → b.medium = .none) ∧
      (¬ Single t "scheduler" → b.scheduler.code = .default) := by
  obtain ⟨hclean, rfl⟩ := Board.board_of_ok h
  refine ⟨⟨Honoured.single, fun hsingle => ?_⟩, fun hseveral => ?_, fun hseveral => ?_⟩
  · exact Board.Decode.honoured_of_single hclean hsingle.1 hsingle.2
  · rw [Board.Decode.board_medium]
    exact Board.Decode.medium_value (Board.Decode.length_ne_one_of_not_single hseveral)
  · rw [Board.Decode.board_scheduler]
    exact Board.Decode.scheduler_code (Board.Decode.length_ne_one_of_not_single hseveral)

/-- A list of one network medium with its options out of order, and a scheduler with
code. -/
def wiredTable : Toml.Table where
  entries := [
    ("medium", 1, .tables [{ line := 1, entries := [
      ("port", 2, .integer 8844), ("ip", 3, .string "192.168.1.10"),
      ("kind", 4, .string "ethernet_lite"), ("mac", 5, .string "00:0a:35:00:01:22")] }]),
    ("scheduler", 6, .table { line := 6, entries := [
      ("code", 7, .array [.string "step();", .string "flush();"])] })]

theorem declarations_kept_iff_single_wired :
    ∃ b, Board.ofTable "wired.toml" wiredTable = .ok b ∧ Honoured "wired.toml" wiredTable b ∧
      b.medium = .ethernetLite [.mac "00:0a:35:00:01:22", .ip "192.168.1.10", .port 8844]
        { file := "wired.toml", line := 4 } ∧
      b.scheduler.code = .user ["step();", "flush();"] := by
  refine ⟨_, rfl, ?_, rfl, rfl⟩
  refine (declarations_kept_iff_single "wired.toml" wiredTable _ rfl).1.2 ⟨?_, fun _ => ?_⟩
  · rintro ts ⟨⟩
    rfl
  · rintro ts ⟨⟩

/-- Two media under one key. -/
def rivalTable : Toml.Table where
  entries := [
    ("medium", 1, .tables [
      { line := 1, entries := [("kind", 2, .string "uart")] },
      { line := 3, entries := [("kind", 4, .string "pcie")] }])]

/-- The document is accepted, and the board has neither medium. -/
theorem rival_media_lost :
    ∃ b, Board.ofTable "rival.toml" rivalTable = .ok b ∧ b.medium = .none ∧
      ¬ Honoured "rival.toml" rivalTable b := by
  refine ⟨_, rfl, rfl, fun hhonoured => ?_⟩
  obtain ⟨sub, hsub, -⟩ := hhonoured.medium (Option.some_ne_none _)
  cases hsub

end Boardwright
