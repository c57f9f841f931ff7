import Boardwright.Decimal

/-!
# TOML documents

A document is a table of keyed items.  Tables and items remember the line they come from, so that
a fault can be placed; inside inline tables no key has a line.
-/

namespace Boardwright.Toml

/-- A number with a fractional part or an exponent, kept as it was written. -/
inductive Real where
  | finite (negative : Bool) (size : Decimal)
  | infinite (negative : Bool)
  | undefined
  deriving DecidableEq, Repr, Inhabited

/-- A table of items of type `α`.  Each entry holds its key, its line and its item. -/
structure TableOf (α : Type) where
  /-- Line of the header, or zero. -/
  line : Nat := 0
  /-- Made inside an inline table, so that its line counts for its entries but not for itself. -/
  floating : Bool := false
  /-- Written inline, so that nothing can be added from outside. -/
  closed : Bool := false
  entries : List (String × Nat × α) := []
  deriving Repr, Inhabited

inductive Item where
  | string (text : String)
  /-- An integer of 64 bits with sign. -/
  | integer (value : Int64)
  /-- A larger integer that still fits in 64 bits without sign. -/
  | unsigned (value : Nat)
  | real (value : Real)
  | boolean (value : Bool)
  /-- A date, a time of day or both. -/
  | moment
  | array (items : List Item)
  | table (table : TableOf Item)
  /-- One or more tables under one key. -/
  | tables (tables : List (TableOf Item))
  deriving Repr, Inhabited

abbrev Table := TableOf Item

namespace Table

def entry? (t : Table) (key : String) : Option (Nat × Item) :=
  (t.entries.find? (·.1 == key)).map (·.2)

/-- The item under a key. -/
def get? (t : Table) (key : String) : Option Item := (t.entry? key).map (·.2)

/-- The line of the entry under a key: that of a table itself, that of the last one of several
tables, and that of the key otherwise.  An entry may be without a line. -/
def line? (t : Table) (key : String) : Option Nat :=
  let own (sub : Table) := if sub.floating then 0 else sub.line
  let line := match t.entry? key with
    | none => 0
    | some (_, .table sub) => own sub
    | some (_, .tables subs) => (subs.getLast?.map own).getD 0
    | some (line, _) => line
  if line = 0 then none else some line

/-- The table with an entry added, or replaced in place. -/
def put (t : Table) (key : String) (line : Nat) (item : Item) : Table :=
  if t.entries.any (·.1 == key) then
    { t with entries := t.entries.map fun e => if e.1 == key then (key, line, item) else e }
  else { t with entries := t.entries ++ [(key, line, item)] }

/-- Applies a change to the last of several tables. -/
def changeLast (f : Table → Option Table) : List Table → Option (List Table)
  | [] => none
  | [t] => (f t).map ([·])
  | t :: ts => (changeLast f ts).map (t :: ·)

/-- The item at a path of keys.  Of several tables under one key the last one is meant. -/
def find? (t : Table) : List String → Option Item
  | [] => some (.table t)
  | [key] => t.get? key
  | key :: path => match t.get? key with
    | some (.table sub) => find? sub path
    | some (.tables subs) => match subs.getLast? with
      | some sub => find? sub path
      | none => none
    | _ => none

/-- Makes sure that there is a table at a path.  New tables get the given line, and they are
closed if they are created inside a closed table.  A plain item on the way is an error. -/
def enter (t : Table) (line : Nat) : List String → Option Table
  | [] => some t
  | key :: path => match t.entry? key with
    | none => (enter { line, closed := t.closed } line path).map fun sub => t.put key line (.table sub)
    | some (at_, .table sub) => (enter sub line path).map fun sub => t.put key at_ (.table sub)
    | some (at_, .tables subs) =>
      (changeLast (fun sub => enter sub line path) subs).map fun subs => t.put key at_ (.tables subs)
    | some _ => none

/-- Applies a change to the table at a path, which has to be there. -/
def change (t : Table) (f : Table → Option Table) : List String → Option Table
  | [] => f t
  | key :: path => match t.entry? key with
    | some (at_, .table sub) => (change sub f path).map fun sub => t.put key at_ (.table sub)
    | some (at_, .tables subs) =>
      (changeLast (fun sub => change sub f path) subs).map fun subs => t.put key at_ (.tables subs)
    | _ => none

/-- Puts an item at a path, creating tables on the way.  The first key stands for `line`, and each
further key for one line more; a new table gets the line of its key.  Where a plain item is in the
way, the rest of the path counts from the table that holds it. -/
def set (t : Table) (item : Item) (line : Nat) (floating : Bool) : List String → Table
  | [] => t
  | [key] => t.put key 0 item
  | key :: path => match t.entry? key with
    | none => t.put key 0 (.table (set { line, floating } item (line + 1) floating path))
    | some (at_, .table sub) =>
      t.put key at_ (.table (set sub item (line + 1) floating path))
    | some (at_, .tables subs) =>
      match changeLast (fun sub => some (set sub item (line + 1) floating path)) subs with
      | some subs => t.put key at_ (.tables subs)
      | none => t
    | some _ => set t item (line + 1) floating path

end Table

end Boardwright.Toml
