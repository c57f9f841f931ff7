import Boardwright.Toml.Key
import Boardwright.Toml.Number

/-!
# Reading TOML

`Toml.parse?` turns a text into a table, or into nothing if the text is malformed: a token out of
place, a key or table given twice, or a table opened where something else already is.
-/

namespace Boardwright.Toml

/-- An array whose items are all tables is several tables under one key. -/
def arrayOf (items : List Item) : Item :=
  let subs := items.filterMap fun
    | .table t => some t
    | _ => none
  if !items.isEmpty && subs.length = items.length then .tables subs else .array items

/-- A date, with the time and zone that may follow it. -/
def dateValue (date : List Char) : List Lexeme → Option (Item × List Lexeme)
  | ⟨_, .time time⟩ :: ⟨_, .offset offset⟩ :: rest =>
    if isDate date && isTime time && isOffset offset then some (.moment, rest) else none
  | ⟨_, .time time⟩ :: rest => if isDate date && isTime time then some (.moment, rest) else none
  | rest => if isDate date then some (.moment, rest) else none

mutual

/-- One value and the tokens behind it. -/
def value : Nat → List Lexeme → Option (Item × List Lexeme)
  | 0, _ => none
  | _ + 1, [] => none
  | fuel + 1, lexeme :: rest => match lexeme.token with
    | .string text => some (.string (String.ofList text), rest)
    | .boolean b => some (.boolean b, rest)
    | .integer text => (integer? text).map (·, rest)
    | .real text => (real? text).map (·, rest)
    | .infinite negative => some (.real (.infinite negative), rest)
    | .undefined => some (.real .undefined, rest)
    | .time text => if isTime text then some (.moment, rest) else none
    | .date text => dateValue text rest
    | .openArray => (arrayItems fuel rest).map fun (items, rest) => (arrayOf items, rest)
    | .openTable => match rest with
      | ⟨_, .closeTable⟩ :: rest => some (.table { closed := true }, rest)
      | _ => (fields fuel {} rest).map fun (t, rest) => (.table { t with closed := true }, rest)
    | _ => none

/-- The items of an array up to its closing bracket.  A comma may stand before it. -/
def arrayItems : Nat → List Lexeme → Option (List Item × List Lexeme)
  | 0, _ => none
  | fuel + 1, lexemes => match lexemes with
    | ⟨_, .closeArray⟩ :: rest => some ([], rest)
    | _ => do
      let (item, rest) ← value fuel lexemes
      match rest with
      | ⟨_, .closeArray⟩ :: rest => return ([item], rest)
      | ⟨_, .comma⟩ :: rest =>
        let (items, rest) ← arrayItems fuel rest
        return (item :: items, rest)
      | _ => none

/-- The fields of an inline table up to its closing brace, at least one. -/
def fields : Nat → Table → List Lexeme → Option (Table × List Lexeme)
  | 0, _, _ => none
  | fuel + 1, t, lexemes => match lexemes with
    | ⟨_, .key text⟩ :: ⟨_, .equals⟩ :: rest => do
      let path ← splitKey text
      let (item, rest) ← value fuel rest
      let t := t.set item 0 true path
      match rest with
      | ⟨_, .closeTable⟩ :: rest => return (t, rest)
      | ⟨_, .comma⟩ :: rest => fields fuel t rest
      | _ => none
    | _ => none

end

/-- A document under construction. -/
structure Draft where
  tree : Table := { line := 1 }
  /-- Where plain keys go. -/
  current : List String := []
  /-- Headers that were used, as written. -/
  seen : List (List Char) := []

namespace Draft

/-- Opens a table. -/
def openTable (d : Draft) (line : Nat) (name : List Char) : Option Draft := do
  if d.seen.contains name then none
  else
    let path ← splitKey name
    let tree ← d.tree.enter line path
    match tree.find? path with
    | some (.table t) =>
      if t.closed then none else return { tree, current := path, seen := d.seen ++ [name] }
    | _ => return { tree, current := path, seen := d.seen ++ [name] }

/-- Adds a table to the tables of a key.  Headers below that key may be used again. -/
def openElement (d : Draft) (line : Nat) (name : List Char) : Option Draft := do
  let path ← splitKey name
  let tree := (d.tree.enter line path.dropLast).getD d.tree
  let subs ← match tree.find? path with
    | none => some []
    | some (.tables subs) => some subs
    | some _ => none
  let seen := d.seen.filter fun other => !(name ++ ['.']).isPrefixOf other
  return { tree := tree.set (.tables (subs ++ [{ line }])) 1 false path, current := path
           seen := if seen.contains name then seen else seen ++ [name] }

/-- Gives a key its item.  The key must be new, and its table open. -/
def assign (d : Draft) (line : Nat) (key : List Char) (item : Item) : Option Draft := do
  let parts ← splitKey key
  let path := d.current ++ parts.dropLast
  let name ← parts.getLast?
  let tree ← match d.tree.find? path with
    | none => d.tree.enter line path
    | some (.table _) => some d.tree
    | some (.tables _) => some d.tree
    | some _ => none
  let tree ← tree.change
    (fun t => if t.closed || (t.get? name).isSome then none else some (t.put name line item)) path
  return { d with tree }

/-- Reads statement after statement. -/
def read : Nat → Draft → List Lexeme → Option Draft
  | _, d, [] => some d
  | 0, _, _ => none
  | fuel + 1, d, lexeme :: rest => match lexeme.token with
    | .openArray => match rest with
      | ⟨_, .name name⟩ :: ⟨_, .closeArray⟩ :: rest => do
        read fuel (← d.openTable lexeme.line name) rest
      | _ => none
    | .arrayHeader name => do read fuel (← d.openElement lexeme.line name) rest
    | .key text => match rest with
      | ⟨_, .equals⟩ :: rest => do
        let (item, rest) ← value (rest.length + 1) rest
        read fuel (← d.assign lexeme.line text item) rest
      | _ => none
    | _ => none

end Draft

/-- A byte order mark at the start of a text is not part of it. -/
def dropMark : List Char → List Char
  | c :: cs => if c.toNat = 0xfeff then cs else c :: cs
  | [] => []

/-- The table that a text describes. -/
def parse? (text : String) : Option Table := do
  let lexemes ← tokens (dropMark text.toList)
  let d ← Draft.read (lexemes.length + 1) {} lexemes
  return d.tree

end Boardwright.Toml
