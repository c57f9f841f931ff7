import Boardwright.Toml.Strict.Number
import Boardwright.Toml.Strict.Site
import Boardwright.Toml.Strict.Text

/-!
# Strict documents

`Toml.Strict.parse?` reads a document with one statement on a line and no liberties.  It knows no
lines, since nothing in such a document is reported by its place.
-/

namespace Boardwright.Toml.Strict

/-- A table made from keys and their items.  No key is defined twice. -/
def tableOf? (fields : List (List String × Item)) : Option Table := do
  let _ ← fields.foldlM (fun (s : Sites) (path, _) => s.assign? [] path) {}
  return fields.foldl (fun t (path, item) => t.set item 0 false path) {}

mutual

/-- One value and the text behind it. -/
def value : Nat → List Char → Option (Item × List Char)
  | 0, _ => none
  | fuel + 1, cs => match cs with
    | '"' :: _ | '\x27' :: _ => (stringValue? cs).map fun (text, rest) =>
        (.string (String.ofList text), rest)
    | 't' :: 'r' :: 'u' :: 'e' :: rest => some (.boolean true, rest)
    | 'f' :: 'a' :: 'l' :: 's' :: 'e' :: rest => some (.boolean false, rest)
    | '[' :: rest => (arrayItems fuel rest).map fun (items, rest) => (.array items, rest)
    | '{' :: rest => do
      let (fields, rest) ← match skipBlanks rest with
        | '}' :: rest => some ([], rest)
        | rest => fields fuel rest
      return (.table (← tableOf? fields), rest)
    | _ => plainValue cs

/-- The items of an array up to its closing bracket.  A comma may stand before it. -/
def arrayItems : Nat → List Char → Option (List Item × List Char)
  | 0, _ => none
  | fuel + 1, cs => do
    match ← skipLines (cs.length + 1) cs with
    | ']' :: rest => return ([], rest)
    | cs =>
      let (item, rest) ← value fuel cs
      match ← skipLines (rest.length + 1) rest with
      | ',' :: rest =>
        let (items, rest) ← arrayItems fuel rest
        return (item :: items, rest)
      | ']' :: rest => return ([item], rest)
      | _ => none

/-- The fields of an inline table up to its closing brace, at least one. -/
def fields : Nat → List Char → Option (List (List String × Item) × List Char)
  | 0, _ => none
  | fuel + 1, cs => do
    let (path, rest) ← key (cs.length + 1) cs
    let rest ← exactly '=' rest
    let (item, rest) ← value fuel (skipBlanks rest)
    match skipBlanks rest with
    | ',' :: rest =>
      let (more, rest) ← fields fuel (skipBlanks rest)
      return ((path, item) :: more, rest)
    | '}' :: rest => return ([(path, item)], rest)
    | _ => none

end

/-- A statement of a document. -/
inductive Statement where
  | header (path : List String)
  | arrayHeader (path : List String)
  | assign (path : List String) (item : Item)

/-- One statement, from its first character on. -/
def statement (cs : List Char) : Option (Statement × List Char) :=
  match cs with
  | '[' :: '[' :: cs => do
    let (path, rest) ← key (cs.length + 1) (skipBlanks cs)
    let rest ← exactly ']' rest
    return (.arrayHeader path, ← exactly ']' rest)
  | '[' :: cs => do
    let (path, rest) ← key (cs.length + 1) (skipBlanks cs)
    return (.header path, ← exactly ']' rest)
  | cs => do
    let (path, rest) ← key (cs.length + 1) cs
    let (item, rest) ← value (cs.length + 1) (skipBlanks (← exactly '=' rest))
    return (.assign path item, rest)

/-- The statements of a document, line after line. -/
def statements : Nat → List Char → Option (List Statement)
  | 0, _ => none
  | fuel + 1, cs =>
    let finish (cs : List Char) : Option (List Statement) := do
      match ← endOfLine? cs with
      | [] => return []
      | cs => statements fuel (← afterBreak? cs)
    match skipBlanks cs with
    | [] => some []
    | c :: cs =>
      if c = '#' || c = '\n' || c = '\r' then finish (c :: cs)
      else do
        let (statement, rest) ← statement (c :: cs)
        return statement :: (← finish rest)

/-- A document under construction. -/
structure Draft where
  tree : Table := {}
  sites : Sites := {}

/-- Carries out a statement, if what it defines is not there yet. -/
def Draft.add? (d : Draft) : Statement → Option Draft
  | .header path => do
    return { tree := ← d.tree.enter 0 path, sites := ← d.sites.openTable? path }
  | .arrayHeader path => do
    let sites ← d.sites.openElement? path
    let subs := match d.tree.find? path with
      | some (.tables subs) => subs
      | _ => []
    return { tree := d.tree.set (.tables (subs ++ [{}])) 0 false path, sites }
  | .assign path item => do
    let sites ← d.sites.assign? d.sites.current path
    return { tree := d.tree.set item 0 false (d.sites.current ++ path), sites }

/-- The table that a strict document describes. -/
def parse? (text : String) : Option Table := do
  let d ← (← statements (text.length + 1) text.toList).foldlM Draft.add? {}
  return d.tree

end Boardwright.Toml.Strict
