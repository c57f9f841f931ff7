/-!
# What a strict document has defined

Each part of a key that a document uses leaves a site: a value, a table, or a table that can be
repeated.  The sites decide what a later line may still define.  A table with a header is settled,
and so is one that came about by dotted keys as soon as the next header follows.
-/

namespace Boardwright.Toml.Strict

inductive Site.Kind where
  | value
  | table
  | repeated
  deriving DecidableEq, Repr

structure Site where
  path : List String
  kind : Site.Kind
  /-- Nothing can be added by a header or by a dotted key from above. -/
  settled : Bool := false
  /-- Made by the key of a value, since the last header. -/
  keyed : Bool := false
  deriving DecidableEq, Repr

/-- The sites of a document, and the table that plain keys go to. -/
structure Sites where
  current : List String := []
  sites : List Site := []
  deriving DecidableEq, Repr, Inhabited

namespace Sites

def find? (s : Sites) (path : List String) : Option Site := s.sites.find? (·.path == path)

def add (s : Sites) (site : Site) : Sites := { s with sites := s.sites ++ [site] }

/-- Replaces the site at a path. -/
def update (s : Sites) (path : List String) (f : Site → Site) : Sites :=
  { s with sites := s.sites.map fun site => if site.path == path then f site else site }

/-- Whether a path leads from a table to something inside it. -/
def isInside (table path : List String) : Bool := table.isPrefixOf path && table != path

/-- Settles what keys have made inside the current table. -/
def settle (s : Sites) : Sites :=
  { s with sites := s.sites.map fun site =>
      if isInside s.current site.path && site.keyed then { site with settled := true, keyed := false }
      else site }

/-- Defines a value.  Its key is counted from `table`; the tables on the way are made, unless they
are there and not yet settled. -/
def assign? (s : Sites) (table : List String) : List String → Option Sites
  | [] => none
  | [name] =>
    if (s.find? (table ++ [name])).isSome then none
    else some (s.add { path := table ++ [name], kind := .value, keyed := true })
  | name :: rest =>
    match s.find? (table ++ [name]) with
    | none => (s.add { path := table ++ [name], kind := .table, keyed := true }).assign?
        (table ++ [name]) rest
    | some site =>
      if site.kind = .table && !site.settled then s.assign? (table ++ [name]) rest else none

/-- Passes the tables on the way to the one that a header names.  A value is no table. -/
def pass? (s : Sites) (table : List String) : List String → Option Sites
  | [] => some s
  | name :: rest =>
    match s.find? (table ++ [name]) with
    | none => (s.add { path := table ++ [name], kind := .table }).pass? (table ++ [name]) rest
    | some site => if site.kind = .value then none else s.pass? (table ++ [name]) rest

/-- Opens a table by its header.  It may be there already, but not settled. -/
def openTable? (s : Sites) (path : List String) : Option Sites := do
  let s ← s.settle.pass? [] path.dropLast
  let s := { s with current := path }
  match s.find? path with
  | none => return s.add { path, kind := .table, settled := true }
  | some site =>
    if site.kind = .table && !site.settled then
      return s.update path fun site => { site with settled := true }
    else none

/-- Opens one more table under a header that can be repeated.  What was inside the last one is
forgotten. -/
def openElement? (s : Sites) (path : List String) : Option Sites := do
  let s ← s.settle.pass? [] path.dropLast
  let s := { s with current := path }
  match s.find? path with
  | none => return s.add { path, kind := .repeated, settled := true }
  | some site =>
    if site.kind = .repeated then
      return { s with sites := s.sites.filter fun site => !isInside path site.path }
    else none

end Sites

end Boardwright.Toml.Strict
