import Manuscript.Value.Key

/-!
The tables of a TOML document while it is read. A table can be declared once; what a value holds,
or a dotted key has opened, is closed to later declarations.
-/

namespace Manuscript.Toml

abbrev Path := List String

/-- The entries of nested tables, changed at the end of a path. Tables on the way are made as
needed; with `throughLists` an array of tables is entered at its last one. -/
def modifyAt (throughLists : Bool) (change : Entries → Option Entries) :
    Path → Entries → Option Entries
  | [], entries => change entries
  | name :: path, entries =>
    match Value.field? name entries with
    | none => do
      let inner ← modifyAt throughLists change path []
      some (Value.insertKey (.str name) (.map inner) entries)
    | some (.map inner) => do
      let inner ← modifyAt throughLists change path inner
      some (Value.insertKey (.str name) (.map inner) entries)
    | some (.list items) =>
      match throughLists, items.reverse with
      | true, .map inner :: before => do
        let inner ← modifyAt throughLists change path inner
        some (Value.insertKey (.str name) (.list (before.reverse ++ [.map inner])) entries)
      | _, _ => none
    | some _ => none

def addNew (name : String) (value : Value) (entries : Entries) : Option Entries :=
  match Value.field? name entries with
  | none => some (entries ++ [(.str name, value)])
  | some _ => none

/-- Adds an empty table to the array of tables under a name. -/
def appendTable (name : String) (entries : Entries) : Option Entries :=
  match Value.field? name entries with
  | none => some (entries ++ [(.str name, .list [.map []])])
  | some (.list items) => some (Value.insertKey (.str name) (.list (items ++ [.map []])) entries)
  | some _ => none

/-- A document that is being read. -/
structure Document where
  tables : Entries := []
  /-- tables that cannot be declared again -/
  declared : List Path := []
  /-- values whose inside cannot be changed -/
  frozen : List Path := []
  /-- tables that will count as declared from the next header on -/
  pending : List Path := []
  /-- the table of the last header -/
  current : Path := []

namespace Document

/-- Whether a path leads into a frozen value. -/
def isFrozen (d : Document) (path : Path) : Bool := d.frozen.any fun p => p.isPrefixOf path

def settle (d : Document) : Document :=
  { d with declared := d.pending ++ d.declared, pending := [] }

/-- Declares a table. -/
def declareTable (d : Document) (path : Path) : Option Document := do
  if d.declared.contains path || d.isFrozen path then none
  let tables ← modifyAt true some path d.tables
  some { d with tables := tables, declared := path :: d.declared, current := path }

/-- Declares the next table of an array; what was declared inside the one before is free again. -/
def declareItem (d : Document) (path : Path) : Option Document := do
  if d.isFrozen path then none
  let tables ← modifyAt true (appendTable (path.getLast?.getD "")) path.dropLast d.tables
  let outside (p : Path) : Bool := !path.isPrefixOf p
  some { d with
    tables := tables
    declared := path :: d.declared.filter outside
    frozen := d.frozen.filter outside
    current := path }

/-- The tables that a dotted key opens inside the current one. -/
def openedBy (d : Document) (key : Path) : List Path :=
  (List.range (key.length - 1)).map fun n => d.current ++ key.take (n + 1)

def isContainer : Value → Bool
  | .map _ | .list _ => true
  | _ => false

/-- Writes a value under a key of the current table. -/
def assign (d : Document) (key : Path) (value : Value) : Option Document := do
  let opened := d.openedBy key
  if opened.any fun p => d.declared.contains p then none
  let parent := d.current ++ key.dropLast
  if d.isFrozen parent then none
  let tables ← modifyAt true (addNew (key.getLast?.getD "") value) parent d.tables
  let frozen := if isContainer value then (d.current ++ key) :: d.frozen else d.frozen
  some { d with tables := tables, frozen := frozen, pending := opened ++ d.pending }

end Document

/-- Writes a value under a key of a table in braces. `closed` are the keys whose values hold
others. -/
def assignInline (entries : Entries) (closed : List Path) (key : Path) (value : Value) :
    Option Entries := do
  if closed.any fun p => p.isPrefixOf key then none
  modifyAt false (addNew (key.getLast?.getD "") value) key.dropLast entries

end Manuscript.Toml
