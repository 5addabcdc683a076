import UwbRanging.Toml.Basic

namespace UwbRanging.Toml

abbrev Entries := List (String × Toml)

-- The entries with one replaced, or added at the end.
def putEntry (key : String) (value : Toml) : Entries → Entries
  | [] => [(key, value)]
  | (k, v) :: rest => if k = key then (key, value) :: rest else (k, v) :: putEntry key value rest

-- Whether a table may be entered on the way to one of its entries: by a header any table that has
-- headers, by a dotted key only one that no header has defined.
def mayEnter (byDots : Bool) (kind : TableKind) : Bool :=
  match kind with
  | .header => !byDots
  | .implied => true
  | .dotted => true
  | .inline => false

-- Changes the table at the end of a path. Tables that are missing on the way come into being, and in
-- an array of tables the last one is meant.
def change (byDots : Bool) (f : TableKind → Entries → Option Toml) :
    List String → TableKind → Entries → Option Toml
  | [], kind, entries => f kind entries
  | key :: path, kind, entries =>
    let put := fun (t : Toml) => table kind (putEntry key t entries)
    match entries.lookup key with
    | none => (change byDots f path (if byDots then .dotted else .implied) []).map put
    | some (table inner deeper) =>
      if mayEnter byDots inner then (change byDots f path inner deeper).map put else none
    | some (tables items) =>
      match items.getLast? with
      | some last =>
        match change byDots f path .header last with
        | some (table _ changed) => some (put (tables (items.dropLast ++ [changed])))
        | _ => none
      | none => none
    | some _ => none

-- Adds an entry that must not be there yet. A dotted key adds only to tables that dotted keys made,
-- and a plain key only to one that they did not make.
def addEntry (isDotted : Bool) (key : String) (value : Toml) (kind : TableKind) (entries : Entries) : Option Toml :=
  if (kind == .dotted) != isDotted then none
  else if (entries.lookup key).isSome then none
  else some (table kind (entries ++ [(key, value)]))

-- Adds the value of a dotted key to a table.
def addKey (path : List String) (value : Toml) (kind : TableKind) (entries : Entries) : Option Toml :=
  match path.getLast? with
  | none => none
  | some key =>
    let way := path.dropLast
    change true (addEntry (!way.isEmpty) key value) way kind entries

-- Opens the table of a header. Each table has one header at most.
def openTable (key : String) (kind : TableKind) (entries : Entries) : Option Toml :=
  match entries.lookup key with
  | none => some (table kind (entries ++ [(key, table .header [])]))
  | some (table .implied inner) => some (table kind (putEntry key (table .header inner) entries))
  | some _ => none

-- Opens one more table of an array of tables.
def openElement (key : String) (kind : TableKind) (entries : Entries) : Option Toml :=
  match entries.lookup key with
  | none => some (table kind (entries ++ [(key, tables [[]])]))
  | some (tables items) => some (table kind (putEntry key (tables (items ++ [[]])) entries))
  | some _ => none

-- A line of a document.
inductive Line where
  | header (path : List String)
  | element (path : List String)
  | entry (path : List String) (value : Toml)

-- A document while it is read: what there is so far, and the path of the table that entries go to.
structure Document where
  root : Entries := []
  current : List String := []

namespace Document

def withRoot (d : Document) : Option Toml → Option Document
  | some (table _ entries) => some { d with root := entries }
  | _ => none

-- Adds a line. Entries go to the table that was opened last.
def add (d : Document) : Line → Option Document
  | .header path => do
    let key ← path.getLast?
    let d ← d.withRoot (change false (openTable key) path.dropLast .header d.root)
    return { d with current := path }
  | .element path => do
    let key ← path.getLast?
    let d ← d.withRoot (change false (openElement key) path.dropLast .header d.root)
    return { d with current := path }
  | .entry path value => d.withRoot (change false (addKey path value) d.current .header d.root)

end Document

end UwbRanging.Toml
