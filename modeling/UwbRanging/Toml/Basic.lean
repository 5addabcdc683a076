import UwbRanging.DataTree
import UwbRanging.Decimal.Binary64

namespace UwbRanging

namespace Toml

-- How a table came to be, which decides what may be added to it: by its header, by the header of a
-- table inside it, by a dotted key, or written in braces.
inductive TableKind where
  | header
  | implied
  | dotted
  | inline
  deriving DecidableEq, Repr

end Toml

-- A TOML value.
inductive Toml where
  | text (s : String)
  | int (n : Int)
  | float (x : Float)
  | bool (b : Bool)
  -- a date, a time or both, of which only the form is checked
  | dateTime
  | arr (items : List Toml)
  | table (kind : Toml.TableKind) (entries : List (String × Toml))
  -- an array of tables with headers of their own
  | tables (items : List (List (String × Toml)))

namespace Toml

instance : Inhabited Toml := ⟨bool false⟩

def lookup? (key : String) (entries : List (String × Toml)) : Option Toml := entries.lookup key

-- The fields of a record in the order of `names`: a table, or an array of the fields from the first
-- one on. What a record has beyond its fields is passed over. A date is a table of fields that no
-- record has.
def fields? (names : List String) : Toml → Option (List (Option Toml))
  | table _ entries => some (names.map fun n => lookup? n entries)
  | arr items => some (names.zipIdx.map fun n => items[n.2]?)
  | tables items => some (names.zipIdx.map fun n => (items[n.2]?).map (table .header))
  | dateTime => some (names.map fun _ => none)
  | _ => none

-- An integer within bounds.
def int? (low high : Int) : Toml → Option Int
  | int n => if low ≤ n ∧ n ≤ high then some n else none
  | _ => none

-- A number of either form.
def float? : Toml → Option Float
  | float x => some x
  | int n => some (Binary64.ofInt n)
  | _ => none

def text? : Toml → Option String
  | text s => some s
  | _ => none

def bool? : Toml → Option Bool
  | bool b => some b
  | _ => none

def items? : Toml → Option (List Toml)
  | arr items => some items
  | tables items => some (items.map (table .header))
  | _ => none

-- Whether a value holds nothing.
def isEmpty : Toml → Bool
  | arr items => items.isEmpty
  | table _ entries => entries.isEmpty
  | tables items => items.isEmpty
  | _ => false

-- The name of a choice without content: a text, or a table whose only entry is named so and empty.
def choice? : Toml → Option String
  | text s => some s
  | table _ [(name, content)] => if content.isEmpty then some name else none
  | _ => none

instance : DataTree Toml where
  fields? := fields?
  int? := int?
  float? := float?
  bool? := bool?
  text? := text?
  choice? := choice?
  items? := items?

end Toml

end UwbRanging
