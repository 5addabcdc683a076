namespace UwbRanging

-- A notation for trees of data, by what can be read at a node.
class DataTree (V : Type) where
  -- the fields of a record in the order of their names
  fields? : List String → V → Option (List (Option V))
  -- an integer within bounds
  int? : (low high : Int) → V → Option Int
  float? : V → Option Float
  bool? : V → Option Bool
  text? : V → Option String
  -- the name of a choice without content
  choice? : V → Option String
  items? : V → Option (List V)

namespace DataTree

variable {V α : Type}

-- A natural number below `size`.
def nat? [DataTree V] (size : Nat) (v : V) : Option Nat := (int? 0 (size - 1) v).map Int.toNat

def int64? [DataTree V] (v : V) : Option Int64 := (int? Int64.minValue.toInt Int64.maxValue.toInt v).map Int64.ofInt

def required (read : V → Option α) (field : Option V) : Option α := field.bind read

-- A field that keeps its default if it is missing.
def orDefault (default : α) (read : V → Option α) : Option V → Option α
  | none => some default
  | some v => read v

def optional? (read : V → Option α) : Option V → Option (Option α)
  | none => some none
  | some v => (read v).map some

end DataTree

end UwbRanging
