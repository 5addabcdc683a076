import UwbRanging.DataTree
import UwbRanging.Decimal.Scaled
import UwbRanging.Json.Basic

namespace UwbRanging

-- What a value is written as.
class ToJson (α : Type) where
  toJson : α → Json

-- How a value is read.
class OfJson (α : Type) where
  ofJson? : Json → Option α

export ToJson (toJson)
export OfJson (ofJson?)

namespace Json

-- A field of a record. A missing field is read as null.
def field? {α : Type} [OfJson α] (j : Json) (name : String) : Option α := ofJson? ((j.member? name).getD null)

-- A field that has a default.
def fieldOr {α : Type} [OfJson α] (j : Json) (name : String) (default : α) : Option α :=
  (j.member? name).elim (some default) ofJson?

-- A value that is named by its variant.
def variant {α : Type} [ToJson α] (name : String) (content : α) : Json := object [(name, toJson content)]

-- The variant's name and its content.
def variant? : Json → Option (String × Json)
  | obj [(some name, content)] => some (name, content)
  | text name => some (name, null)
  | _ => none

end Json

instance : ToJson Json := ⟨id⟩

instance : OfJson Json := ⟨some⟩

instance : ToJson Bool := ⟨Json.bool⟩

instance : OfJson Bool := ⟨fun
  | .bool b => some b
  | _ => none⟩

instance : ToJson String := ⟨Json.text⟩

instance : OfJson String := ⟨Json.text?⟩

instance : ToJson Int := ⟨Json.int⟩

instance : ToJson Nat := ⟨fun n => Json.int n⟩

instance : ToJson UInt8 := ⟨fun n => toJson n.toNat⟩

instance : ToJson UInt16 := ⟨fun n => toJson n.toNat⟩

instance : ToJson UInt32 := ⟨fun n => toJson n.toNat⟩

instance : ToJson UInt64 := ⟨fun n => toJson n.toNat⟩

instance : ToJson Int16 := ⟨fun n => toJson n.toInt⟩

instance : ToJson Int64 := ⟨fun n => toJson n.toInt⟩

-- A number outside the range of its type is not read.
instance : OfJson UInt8 := ⟨fun j => (j.nat? UInt8.size).map UInt8.ofNat⟩

instance : OfJson UInt16 := ⟨fun j => (j.nat? UInt16.size).map UInt16.ofNat⟩

instance : OfJson UInt32 := ⟨fun j => (j.nat? UInt32.size).map UInt32.ofNat⟩

instance : OfJson UInt64 := ⟨fun j => (j.nat? UInt64.size).map UInt64.ofNat⟩

instance : OfJson Int16 := ⟨fun j => (j.int? Int16.minValue.toInt Int16.maxValue.toInt).map Int16.ofInt⟩

instance : OfJson Int64 := ⟨fun j => (j.int? Int64.minValue.toInt Int64.maxValue.toInt).map Int64.ofInt⟩

instance {α : Type} [ToJson α] : ToJson (Option α) := ⟨fun a => a.elim Json.null toJson⟩

instance {α : Type} [OfJson α] : OfJson (Option α) := ⟨fun
  | .null => some none
  | j => (ofJson? j).map some⟩

instance {α : Type} [ToJson α] : ToJson (List α) := ⟨fun l => Json.arr (l.map toJson)⟩

instance {α : Type} [OfJson α] : OfJson (List α) := ⟨fun
  | .arr items => items.mapM ofJson?
  | _ => none⟩

instance {α β : Type} [ToJson α] [ToJson β] : ToJson (α × β) := ⟨fun p => Json.arr [toJson p.1, toJson p.2]⟩

instance {α β : Type} [OfJson α] [OfJson β] : OfJson (α × β) := ⟨fun
  | .arr [a, b] => return (← ofJson? a, ← ofJson? b)
  | _ => none⟩

-- A number of either form, if a float is as large.
instance : OfJson Float := ⟨fun
  | .int n => (Decimal.Literal.clipped (n < 0) (Nat.toDigits 10 n.natAbs) [] 0).scaled?
  | .real l => l.scaled?
  | _ => none⟩

instance : DataTree Json where
  fields? := Json.fields?
  int? := Json.int?
  float? := ofJson?
  bool? := ofJson?
  text? := Json.text?
  choice? := Json.text?
  items? := fun
    | .arr items => some items
    | _ => none

end UwbRanging
