import UwbRanging.Decimal.Literal

namespace UwbRanging

-- A JSON value. Members keep their order, and a name may occur twice.
inductive Json where
  | null
  | bool (b : Bool)
  -- a number without fraction and exponent, negative zero excepted
  | int (n : Int)
  -- any other number, of which only as many digits count as fit a word of 64 bits
  | real (l : Decimal.Literal)
  | text (s : String)
  -- a well-formed string that spells no text: it holds half of a surrogate pair or bytes that are
  -- not UTF-8
  | garbled
  | arr (items : List Json)
  -- a name is absent if its string is garbled
  | obj (members : List (Option String × Json))

namespace Json

instance : Inhabited Json := ⟨null⟩

-- An object from its members.
def object (members : List (String × Json)) : Json := obj (members.map fun m => (some m.1, m.2))

-- The value under a name. What is null counts as missing.
def member? (name : String) : Json → Option Json
  | obj members =>
    match members.lookup (some name) with
    | some null => none
    | v => v
  | _ => none

-- Whether a record mentions a name, if only with null.
def mentions (name : String) : Json → Bool
  | obj members => members.any fun m => m.1 == some name
  | _ => false

-- The values under one name.
def valuesOf (name : String) (members : List (Option String × Json)) : List Json :=
  members.filterMap fun m => if m.1 = some name then some m.2 else none

-- At most one value under a name.
def valueOf? (name : String) (members : List (Option String × Json)) : Option (Option Json) :=
  match valuesOf name members with
  | [] => some none
  | [v] => some (some v)
  | _ => none

-- The fields of a record in the order of `names`. A record is an object, in which no field occurs
-- twice and other members are passed over, or an array of its fields from the first one on.
def fields? (names : List String) : Json → Option (List (Option Json))
  | obj members => if members.all (fun m => m.1.isSome) then names.mapM fun n => valueOf? n members else none
  | arr items =>
    if items.length ≤ names.length then
      some (items.map some ++ List.replicate (names.length - items.length) none)
    else none
  | _ => none

-- An integer within bounds.
def int? (low high : Int) : Json → Option Int
  | int n => if low ≤ n ∧ n ≤ high then some n else none
  | _ => none

-- A natural number below `size`.
def nat? (size : Nat) (j : Json) : Option Nat := (j.int? 0 (size - 1)).map Int.toNat

def text? : Json → Option String
  | text s => some s
  | _ => none

-- A field that may be missing or null.
def optional? {α : Type} (read : Json → Option α) : Option Json → Option (Option α)
  | none => some none
  | some null => some none
  | some j => (read j).map some

end Json

end UwbRanging
