import Mathlib.Data.List.Nodup
import UwbRanging.Json.Form
import UwbRanging.Proofs.Json.RoundTrip

namespace UwbRanging

-- A type of which every value is read back from what it is written as. What it is written as is never null,
-- so that a field that may be missing can hold it.
class LawfulJson (α : Type) [ToJson α] [OfJson α] : Prop where
  ofJson?_toJson (a : α) : ofJson? (toJson a) = some a
  exact_toJson (a : α) : (toJson a).Exact
  ne_null (a : α) : toJson a ≠ Json.null

export LawfulJson (ofJson?_toJson exact_toJson)

namespace Json

theorem nat?_toJson {size n : Nat} (hn : n < size) : (toJson n).nat? size = some n := by
  have hbounds : (0 : Int) ≤ n ∧ (n : Int) ≤ size - 1 := by omega
  change Option.map _ ((int n).int? 0 (size - 1)) = _
  rw [int?, if_pos hbounds]
  rfl

theorem int?_toJson {low high n : Int} (hlow : low ≤ n) (hhigh : n ≤ high) : (toJson n).int? low high = some n :=
  if_pos ⟨hlow, hhigh⟩

end Json

instance : LawfulJson String := ⟨fun _ => rfl, .text, nofun⟩

instance : LawfulJson UInt8 where
  ofJson?_toJson n := by
    change ((toJson n.toNat).nat? _).map _ = _
    rw [Json.nat?_toJson n.toNat_lt, Option.map_some, UInt8.ofNat_toNat]
  exact_toJson n := .int _
  ne_null := nofun

instance : LawfulJson UInt16 where
  ofJson?_toJson n := by
    change ((toJson n.toNat).nat? _).map _ = _
    rw [Json.nat?_toJson n.toNat_lt, Option.map_some, UInt16.ofNat_toNat]
  exact_toJson n := .int _
  ne_null := nofun

instance : LawfulJson UInt32 where
  ofJson?_toJson n := by
    change ((toJson n.toNat).nat? _).map _ = _
    rw [Json.nat?_toJson n.toNat_lt, Option.map_some, UInt32.ofNat_toNat]
  exact_toJson n := .int _
  ne_null := nofun

instance : LawfulJson UInt64 where
  ofJson?_toJson n := by
    change ((toJson n.toNat).nat? _).map _ = _
    rw [Json.nat?_toJson n.toNat_lt, Option.map_some, UInt64.ofNat_toNat]
  exact_toJson n := .int _
  ne_null := nofun

instance : LawfulJson Int16 where
  ofJson?_toJson n := by
    change ((toJson n.toInt).int? _ _).map _ = _
    rw [Json.int?_toJson n.minValue_le_toInt n.toInt_le, Option.map_some, Int16.ofInt_toInt]
  exact_toJson n := .int _
  ne_null := nofun

instance : LawfulJson Int64 where
  ofJson?_toJson n := by
    change ((toJson n.toInt).int? _ _).map _ = _
    rw [Json.int?_toJson n.minValue_le_toInt n.toInt_le, Option.map_some, Int64.ofInt_toInt]
  exact_toJson n := .int _
  ne_null := nofun

namespace Json

variable {α : Type} [ToJson α] [OfJson α] [LawfulJson α]

-- A field that is there and not null.
@[simp] theorem optional?_toJson (a : α) : optional? ofJson? (some (toJson a)) = some (some a) := by
  have hnull := LawfulJson.ne_null a
  rw [optional?.eq_def]
  split
  case h_2 heq => exact absurd (Option.some.inj heq) hnull
  case h_3 heq =>
    cases heq
    rw [ofJson?_toJson, Option.map_some]
  case h_1 heq => cases heq

-- A field that is null for want of a value.
@[simp] theorem optional?_toJson_option (a : Option α) : optional? ofJson? (some (toJson a)) = some a := by
  cases a with
  | none => rfl
  | some a => exact optional?_toJson a

theorem exact_toJson_option (a : Option α) : (toJson a).Exact := by
  cases a with
  | none => exact .null
  | some a => exact exact_toJson a

-- A field that is left out for want of a value.
theorem optional?_map_toJson (a : Option α) : optional? ofJson? (a.map toJson) = some a := by
  cases a with
  | none => rfl
  | some a => exact optional?_toJson a

variable {members : List (String × Json)}

theorem exact_object (h : ∀ m ∈ members, m.2.Exact) : (object members).Exact := by
  refine .obj _ fun m hm => ?_
  obtain ⟨source, hsource, rfl⟩ := List.mem_map.mp hm
  exact h source hsource

theorem valuesOf_cons (name : String) (m : String × Json) (members : List (String × Json)) :
    valuesOf name ((m :: members).map fun m => (some m.1, m.2)) =
      (if m.1 = name then [m.2] else []) ++ valuesOf name (members.map fun m => (some m.1, m.2)) := by
  rw [valuesOf, List.map_cons, List.filterMap_cons]
  by_cases hname : m.1 = name <;> simp [hname, valuesOf]

theorem valuesOf_eq_nil {name : String} (h : name ∉ members.map Prod.fst) :
    valuesOf name (members.map fun m => (some m.1, m.2)) = [] := by
  induction members with
  | nil => rfl
  | cons m members ih =>
    rw [List.map_cons, List.mem_cons, not_or] at h
    rw [valuesOf_cons, if_neg (Ne.symm h.1), ih h.2, List.append_nil]

-- Where no name occurs twice, a name has the value that is found under it.
theorem valueOf?_of_nodup (hnodup : (members.map Prod.fst).Nodup) (name : String) :
    valueOf? name (members.map fun m => (some m.1, m.2)) = some (members.lookup name) := by
  induction members with
  | nil => rfl
  | cons m members ih =>
    obtain ⟨hfirst, hrest⟩ := List.nodup_cons.mp hnodup
    rw [valueOf?, valuesOf_cons, List.lookup_cons]
    by_cases hname : m.1 = name
    · subst hname
      simp [valuesOf_eq_nil hfirst]
    · have hother : (name == m.1) = false := by simp [Ne.symm hname]
      rw [if_neg hname, List.nil_append, hother]
      exact ih hrest

theorem fields?_object (hnodup : (members.map Prod.fst).Nodup) (names : List String) :
    (object members).fields? names = some (names.map fun name => members.lookup name) := by
  have hnamed : ((members.map fun m => (some m.1, m.2)).all fun m => m.1.isSome) = true := by simp
  rw [object, fields?, if_pos hnamed]
  simp only [valueOf?_of_nodup hnodup]
  exact List.mapM_pure

theorem lookup_zip {names : List String} (hnodup : names.Nodup) {values : List Json}
    (hlength : values.length = names.length) :
    names.map (fun name => (names.zip values).lookup name) = values.map some := by
  induction names generalizing values with
  | nil =>
    obtain rfl := List.length_eq_zero_iff.mp hlength
    rfl
  | cons name names ih =>
    obtain ⟨v, values, rfl⟩ := List.exists_cons_of_length_eq_add_one hlength
    obtain ⟨hfirst, hrest⟩ := List.nodup_cons.mp hnodup
    have hrest := ih hrest (Nat.succ.inj hlength)
    rw [List.zip_cons_cons, List.map_cons, List.map_cons, List.lookup_cons_self, ← hrest]
    congr 1
    refine List.map_congr_left fun other hother => ?_
    have hne : (other == name) = false := by
      simp only [beq_eq_false_iff_ne]
      rintro rfl
      exact hfirst hother
    rw [List.lookup_cons, hne]

-- A record that is written field by field.
theorem fields?_zip {names : List String} (hnodup : names.Nodup) {values : List Json}
    (hlength : values.length = names.length) : (object (names.zip values)).fields? names = some (values.map some) := by
  have hnames : (names.zip values).map Prod.fst = names := List.map_fst_zip (Nat.le_of_eq hlength.symm)
  rw [fields?_object (by rwa [hnames]), lookup_zip hnodup hlength]

end Json

end UwbRanging
