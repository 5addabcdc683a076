import UwbRanging.Json.Parser
import UwbRanging.Json.Printer
import UwbRanging.Proofs.Text.Utf8

namespace UwbRanging

namespace Decimal

theorem ofDigits_toDigits (n : Nat) : ofDigits (Nat.toDigits 10 n) = n := Nat.ofDigitChars_ten_toDigits

theorem digit_le_foldl (cs : List Char) (n : Nat) : n ≤ cs.foldl (fun n c => 10 * n + digitValue c) n := by
  induction cs generalizing n with
  | nil => exact Nat.le_refl n
  | cons c rest ih =>
    have hrest := ih (10 * n + digitValue c)
    rw [List.foldl_cons]
    omega

-- Digits that fit a word are all taken up.
theorem takeWord_eq {n : Nat} {cs : List Char}
    (hcs : cs.foldl (fun n c => 10 * n + digitValue c) n < UInt64.size) :
    takeWord n cs = (cs.foldl (fun n c => 10 * n + digitValue c) n, []) := by
  induction cs generalizing n with
  | nil => rfl
  | cons c rest ih =>
    have hfits := Nat.lt_of_le_of_lt (digit_le_foldl rest (10 * n + digitValue c)) hcs
    rw [takeWord, if_pos hfits]
    exact ih hcs

theorem Literal.clipped_toDigits (negative : Bool) {n : Nat} (hn : n < UInt64.size) (exponent : Int) :
    clipped negative (Nat.toDigits 10 n) [] exponent = ⟨negative, n, exponent⟩ := by
  have hvalue : (Nat.toDigits 10 n).foldl (fun n c => 10 * n + digitValue c) 0 = n := ofDigits_toDigits n
  have htaken : takeWord 0 (Nat.toDigits 10 n) = (n, []) := by rw [takeWord_eq (by rwa [hvalue]), hvalue]
  rw [clipped, htaken]
  simp [takeWord]

end Decimal

namespace Json

open Text (Glyph)

section Strings

variable (rest : List Glyph)

theorem hexValue?_digit : ∀ n < 16, hexValue? (some (Hex.digit n)) = some n := by decide

theorem pieceOfUnit_char {c : Char} (hc : c.toNat < 0x20) : pieceOfUnit c.toNat = .char c := by
  have hlow : ¬ (0xd800 ≤ c.toNat ∧ c.toNat < 0xe000) := by omega
  rw [pieceOfUnit, if_neg hlow, Char.ofNat_toNat]

theorem pieces_plain {c : Char} (hquote : c ≠ '"') (hslash : c ≠ '\\') (hplain : ¬ c.toNat < 0x20) :
    pieces (some c :: rest) = (pieces rest).map fun p => (.char c :: p.1, p.2) := by
  rw [pieces.eq_def]
  split
  case h_5 heq =>
    cases heq
    rw [if_neg hplain]
  all_goals simp_all

-- What a character is written as is read as that character.
theorem pieces_escapeChar (c : Char) : pieces ((escapeChar c).map some ++ rest) =
    (pieces rest).map fun p => (.char c :: p.1, p.2) := by
  unfold escapeChar
  split
  case h_8 hquote hslash _ _ _ _ _ =>
    by_cases hcontrol : c.toNat < 0x20
    · rw [if_pos hcontrol]
      have hdigits : unit? (some '0') (some '0') (some (Hex.digit (c.toNat / 16))) (some (Hex.digit (c.toNat % 16))) =
          some c.toNat := by
        have hzero : hexValue? (some '0') = some 0 := by decide
        have hvalue : c.toNat / 16 * 16 + c.toNat % 16 = c.toNat := Nat.div_add_mod' _ _
        simp [unit?, hzero, hexValue?_digit (c.toNat / 16) (by omega), hexValue?_digit (c.toNat % 16) (by omega), hvalue]
      simp only [List.map_cons, List.map_nil, List.cons_append, List.nil_append, pieces, hdigits,
        pieceOfUnit_char hcontrol]
    · rw [if_neg hcontrol]
      exact pieces_plain rest hquote hslash hcontrol
  all_goals simp [pieces, shortEscape?]

theorem joinPieces_chars (cs : List Char) : joinPieces (cs.map .char) = some cs := by
  induction cs with
  | nil => rfl
  | cons c cs ih => rw [List.map_cons, joinPieces, ih, Option.map_some]

theorem pieces_quote (cs : List Char) : pieces ((cs.flatMap escapeChar).map some ++ some '"' :: rest) =
    some (cs.map .char, rest) := by
  induction cs with
  | nil => simp [pieces]
  | cons c cs ih => rw [List.flatMap_cons, List.map_append, List.append_assoc, pieces_escapeChar, ih]; rfl

-- A quoted text is read back.
theorem stringBody_quote (s : String) :
    ∃ body, (quote s.toList).map some ++ rest = some '"' :: body ∧ stringBody body = some (some s, rest) := by
  refine ⟨(s.toList.flatMap escapeChar).map some ++ some '"' :: rest, by simp [quote], ?_⟩
  rw [stringBody, pieces_quote, Option.map_some, joinPieces_chars, Option.map_some, String.ofList_toList]

theorem stringBody_garbled :
    ∃ body, garbledText.map some ++ rest = some '"' :: body ∧ stringBody body = some (none, rest) := by
  refine ⟨_, rfl, ?_⟩
  have hunit : unit? (some 'd') (some '8') (some '0') (some '0') = some 0xd800 := by decide
  simp [stringBody, pieces, hunit, pieceOfUnit, joinPieces]

theorem stringBody_printName (name : Option String) :
    ∃ body, (printName name).map some ++ rest = some '"' :: body ∧ stringBody body = some (name, rest) := by
  cases name with
  | none => exact stringBody_garbled rest
  | some s => exact stringBody_quote rest s

end Strings

section Numbers

-- Nothing that could belong to a number in front of it.
def Ends (rest : List Glyph) : Prop :=
  ∀ g ∈ rest.head?, isDigit g = false ∧ g ≠ some '.' ∧ g ≠ some 'e' ∧ g ≠ some 'E'

variable {g : Glyph} {rest : List Glyph}

theorem isDigit_of_mem_printNat {n : Nat} (hg : g ∈ (printNat n).map some) : isDigit g = true := by
  obtain ⟨c, hc, rfl⟩ := List.mem_map.mp hg
  exact Nat.isDigit_of_mem_toDigits (by decide) (by decide) hc

theorem spanDigits_printNat (n : Nat) (hrest : ∀ g ∈ rest.head?, isDigit g = false) :
    spanDigits ((printNat n).map some ++ rest) = (printNat n, rest) := by
  have hdigits : ∀ g ∈ (printNat n).map some, isDigit g = true := fun g => isDigit_of_mem_printNat
  have htake : rest.takeWhile isDigit = [] := by
    cases rest with
    | nil => rfl
    | cons g rest => exact List.takeWhile_cons_of_neg (by simp [hrest g rfl])
  have hdrop : rest.dropWhile isDigit = rest := by
    cases rest with
    | nil => rfl
    | cons g rest => exact List.dropWhile_cons_of_neg (by simp [hrest g rfl])
  rw [spanDigits, List.takeWhile_append_of_pos hdigits, List.dropWhile_append_of_pos hdigits, htake, hdrop]
  simp

theorem head?_printNat {n : Nat} (hn : n ≠ 0) : (printNat n).head? ≠ some '0' := by
  induction n using Nat.strongRecOn with
  | ind n ih =>
    unfold printNat at *
    rw [Nat.toDigits_eq_if (by decide)]
    split
    · rename_i hsmall
      have hdigit : ∀ k < 10, k ≠ 0 → k.digitChar ≠ '0' := by decide
      simpa using hdigit n hsmall hn
    · obtain ⟨c, digits, hdigits⟩ := List.exists_cons_of_ne_nil (Nat.toDigits_ne_nil (n := n / 10) (b := 10))
      have hfirst := ih (n / 10) (by omega) (by omega)
      rw [hdigits] at hfirst ⊢
      exact hfirst

theorem whole_printNat (n : Nat) (hrest : ∀ g ∈ rest.head?, isDigit g = false) :
    whole ((printNat n).map some ++ rest) = some (printNat n, rest) := by
  by_cases hn : n = 0
  · subst hn
    rfl
  · have hhead := head?_printNat hn
    have hne : printNat n ≠ [] := Nat.toDigits_ne_nil
    rw [whole.eq_def]
    split
    · rename_i heq
      cases hdigits : printNat n with
      | nil => exact absurd hdigits hne
      | cons c digits =>
        rw [hdigits] at heq hhead
        cases heq
        exact absurd rfl hhead
    · rw [spanDigits_printNat n hrest]
      simp [hne]

theorem fraction_of_ends (hrest : ∀ g ∈ rest.head?, g ≠ some '.') : fraction rest = some ([], rest) := by
  rw [fraction.eq_def]
  split
  · exact absurd rfl (hrest _ rfl)
  · rfl

theorem exponent_of_ends (hrest : ∀ g ∈ rest.head?, g ≠ some 'e' ∧ g ≠ some 'E') :
    exponent rest = some (none, rest) := by
  rw [exponent.eq_def]
  split
  · exact absurd rfl (hrest _ rfl).1
  · exact absurd rfl (hrest _ rfl).2
  · rfl

-- A number after its sign.
def magnitude (negative : Bool) (input : List Glyph) : Option (Json × List Glyph) := do
  let (w, input) ← whole input
  let (f, input) ← fraction input
  let (e, input) ← exponent input
  return (numberOf negative w f e, input)

theorem number_minus (input : List Glyph) : number (some '-' :: input) = magnitude true input := rfl

theorem ne_minus_of_mem_printNat {n : Nat} (hg : g ∈ (printNat n).map some) : g ≠ some '-' := by
  rintro rfl
  have hminus := isDigit_of_mem_printNat hg
  revert hminus
  decide

theorem number_printNat (n : Nat) (rest : List Glyph) :
    number ((printNat n).map some ++ rest) = magnitude false ((printNat n).map some ++ rest) := by
  have hne : printNat n ≠ [] := Nat.toDigits_ne_nil
  obtain ⟨c, digits, hdigits⟩ := List.exists_cons_of_ne_nil hne
  have hminus : some c ≠ some '-' := ne_minus_of_mem_printNat (n := n) (by simp [hdigits])
  rw [hdigits, List.map_cons, List.cons_append, number.eq_def]
  split
  · rename_i heq
    split at heq
    · rename_i hhead
      cases hhead
      exact absurd rfl hminus
    · cases heq
      rfl

theorem magnitude_printNat (negative : Bool) (n : Nat) (hrest : Ends rest) :
    magnitude negative ((printNat n).map some ++ rest) = some (numberOf negative (printNat n) [] none, rest) := by
  rw [magnitude, whole_printNat n fun g hg => (hrest g hg).1]
  simp only [Option.bind_eq_bind, Option.bind_some, fraction_of_ends fun g hg => (hrest g hg).2.1,
    exponent_of_ends fun g hg => (hrest g hg).2.2]
  rfl

theorem number_printInt (n : Int) (hrest : Ends rest) : number ((printInt n).map some ++ rest) = some (int n, rest) := by
  unfold printInt
  generalize hm : n.natAbs = m
  have hvalue : Decimal.ofDigits (printNat m) = m := Decimal.ofDigits_toDigits _
  split
  · rename_i hneg
    rw [List.map_cons, List.cons_append, number_minus, magnitude_printNat true _ hrest]
    have hzero : m ≠ 0 := by omega
    have habs : -(m : Int) = n := by omega
    simp [numberOf, hvalue, hzero, habs]
  · rename_i hpos
    rw [number_printNat, magnitude_printNat false _ hrest]
    have habs : (m : Int) = n := by omega
    simp [numberOf, hvalue, habs]

theorem exponentBody_printInt (e : Int) (hrest : ∀ g ∈ rest.head?, isDigit g = false) :
    exponentBody ((printInt e).map some ++ rest) = some (e, rest) := by
  unfold printInt
  generalize hm : e.natAbs = m
  have hvalue : Decimal.ofDigits (printNat m) = m := Decimal.ofDigits_toDigits _
  have hne : printNat m ≠ [] := Nat.toDigits_ne_nil
  have hspan := spanDigits_printNat m hrest
  split
  · rename_i hneg
    have habs : -(m : Int) = e := by omega
    simp [exponentBody, hspan, hne, hvalue, habs]
  · rename_i hpos
    have habs : (m : Int) = e := by omega
    obtain ⟨c, digits, hdigits⟩ := List.exists_cons_of_ne_nil hne
    have hdigit : isDigit (some c) = true := isDigit_of_mem_printNat (n := m) (by simp [hdigits])
    rw [hdigits] at hspan hvalue
    rw [hdigits, List.map_cons, List.cons_append, exponentBody.eq_def]
    rw [List.map_cons, List.cons_append] at hspan
    split
    rename_i heq
    split at heq
    · rename_i hhead
      cases hhead
      cases hdigit
    · rename_i hhead
      cases hhead
      cases hdigit
    · cases heq
      simp [hspan, hvalue, habs]

theorem magnitude_exponent (negative : Bool) (n : Nat) (e : Int) (hrest : ∀ g ∈ rest.head?, isDigit g = false) :
    magnitude negative ((printNat n).map some ++ some 'e' :: ((printInt e).map some ++ rest)) =
      some (numberOf negative (printNat n) [] (some e), rest) := by
  have hletter : ∀ g ∈ (some 'e' :: ((printInt e).map some ++ rest)).head?, isDigit g = false := by
    rintro g ⟨⟩
    decide
  rw [magnitude, whole_printNat n hletter]
  simp [fraction, exponent, exponentBody_printInt e hrest]

theorem number_printLiteral {l : Decimal.Literal} (hl : l.digits < UInt64.size) (hrest : Ends rest) :
    number ((printLiteral l).map some ++ rest) = some (real l, rest) := by
  have hmagnitude := magnitude_exponent l.negative l.digits l.exponent fun g hg => (hrest g hg).1
  have hclipped := Decimal.Literal.clipped_toDigits l.negative hl l.exponent
  have hnumber : numberOf l.negative (printNat l.digits) [] (some l.exponent) = real l := by
    simp [numberOf, printNat, hclipped]
  rw [hnumber] at hmagnitude
  unfold printLiteral
  cases hneg : l.negative with
  | true =>
    rw [hneg] at hmagnitude
    simpa [number_minus] using hmagnitude
  | false =>
    rw [hneg] at hmagnitude
    have hplain := number_printNat l.digits (some 'e' :: ((printInt l.exponent).map some ++ rest))
    simpa [hplain] using hmagnitude

end Numbers

-- A value of which every number is exact: the digits of a number that is no integer fit a word.
inductive Exact : Json → Prop where
  | null : Exact null
  | bool (b : Bool) : Exact (bool b)
  | int (n : Int) : Exact (int n)
  | real (l : Decimal.Literal) (hl : l.digits < UInt64.size) : Exact (real l)
  | text (s : String) : Exact (text s)
  | garbled : Exact garbled
  | arr (items : List Json) (hitems : ∀ j ∈ items, Exact j) : Exact (arr items)
  | obj (members : List (Option String × Json)) (hmembers : ∀ m ∈ members, Exact m.2) : Exact (obj members)

theorem Exact.items {elements : List Json} (h : Exact (Json.arr elements)) : ∀ j ∈ elements, j.Exact := by
  cases h with
  | arr _ hitems => exact hitems

theorem Exact.members {fields : List (Option String × Json)} (h : Exact (Json.obj fields)) :
    ∀ m ∈ fields, m.2.Exact := by
  cases h with
  | obj _ hmembers => exact hmembers

section Values

theorem skipBlanks_of_head {c : Char} {rest : List Glyph} (hc : isBlank (some c) = false) :
    skipBlanks (some c :: rest) = some c :: rest :=
  List.dropWhile_cons_of_neg (by simp [hc])

theorem ends_comma (rest : List Glyph) : Ends (some ',' :: rest) := by
  rintro g ⟨⟩
  decide

theorem ends_bracket (rest : List Glyph) : Ends (some ']' :: rest) := by
  rintro g ⟨⟩
  decide

theorem ends_brace (rest : List Glyph) : Ends (some '}' :: rest) := by
  rintro g ⟨⟩
  decide

-- What starts with a digit or a minus is a number.
theorem value_number (fuel : Nat) {c : Char} (hc : c.isDigit = true ∨ c = '-') (tail : List Glyph) :
    value (fuel + 1) (some c :: tail) = number (some c :: tail) := by
  have hfirst : ∀ d ∈ ['"', '[', '{', 't', 'f', 'n', ' ', '\t', '\n', '\r'], d.isDigit = false ∧ d ≠ '-' := by simp
  have hother : ∀ d ∈ ['"', '[', '{', 't', 'f', 'n', ' ', '\t', '\n', '\r'], c ≠ d := by
    rintro d hd rfl
    simp_all
  have hblank : isBlank (some c) = false := by simp_all [isBlank]
  rw [value, skipBlanks_of_head hblank]
  split
  case h_7 => rfl
  all_goals simp_all

theorem exists_digit_printNat (n : Nat) : ∃ c digits, printNat n = c :: digits ∧ c.isDigit = true := by
  have hne : printNat n ≠ [] := Nat.toDigits_ne_nil
  obtain ⟨c, digits, hdigits⟩ := List.exists_cons_of_ne_nil hne
  exact ⟨c, digits, hdigits, isDigit_of_mem_printNat (n := n) (g := some c) (by simp [hdigits])⟩

theorem value_printInt (fuel : Nat) (n : Int) {rest : List Glyph} (hrest : Ends rest) :
    value (fuel + 1) ((printInt n).map some ++ rest) = some (int n, rest) := by
  have hnumber := number_printInt n hrest
  obtain ⟨c, digits, hdigits, hc⟩ := exists_digit_printNat n.natAbs
  unfold printInt at hnumber ⊢
  split at hnumber
  · rename_i hneg
    rw [if_pos hneg]
    exact (value_number fuel (.inr rfl) _).trans hnumber
  · rename_i hpos
    rw [if_neg hpos]
    rw [hdigits] at hnumber ⊢
    exact (value_number fuel (.inl hc) _).trans hnumber

theorem value_printLiteral (fuel : Nat) {l : Decimal.Literal} (hl : l.digits < UInt64.size) {rest : List Glyph}
    (hrest : Ends rest) :
    value (fuel + 1) ((printLiteral l).map some ++ rest) = some (real l, rest) := by
  have hnumber := number_printLiteral hl hrest
  obtain ⟨c, digits, hdigits, hc⟩ := exists_digit_printNat l.digits
  unfold printLiteral at hnumber ⊢
  cases hneg : l.negative with
  | true =>
    rw [hneg] at hnumber
    exact (value_number fuel (.inr rfl) _).trans hnumber
  | false =>
    rw [hneg, hdigits] at hnumber
    rw [hdigits]
    exact (value_number fuel (.inl hc) _).trans hnumber

theorem value_quote (fuel : Nat) {input body : List Glyph} (hinput : input = some '"' :: body) :
    value (fuel + 1) input = (stringBody body).map fun p => (stringValue p.1, p.2) := by
  subst hinput
  rfl

-- The values of an array one after the other, each by its own text.
theorem items_of_value {fuel : Nat} {text after : List Glyph} {item : Json}
    (hvalue : value fuel text = some (item, after)) :
    items (fuel + 1) text = match skipBlanks after with
      | some ',' :: rest => (items fuel rest).map fun p => (item :: p.1, p.2)
      | some ']' :: rest => some ([item], rest)
      | _ => none := by
  rw [items, hvalue]
  simp only [Option.bind_eq_bind, Option.bind_some, Option.map_eq_bind]
  rfl

theorem members_of_value {fuel : Nat} (name : Option String) {text after : List Glyph} {v : Json}
    (hvalue : value fuel text = some (v, after)) :
    members (fuel + 1) ((printName name).map some ++ some ':' :: text) = match skipBlanks after with
      | some ',' :: rest => (members fuel rest).map fun p => ((name, v) :: p.1, p.2)
      | some '}' :: rest => some ([(name, v)], rest)
      | _ => none := by
  obtain ⟨body, hbody, hname⟩ := stringBody_printName (some ':' :: text) name
  have hquote : skipBlanks (some '"' :: body) = some '"' :: body := rfl
  have hcolon : skipBlanks (some ':' :: text) = some ':' :: text := rfl
  rw [hbody, members, hquote]
  simp only [hname, Option.bind_eq_bind, Option.bind_some, hcolon, hvalue, Option.map_eq_bind]
  rfl

theorem exists_head_printInt (n : Int) : ∃ c tail, printInt n = c :: tail ∧ (c.isDigit = true ∨ c = '-') := by
  obtain ⟨c, digits, hdigits, hc⟩ := exists_digit_printNat n.natAbs
  unfold printInt
  split
  · exact ⟨_, _, rfl, .inr rfl⟩
  · exact ⟨c, digits, hdigits, .inl hc⟩

theorem exists_head_printLiteral (l : Decimal.Literal) :
    ∃ c tail, printLiteral l = c :: tail ∧ (c.isDigit = true ∨ c = '-') := by
  obtain ⟨c, digits, hdigits, hc⟩ := exists_digit_printNat l.digits
  unfold printLiteral
  cases l.negative with
  | true => exact ⟨_, _, rfl, .inr rfl⟩
  | false => exact ⟨c, digits ++ 'e' :: printInt l.exponent, by rw [hdigits]; rfl, .inl hc⟩

-- No value starts with a blank or with the end of an array.
theorem exists_head (j : Json) : ∃ c tail, j.print = c :: tail ∧ isBlank (some c) = false ∧ c ≠ ']' := by
  have hnumber {c : Char} (hc : c.isDigit = true ∨ c = '-') : isBlank (some c) = false ∧ c ≠ ']' := by
    have hother : ∀ d ∈ [']', ' ', '\t', '\n', '\r'], d.isDigit = false ∧ d ≠ '-' := by simp
    have hne : ∀ d ∈ [']', ' ', '\t', '\n', '\r'], c ≠ d := by
      rintro d hd rfl
      simp_all
    simp_all [isBlank]
  cases j with
  | null => exact ⟨_, _, rfl, by decide⟩
  | bool b => cases b <;> exact ⟨_, _, rfl, by decide⟩
  | int n =>
    obtain ⟨c, tail, hprint, hc⟩ := exists_head_printInt n
    exact ⟨c, tail, hprint, hnumber hc⟩
  | real l =>
    obtain ⟨c, tail, hprint, hc⟩ := exists_head_printLiteral l
    exact ⟨c, tail, hprint, hnumber hc⟩
  | text s => exact ⟨_, _, rfl, by decide⟩
  | garbled => exact ⟨_, _, rfl, by decide⟩
  | arr items => cases items <;> exact ⟨_, _, rfl, by decide⟩
  | obj members => cases members <;> exact ⟨_, _, rfl, by decide⟩

theorem value_items (fuel : Nat) (item : Json) (text : List Glyph) :
    value (fuel + 1) (some '[' :: (item.print.map some ++ text)) =
      (items fuel (item.print.map some ++ text)).map fun p => (arr p.1, p.2) := by
  obtain ⟨c, tail, hprint, hblank, hbracket⟩ := item.exists_head
  have hskip : skipBlanks (item.print.map some ++ text) = item.print.map some ++ text := by
    rw [hprint]
    exact skipBlanks_of_head hblank
  rw [value, skipBlanks_of_head (c := '[') (by decide)]
  simp only [hskip]
  split
  · simp_all
  · rfl

theorem value_members (fuel : Nat) (name : Option String) (text : List Glyph) :
    value (fuel + 1) (some '{' :: ((printName name).map some ++ text)) =
      (members fuel ((printName name).map some ++ text)).map fun p => (obj p.1, p.2) := by
  obtain ⟨body, hbody, -⟩ := stringBody_printName text name
  rw [hbody]
  rfl

mutual

-- A value is read back from its text, and what follows is left. Each value in it takes at least a character,
-- so that the length of the text is fuel enough.
theorem value_print {j : Json} (hj : j.Exact) {fuel : Nat} (hfuel : j.print.length < fuel) {rest : List Glyph}
    (hrest : Ends rest) : value fuel (j.print.map some ++ rest) = some (j, rest) := by
  obtain ⟨k, rfl⟩ : ∃ k, fuel = k + 1 := ⟨fuel - 1, by omega⟩
  cases j with
  | null => rfl
  | bool b => cases b <;> rfl
  | int n => exact value_printInt k n hrest
  | real l =>
    cases hj with
    | real l hl => exact value_printLiteral k hl hrest
  | text s =>
    obtain ⟨body, hbody, hstring⟩ := stringBody_quote rest s
    rw [print, value_quote k hbody, hstring]
    rfl
  | garbled =>
    obtain ⟨body, hbody, hstring⟩ := stringBody_garbled rest
    rw [print, value_quote k hbody, hstring]
    rfl
  | arr elements =>
    cases elements with
    | nil => rfl
    | cons item more =>
      rw [print] at hfuel ⊢
      have hitems := items_print hj.items (by simpa using hfuel) rest
      simp only [List.map_append, List.map_cons, List.append_assoc, List.cons_append] at hitems ⊢
      rw [value_items, hitems, Option.map_some]
  | obj fields =>
    cases fields with
    | nil => rfl
    | cons field more =>
      cases field with
      | mk name v =>
        rw [print] at hfuel ⊢
        have hmembers := members_print hj.members (by simpa using hfuel) rest
        simp only [List.map_append, List.map_cons, List.append_assoc, List.cons_append] at hmembers ⊢
        rw [value_members, hmembers, Option.map_some]
termination_by sizeOf j

theorem items_print {item : Json} {more : List Json} (hitems : ∀ j ∈ item :: more, j.Exact) {fuel : Nat}
    (hfuel : (item.print ++ printItems more).length < fuel) (rest : List Glyph) :
    items fuel ((item.print ++ printItems more).map some ++ rest) = some (item :: more, rest) := by
  obtain ⟨hitem, hmore⟩ := List.forall_mem_cons.mp hitems
  obtain ⟨k, rfl⟩ : ∃ k, fuel = k + 1 := ⟨fuel - 1, by omega⟩
  rw [List.map_append, List.append_assoc]
  cases more with
  | nil =>
    rw [printItems] at hfuel ⊢
    exact items_of_value (value_print hitem (by simpa using hfuel) (ends_bracket rest))
  | cons next more =>
    rw [printItems] at hfuel ⊢
    have hlength : item.print.length + (next.print ++ printItems more).length < k := by
      simp only [List.length_append, List.length_cons] at hfuel ⊢
      omega
    have hrest := items_print hmore (Nat.lt_of_le_of_lt (Nat.le_add_left _ _) hlength) rest
    have hcomma := ends_comma ((next.print ++ printItems more).map some ++ rest)
    have hvalue := value_print hitem (Nat.lt_of_le_of_lt (Nat.le_add_right _ _) hlength) hcomma
    refine (items_of_value hvalue).trans ?_
    rw [skipBlanks_of_head (c := ',') (by decide)]
    simp only [hrest, Option.map_some]
termination_by sizeOf item + sizeOf more

theorem members_print {name : Option String} {v : Json} {more : List (Option String × Json)}
    (hmembers : ∀ m ∈ (name, v) :: more, m.2.Exact) {fuel : Nat}
    (hfuel : (printName name ++ ':' :: v.print ++ printMembers more).length < fuel) (rest : List Glyph) :
    members fuel ((printName name ++ ':' :: v.print ++ printMembers more).map some ++ rest) =
      some ((name, v) :: more, rest) := by
  obtain ⟨hv, hmore⟩ := List.forall_mem_cons.mp hmembers
  obtain ⟨k, rfl⟩ : ∃ k, fuel = k + 1 := ⟨fuel - 1, by omega⟩
  simp only [List.map_append, List.map_cons, List.append_assoc, List.cons_append]
  cases more with
  | nil =>
    rw [printMembers] at hfuel ⊢
    have hlength : v.print.length < k := by
      simp only [List.length_append, List.length_cons] at hfuel
      omega
    exact members_of_value name (value_print hv hlength (ends_brace rest))
  | cons next more =>
    cases next with
    | mk name' v' =>
      rw [printMembers] at hfuel ⊢
      have hlength : v.print.length + (printName name' ++ ':' :: v'.print ++ printMembers more).length < k := by
        simp only [List.length_append, List.length_cons] at hfuel ⊢
        omega
      have hrest := members_print hmore (Nat.lt_of_le_of_lt (Nat.le_add_left _ _) hlength) rest
      have hcomma := ends_comma ((printName name' ++ ':' :: v'.print ++ printMembers more).map some ++ rest)
      have hvalue := value_print hv (Nat.lt_of_le_of_lt (Nat.le_add_right _ _) hlength) hcomma
      simp only [List.map_append, List.map_cons, List.append_assoc, List.cons_append] at hrest hvalue ⊢
      refine (members_of_value name hvalue).trans ?_
      rw [skipBlanks_of_head (c := ',') (by decide)]
      simp only [hrest, Option.map_some]
termination_by sizeOf v + sizeOf more

end

-- What is rendered is read back.
theorem parse_render {j : Json} (hj : j.Exact) : parse (Text.encodeUtf8 j.render) = some j := by
  have hend : Ends [] := by
    rintro g ⟨⟩
  have hvalue := value_print hj (Nat.lt_succ_self _) hend
  rw [List.append_nil] at hvalue
  rw [parse, render, Text.glyphs_encodeUtf8, parseGlyphs, List.length_map, hvalue]
  rfl

end Values

end Json

end UwbRanging
