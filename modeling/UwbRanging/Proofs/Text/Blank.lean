import UwbRanging.Text.Character

namespace UwbRanging.Text

variable {cs core : List Char}

-- What is left of a text when the blanks at its two ends are taken away, and only these.
structure IsTrimmed (cs core : List Char) : Prop where
  split : ∃ lead trail, cs = lead ++ core ++ trail ∧
    (∀ c ∈ lead, isBlank c = true) ∧ ∀ c ∈ trail, isBlank c = true
  head : ∀ c, core.head? = some c → isBlank c = false
  last : ∀ c, core.getLast? = some c → isBlank c = false

theorem isBlank_of_mem_takeWhile {c : Char} (hc : c ∈ cs.takeWhile isBlank) : isBlank c = true :=
  List.all_eq_true.mp List.all_takeWhile c hc

theorem isBlank_of_head?_dropWhile {c : Char} (hc : (cs.dropWhile isBlank).head? = some c) : isBlank c = false := by
  have h := List.head?_dropWhile_not isBlank cs
  rwa [hc] at h

-- What the blanks in front leave is what is left in the end, and the blanks behind that.
theorem dropWhile_eq_append (cs : List Char) :
    cs.dropWhile isBlank = trimChars cs ++ ((cs.dropWhile isBlank).reverse.takeWhile isBlank).reverse := by
  have h := congrArg List.reverse
    (List.takeWhile_append_dropWhile (p := isBlank) (l := (cs.dropWhile isBlank).reverse))
  rw [List.reverse_append, List.reverse_reverse] at h
  exact h.symm

theorem isTrimmed_trimChars (cs : List Char) : IsTrimmed cs (trimChars cs) where
  split := by
    refine ⟨cs.takeWhile isBlank, ((cs.dropWhile isBlank).reverse.takeWhile isBlank).reverse, ?_,
      fun c => isBlank_of_mem_takeWhile, fun c hc => isBlank_of_mem_takeWhile (List.mem_reverse.mp hc)⟩
    rw [List.append_assoc, ← dropWhile_eq_append]
    exact List.takeWhile_append_dropWhile.symm
  head := by
    intro c hc
    have hrest : (cs.dropWhile isBlank).head? = some c := by
      rw [dropWhile_eq_append, List.head?_append, hc, Option.some_or]
    exact isBlank_of_head?_dropWhile hrest
  last := by
    intro c hc
    rw [trimChars, List.getLast?_reverse] at hc
    exact isBlank_of_head?_dropWhile hc

theorem dropWhile_eq_self (hcs : ∀ c, cs.head? = some c → isBlank c = false) : cs.dropWhile isBlank = cs := by
  cases cs with
  | nil => rfl
  | cons c rest => exact List.dropWhile_cons_of_neg (by simp [hcs c rfl])

-- Without a blank at its ends a text stays as it is.
theorem trimChars_eq_self (hcs : ∀ c ∈ cs, isBlank c = false) : trimChars cs = cs := by
  have hfront : cs.dropWhile isBlank = cs := dropWhile_eq_self fun c hc => hcs c (List.mem_of_head? hc)
  have hback : cs.reverse.dropWhile isBlank = cs.reverse :=
    dropWhile_eq_self fun c hc => hcs c (List.mem_reverse.mp (List.mem_of_head? hc))
  rw [trimChars, hfront, hback, List.reverse_reverse]

end UwbRanging.Text
