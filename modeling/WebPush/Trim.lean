/-!
# Trim — cutting a tail off a list

The tail that is cut is the longest one on which a predicate holds, so
what is left is empty or ends in an element outside the predicate.
-/

namespace WebPush

variable {α : Type}

/-- The list without its longest tail on which `p` holds. -/
def dropEndWhile (p : α → Bool) (xs : List α) : List α := (xs.reverse.dropWhile p).reverse

@[simp] theorem dropEndWhile_nil (p : α → Bool) : dropEndWhile p [] = [] := rfl

/-- An element inside the predicate at the end is cut off. -/
theorem dropEndWhile_concat_of_pos {p : α → Bool} {x : α} (xs : List α) (h : p x = true) :
    dropEndWhile p (xs ++ [x]) = dropEndWhile p xs := by
  simp [dropEndWhile, List.dropWhile_cons_of_pos h]

/-- An element outside the predicate at the end keeps everything. -/
theorem dropEndWhile_concat_of_neg {p : α → Bool} {x : α} (xs : List α) (h : p x = false) :
    dropEndWhile p (xs ++ [x]) = xs ++ [x] := by
  simp [dropEndWhile, h]

end WebPush
