/-!
# Split — cutting a text at a separator

The first or the last occurrence of a character cuts a text in two. The
parts and the separator between them make up the text again.
-/

namespace WebPush.Text

/-- The parts before and after the first occurrence of a character. -/
def splitFirst? (separator : Char) (cs : List Char) : Option (List Char × List Char) :=
  match cs.dropWhile (· ≠ separator) with
  | [] => none
  | _ :: after => some (cs.takeWhile (· ≠ separator), after)

/-- The parts before and after the last occurrence of a character. -/
def splitLast? (separator : Char) (cs : List Char) : Option (List Char × List Char) :=
  (splitFirst? separator cs.reverse).map fun (after, before) => (before.reverse, after.reverse)

/-- The parts between all occurrences of a character. -/
def splitAll (separator : Char) : List Char → List (List Char)
  | [] => [[]]
  | c :: rest =>
    if c = separator then [] :: splitAll separator rest
    else match splitAll separator rest with
      | [] => [[c]]
      | part :: more => (c :: part) :: more

/-- The text occurs somewhere in another. -/
def occursIn (part : List Char) : List Char → Bool
  | [] => part.isEmpty
  | c :: rest => part.isPrefixOf (c :: rest) || occursIn part rest

/-- A string begins with another. -/
def startsWith (s : String) (start : String) : Bool := start.toList.isPrefixOf s.toList

/-- **Splitting loses nothing**: the parts hold the first separator between them. -/
theorem splitFirst?_eq_some_iff {separator : Char} {cs before after : List Char} :
    splitFirst? separator cs = some (before, after) ↔
      cs = before ++ separator :: after ∧ separator ∉ before := by
  induction cs generalizing before with
  | nil => simp [splitFirst?]
  | cons c rest ih =>
    by_cases hc : c = separator
    · subst hc
      cases before with
      | nil => simp [splitFirst?]
      | cons b bs =>
        simp [splitFirst?]
        intro h
        simp [h]
    · have step : splitFirst? separator (c :: rest) =
          (splitFirst? separator rest).map fun (b, a) => (c :: b, a) := by
        simp only [splitFirst?, List.dropWhile_cons, List.takeWhile_cons]
        simp only [ne_eq, hc, not_false_eq_true, decide_true, if_true]
        split <;> simp_all
      rw [step]
      cases before with
      | nil => simp [Option.map_eq_some_iff, hc]
      | cons b bs =>
        simp only [Option.map_eq_some_iff, Prod.exists, Prod.mk.injEq, List.cons.injEq,
          List.cons_append, List.mem_cons, not_or]
        constructor
        · rintro ⟨b', a', h, ⟨rfl, rfl⟩, rfl⟩
          obtain ⟨rfl, hmem⟩ := ih.mp h
          exact ⟨⟨rfl, rfl⟩, fun e => hc e.symm, hmem⟩
        · rintro ⟨⟨rfl, rfl⟩, -, hmem⟩
          exact ⟨bs, after, ih.mpr ⟨rfl, hmem⟩, ⟨rfl, rfl⟩, rfl⟩

end WebPush.Text
