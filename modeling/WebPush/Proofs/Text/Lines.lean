import WebPush.Proofs.Text.Blank
/-!
# Lines — a text cut at its line ends

The lines of a text are given by where it is cut (`AreLines`): at each
line boundary, with a carriage return and the line feed behind it taken
as one, and nothing more behind the last. Changing line ends first and
cutting then gives these lines and no others.
-/

namespace WebPush.Text

/-- **The lines of a text**: no line holds a line boundary, each but the last has its end behind
it, and the last, if it has none, is not empty. -/
inductive AreLines : (text : List Char) → (lines : List (List Char)) → Prop
  /-- An empty text has no lines. -/
  | nil : AreLines [] []
  /-- The text ends in the middle of a line. -/
  | last {line : List Char} : line ≠ [] → (∀ c ∈ line, isLineBoundary c = false) →
      AreLines line [line]
  /-- A carriage return and a line feed are one line end. -/
  | pair {line rest : List Char} {lines : List (List Char)} :
      (∀ c ∈ line, isLineBoundary c = false) → AreLines rest lines →
      AreLines (line ++ '\r' :: '\n' :: rest) (line :: lines)
  /-- Otherwise every line boundary is a line end of its own. -/
  | single {line rest : List Char} {boundary : Char} {lines : List (List Char)} :
      (∀ c ∈ line, isLineBoundary c = false) → isLineBoundary boundary = true →
      (boundary = '\r' → rest.head? ≠ some '\n') → AreLines rest lines →
      AreLines (line ++ boundary :: rest) (line :: lines)

variable {line rest cs : List Char} {ls : List (List Char)} {c : Char}

/-! ## Line ends changed -/

/-- A carriage return without a line feed behind it becomes a line feed, and any other character
stays. -/
theorem normalizeNewlines_cons (h : c = '\r' → rest.head? ≠ some '\n') :
    normalizeNewlines (c :: rest) = (if c = '\r' then '\n' else c) :: normalizeNewlines rest := by
  rw [normalizeNewlines]
  rintro more rfl rfl
  exact h rfl rfl

/-- Nothing is changed in a line. -/
theorem normalizeNewlines_append (h : ∀ c ∈ line, isLineBoundary c = false) (rest : List Char) :
    normalizeNewlines (line ++ rest) = line ++ normalizeNewlines rest := by
  induction line with
  | nil => rfl
  | cons c before ih =>
    obtain ⟨hc, hbefore⟩ := List.forall_mem_cons.1 h
    have hne : c ≠ '\r' := by
      rintro rfl
      cases hc
    rw [List.cons_append, normalizeNewlines_cons fun hcr => absurd hcr hne, if_neg hne,
      ih hbefore, List.cons_append]

/-- A line end is changed into a line end. -/
theorem isLineBoundary_newline (h : isLineBoundary c = true) :
    isLineBoundary (if c = '\r' then '\n' else c) = true := by
  split
  · rfl
  · exact h

/-! ## Cutting -/

/-- A text without line boundaries is one line, unless it is empty. -/
theorem lines_eq_singleton (hne : line ≠ []) (hline : ∀ c ∈ line, isLineBoundary c = false) :
    lines line = [line] := by
  induction line with
  | nil => contradiction
  | cons c before ih =>
    obtain ⟨hc, hbefore⟩ := List.forall_mem_cons.1 hline
    rw [lines, if_neg (by rw [hc]; decide)]
    cases before with
    | nil => rfl
    | cons d more => rw [ih (List.cons_ne_nil _ _) hbefore]

/-- A character that ends no line belongs to the first line. -/
theorem AreLines.cons_lines (hc : isLineBoundary c = false) (h : AreLines rest (lines cs)) :
    AreLines (c :: rest) (lines (c :: cs)) := by
  rw [lines, if_neg (by rw [hc]; decide)]
  generalize lines cs = ls at h ⊢
  cases h with
  | nil => exact .last (List.cons_ne_nil _ _) (by simpa using hc)
  | last _ hline => exact .last (List.cons_ne_nil _ _) (List.forall_mem_cons.2 ⟨hc, hline⟩)
  | pair hline hrest => exact .pair (List.forall_mem_cons.2 ⟨hc, hline⟩) hrest
  | single hline hboundary hpair hrest =>
    exact .single (List.forall_mem_cons.2 ⟨hc, hline⟩) hboundary hpair hrest

/-- **Every text has lines**: those that it is cut into. -/
theorem areLines_lines (cs : List Char) : AreLines cs (lines (normalizeNewlines cs)) := by
  fun_induction normalizeNewlines cs with
  | case1 => exact .nil
  | case2 rest ih =>
    rw [lines, if_pos (by decide)]
    exact .pair (List.forall_mem_nil _) ih
  | case3 c rest hpair ih =>
    have hpair' : c = '\r' → rest.head? ≠ some '\n' := by
      intro hc hhead
      obtain ⟨more, hrest⟩ := List.head?_eq_some_iff.1 hhead
      exact hpair more hc hrest
    cases hc : isLineBoundary c with
    | true =>
      rw [lines, if_pos (isLineBoundary_newline hc)]
      exact .single (List.forall_mem_nil _) hc hpair' ih
    | false =>
      have hne : c ≠ '\r' := by
        rintro rfl
        cases hc
      rw [if_neg hne]
      exact ih.cons_lines hc

/-- **A text has no other lines.** -/
theorem AreLines.eq_lines (h : AreLines cs ls) : ls = lines (normalizeNewlines cs) := by
  induction h with
  | nil => rfl
  | @last line hne hline =>
    have hnormal := normalizeNewlines_append hline []
    rw [List.append_nil] at hnormal
    rw [hnormal, normalizeNewlines, List.append_nil, lines_eq_singleton hne hline]
  | pair hline _ ih =>
    rw [normalizeNewlines_append hline, normalizeNewlines, lines_append hline (by decide), ih]
  | single hline hboundary hpair _ ih =>
    rw [normalizeNewlines_append hline, normalizeNewlines_cons hpair,
      lines_append hline (isLineBoundary_newline hboundary), ih]

theorem areLines_iff : AreLines cs ls ↔ ls = lines (normalizeNewlines cs) :=
  ⟨AreLines.eq_lines, fun h => h ▸ areLines_lines cs⟩

end WebPush.Text
