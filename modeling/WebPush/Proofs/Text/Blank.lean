import WebPush.Proofs.Bytes
import WebPush.Text.Blank
/-!
# Blank — what trimming leaves, and lines put one below the other

Trimming takes off the blanks around a text and nothing else, so a text
without blanks at its ends is trimmed already. Lines without line
boundaries in them, each with a line feed behind it, are the lines of the
text they make up.
-/

namespace WebPush.Text

/-- A text that does not begin with a blank stays as it is in front. -/
theorem trimStart_eq_self {cs : List Char} (hhead : ∀ c ∈ cs.head?, isBlank c = false) :
    trimStart cs = cs :=
  dropWhile_eq_self hhead

/-- **A text without blanks at its ends** stays as it is. -/
theorem trim_eq_self {cs : List Char} (hhead : ∀ c ∈ cs.head?, isBlank c = false)
    (hlast : ∀ c ∈ cs.getLast?, isBlank c = false) : trim cs = cs :=
  dropEndWhile_dropWhile_eq_self hhead hlast

/-- Blanks around a text make no difference. -/
theorem trim_append {front back : List Char} (hfront : ∀ c ∈ front, isBlank c = true)
    (hback : ∀ c ∈ back, isBlank c = true) (cs : List Char) :
    trim (front ++ cs ++ back) = trim cs :=
  dropEndWhile_dropWhile_append hfront hback cs

/-- What is cut off are blanks. -/
theorem exists_eq_append_trim (cs : List Char) : ∃ front back, cs = front ++ trim cs ++ back ∧
    (∀ c ∈ front, isBlank c = true) ∧ ∀ c ∈ back, isBlank c = true :=
  exists_eq_append_dropEndWhile_dropWhile isBlank cs

/-- Trimming makes no text longer. -/
theorem length_trim_le (cs : List Char) : (trim cs).length ≤ cs.length := by
  obtain ⟨front, back, heq, -, -⟩ := exists_eq_append_trim cs
  have hlength := congrArg List.length heq
  rw [List.length_append, List.length_append] at hlength
  omega

/-- What is left of a text does not begin with a blank. -/
theorem isBlank_of_mem_head?_trimStart (cs : List Char) :
    ∀ c ∈ (trimStart cs).head?, isBlank c = false := by
  intro c hc
  have hhead := List.head?_dropWhile_not isBlank cs
  rw [trimStart] at hc
  rwa [Option.mem_def.1 hc] at hhead

theorem isBlank_of_mem_head?_trim (cs : List Char) :
    ∀ c ∈ (trim cs).head?, isBlank c = false := by
  intro c hc
  obtain ⟨back, heq, -⟩ := exists_eq_dropEndWhile_append isBlank (trimStart cs)
  refine isBlank_of_mem_head?_trimStart cs c ?_
  rw [trim] at hc
  rw [heq, List.head?_append, Option.mem_def.1 hc]
  rfl

/-- **Trimming once is enough.** -/
@[simp] theorem trim_trim (cs : List Char) : trim (trim cs) = trim cs := by
  obtain ⟨front, back, heq, hfront, hback⟩ := exists_eq_append_trim cs
  calc trim (trim cs)
    _ = trim (front ++ trim cs ++ back) := (trim_append hfront hback _).symm
    _ = trim cs := congrArg trim heq.symm

/-- A text that is filled is the very text. -/
theorem filled?_eq_some_iff {text : String} {filled : Filled} :
    filled? text = some filled ↔ filled.text = text := by
  rw [filled?]
  split
  · rename_i hempty
    exact iff_of_false nofun fun heq => filled.ne_empty (heq.trans hempty)
  · exact ⟨fun h => Option.some.inj h ▸ rfl, fun h => congrArg some (by cases filled; cases h; rfl)⟩

/-- A text without carriage returns has no line ends to be changed. -/
theorem normalizeNewlines_eq_self {cs : List Char} (h : '\r' ∉ cs) : normalizeNewlines cs = cs := by
  induction cs with
  | nil => rfl
  | cons c rest ih =>
    rw [List.mem_cons, not_or] at h
    have hc : c ≠ '\r' := fun hc => h.1 hc.symm
    rw [normalizeNewlines, if_neg hc, ih h.2]
    exact fun _ hcr => absurd hcr hc

/-! ## Lines -/

variable {line : List Char} {boundary : Char}

/-- A line ends at the first line boundary. -/
theorem lines_append (hline : ∀ c ∈ line, isLineBoundary c = false)
    (hboundary : isLineBoundary boundary = true) (rest : List Char) :
    lines (line ++ boundary :: rest) = line :: lines rest := by
  induction line with
  | nil => rw [List.nil_append, lines, if_pos hboundary]
  | cons c before ih =>
    obtain ⟨hc, hbefore⟩ := List.forall_mem_cons.1 hline
    rw [List.cons_append, lines, if_neg (by rw [hc]; decide), ih hbefore]

/-- **The lines of a text that is put together from lines** are these. -/
theorem lines_flatMap {texts : List (List Char)}
    (h : ∀ text ∈ texts, ∀ c ∈ text, isLineBoundary c = false) :
    lines (texts.flatMap (· ++ ['\n'])) = texts := by
  induction texts with
  | nil => rfl
  | cons text rest ih =>
    obtain ⟨htext, hrest⟩ := List.forall_mem_cons.1 h
    rw [List.flatMap_cons, List.append_assoc, List.singleton_append,
      lines_append htext (by decide), ih hrest]

end WebPush.Text
