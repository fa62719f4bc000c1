import WebPush.Text.Split
/-!
# Split — where a text is cut

A separator that is not in the text in front of it, or not in the text
behind it, is the one at which the whole is cut. Without a separator a
text is not cut at all, and a change of letters that leaves the
separators alone changes the parts and nothing else.
-/

namespace WebPush.Text

variable {separator : Char} {cs before after : List Char}

theorem startsWith_eq_true_iff {s start : String} :
    startsWith s start = true ↔ ∃ rest, s.toList = start.toList ++ rest := by
  rw [startsWith, List.isPrefixOf_iff_prefix]
  exact ⟨fun ⟨rest, h⟩ => ⟨rest, h.symm⟩, fun ⟨rest, h⟩ => ⟨rest, h.symm⟩⟩

/-! ## The first and the last occurrence -/

theorem splitFirst?_append (h : separator ∉ before) (after : List Char) :
    splitFirst? separator (before ++ separator :: after) = some (before, after) :=
  splitFirst?_eq_some_iff.2 ⟨rfl, h⟩

theorem splitFirst?_of_notMem (h : separator ∉ cs) : splitFirst? separator cs = none := by
  cases hsplit : splitFirst? separator cs with
  | none => rfl
  | some parts =>
    obtain ⟨rfl, -⟩ := splitFirst?_eq_some_iff.1 hsplit
    exact absurd (List.mem_append_right _ List.mem_cons_self) h

theorem notMem_of_splitFirst?_eq_none (h : splitFirst? separator cs = none) : separator ∉ cs := by
  intro hmem
  obtain ⟨before, after, rfl, hnot⟩ := List.eq_append_cons_of_mem hmem
  rw [splitFirst?_append hnot] at h
  cases h

/-- **Splitting at the last occurrence**: the parts hold it between them. -/
theorem splitLast?_eq_some_iff :
    splitLast? separator cs = some (before, after) ↔
      cs = before ++ separator :: after ∧ separator ∉ after := by
  have hreverse : cs = before ++ separator :: after ↔
      cs.reverse = after.reverse ++ separator :: before.reverse := by
    rw [← List.reverse_inj]
    simp
  rw [splitLast?, Option.map_eq_some_iff]
  constructor
  · rintro ⟨⟨after', before'⟩, hsplit, heq⟩
    obtain ⟨hcs, hnot⟩ := splitFirst?_eq_some_iff.1 hsplit
    injection heq with hbefore hafter
    subst hbefore hafter
    exact ⟨hreverse.2 (by simpa using hcs), by simpa using hnot⟩
  · rintro ⟨hcs, hnot⟩
    exact ⟨(after.reverse, before.reverse),
      splitFirst?_eq_some_iff.2 ⟨hreverse.1 hcs, by simpa using hnot⟩, by simp⟩

theorem splitLast?_of_notMem (h : separator ∉ cs) : splitLast? separator cs = none := by
  rw [splitLast?, splitFirst?_of_notMem (by rwa [List.mem_reverse]), Option.map_none]

/-! ## All occurrences -/

theorem splitAll_of_notMem (h : separator ∉ cs) : splitAll separator cs = [cs] := by
  induction cs with
  | nil => rfl
  | cons c rest ih =>
    rw [List.mem_cons, not_or] at h
    rw [splitAll, if_neg (Ne.symm h.1), ih h.2]

/-- The parts and the separators between them make up the text. -/
theorem mem_splitAll (separator : Char) {c : Char} (hc : c ∈ cs) :
    c = separator ∨ ∃ part ∈ splitAll separator cs, c ∈ part := by
  induction cs with
  | nil => cases hc
  | cons d rest ih =>
    rw [splitAll]
    split
    case isTrue hd =>
      rcases List.mem_cons.1 hc with rfl | hc
      · exact .inl hd
      · exact (ih hc).imp_right fun ⟨part, hpart, hmem⟩ =>
          ⟨part, List.mem_cons_of_mem _ hpart, hmem⟩
    case isFalse =>
      cases hsplit : splitAll separator rest with
      | nil =>
        rw [hsplit] at ih
        rcases List.mem_cons.1 hc with rfl | hc
        · exact .inr ⟨[c], List.mem_cons_self, List.mem_cons_self⟩
        · exact (ih hc).imp_right nofun
      | cons first more =>
        rw [hsplit] at ih
        rcases List.mem_cons.1 hc with rfl | hc
        · exact .inr ⟨c :: first, List.mem_cons_self, List.mem_cons_self⟩
        · refine (ih hc).imp_right fun ⟨part, hpart, hmem⟩ => ?_
          rcases List.mem_cons.1 hpart with rfl | hpart
          · exact ⟨d :: part, List.mem_cons_self, List.mem_cons_of_mem _ hmem⟩
          · exact ⟨part, List.mem_cons_of_mem _ hpart, hmem⟩

/-- A text in other letters is cut where it was cut before. -/
theorem splitAll_map {f : Char → Char} (h : ∀ c, f c = separator ↔ c = separator)
    (cs : List Char) :
    splitAll separator (cs.map f) = (splitAll separator cs).map (List.map f) := by
  induction cs with
  | nil => rfl
  | cons c rest ih =>
    simp only [List.map_cons, splitAll, h, ih]
    split
    · rfl
    · cases splitAll separator rest <;> rfl

end WebPush.Text
