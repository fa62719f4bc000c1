import WebPush.Environment.File
import WebPush.Proofs.Text.Ascii
import WebPush.Proofs.Text.Blank
import WebPush.Proofs.Text.Split
/-!
# Environment — files that are read as they were written

A line that puts a plain value behind a name and an equals sign is read
as that name and that value, and a file of such lines as its pairs, in
their order.
-/

namespace WebPush.Environment

/-- A name that a line may give a value to: an identifier with the prefix of this library. -/
structure IsSettingName (name : List Char) : Prop where
  identifier : isIdentifier name = true
  withPrefix : namePrefix.toList.isPrefixOf name = true

/-- A value that is read as it stands: on one line, without blanks at its ends, and without a
quote in front. -/
structure IsPlainValue (value : List Char) : Prop where
  oneLine : ∀ c ∈ value, Text.isLineBoundary c = false
  head : ∀ c ∈ value.head?, Text.isBlank c = false ∧ c ≠ '"' ∧ c ≠ '\''
  last : ∀ c ∈ value.getLast?, Text.isBlank c = false

/-- The line that gives a name its value. -/
def assignmentLine (pair : String × String) : List Char := pair.1.toList ++ '=' :: pair.2.toList

/-- The text of a file that gives names their values, each on its line. -/
def assignmentText (pairs : List (String × String)) : List Char :=
  (pairs.map assignmentLine).flatMap (· ++ ['\n'])

variable {name value : List Char}

/-! ## Names -/

/-- **The characters of an identifier** are ASCII, and neither end a line, a name or the blanks
around it. -/
theorem plain_of_inIdentifier {c : Char} (h : inIdentifier c = true) :
    c ≠ '=' ∧ c ≠ '\x00' ∧ Text.isBlank c = false ∧ Text.isLineBoundary c = false := by
  have hbelow : c.toNat < 128 := by
    simp only [inIdentifier, isIdentifierStart, Bool.or_eq_true, Bool.and_eq_true,
      decide_eq_true_eq] at h
    obtain ((⟨-, h⟩ | ⟨-, h⟩) | rfl) | ⟨-, h⟩ := h
    · exact Nat.lt_of_le_of_lt (Text.toNat_le_toNat h) (by decide)
    · exact Nat.lt_of_le_of_lt (Text.toNat_le_toNat h) (by decide)
    · decide
    · exact Nat.lt_of_le_of_lt (Text.toNat_le_toNat h) (by decide)
  exact Text.forall_ascii (P := fun c => inIdentifier c = true →
    c ≠ '=' ∧ c ≠ '\x00' ∧ Text.isBlank c = false ∧ Text.isLineBoundary c = false)
    (by decide +kernel) hbelow h

theorem IsSettingName.inIdentifier (h : IsSettingName name) : ∀ c ∈ name, inIdentifier c = true := by
  have hidentifier := h.identifier
  cases name with
  | nil => cases hidentifier
  | cons first rest =>
    rw [isIdentifier, Bool.and_eq_true, List.all_eq_true] at hidentifier
    refine List.forall_mem_cons.2 ⟨?_, hidentifier.2⟩
    rw [Environment.inIdentifier, hidentifier.1, Bool.true_or]

theorem IsSettingName.trim_eq (h : IsSettingName name) : Text.trim name = name :=
  Text.trim_eq_self
    (fun c hc => (plain_of_inIdentifier (h.inIdentifier c (List.mem_of_head? hc))).2.2.1)
    fun c hc => (plain_of_inIdentifier (h.inIdentifier c (List.mem_of_getLast? hc))).2.2.1

/-- A line that begins with such a name begins with its first letter. -/
theorem IsSettingName.exists_cons (h : IsSettingName name) : ∃ rest, name = 'V' :: rest := by
  obtain ⟨rest, rfl⟩ := List.isPrefixOf_iff_prefix.1 h.withPrefix
  exact ⟨"APIDPUSH_".toList ++ rest, rfl⟩

/-! ## One line -/

theorem IsPlainValue.trim_eq (h : IsPlainValue value) : Text.trim value = value :=
  Text.trim_eq_self (fun c hc => (h.head c hc).1) h.last

theorem IsPlainValue.unquote_eq (h : IsPlainValue value) : unquote value = .ok value := by
  cases value with
  | nil => rfl
  | cons first rest =>
    obtain ⟨-, hdouble, hsingle⟩ := h.head first rfl
    rw [unquote, if_neg (not_or.2 ⟨hdouble, hsingle⟩)]

/-- **A line that begins with a name** and ends in no blank gives the name the value behind the
equals sign. -/
theorem readLine_eq_map_unquote (hname : IsSettingName name)
    (hlast : ∀ c ∈ value.getLast?, Text.isBlank c = false) :
    readLine (name ++ '=' :: value) = (unquote (Text.trim value)).map (.assignment name) := by
  -- The first letter is a capital, so the line is no comment, and no `export` stands in front.
  obtain ⟨rest, hrest⟩ := hname.exists_cons
  have hequals : '=' ∉ name := fun h => (plain_of_inIdentifier (hname.inIdentifier _ h)).1 rfl
  have htrim : Text.trim (name ++ '=' :: value) = name ++ '=' :: value := by
    refine Text.trim_eq_self ?_ ?_
    · rw [hrest]
      rintro _ ⟨⟩
      decide
    · intro c hc
      rw [List.getLast?_append, List.getLast?_cons] at hc
      cases hend : value.getLast? with
      | none =>
        rw [hend] at hc
        cases hc
        decide
      | some d =>
        rw [hend] at hc
        cases hc
        exact hlast d hend
  have hstart : Text.trimStart (name ++ '=' :: value) = name ++ '=' :: value := by
    rw [hrest]
    rfl
  have hexport : withoutExport (name ++ '=' :: value) = name ++ '=' :: value := by
    have hword : "export ".toList.isPrefixOf (name ++ '=' :: value) = false := by
      rw [hrest]
      rfl
    rw [withoutExport, hword]
    exact hstart
  have hcontent : ((name ++ '=' :: value).isEmpty ||
      decide ((name ++ '=' :: value).head? = some '#')) = false := by
    rw [hrest]
    rfl
  simp only [readLine, htrim, readTrimmed, hcontent, Bool.false_eq_true, if_false, hexport,
    Text.splitFirst?_append hequals, hname.trim_eq, hname.identifier, Bool.not_true,
    hname.withPrefix]

/-- A line that gives a name a plain value is read as this. -/
theorem readLine_assignment (hname : IsSettingName name) (hvalue : IsPlainValue value) :
    readLine (name ++ '=' :: value) = .ok (.assignment name value) := by
  rw [readLine_eq_map_unquote hname hvalue.last, hvalue.trim_eq, hvalue.unquote_eq]
  rfl

/-- **A value between two quotes is read as it stands**, whatever is in it. -/
theorem readLine_quoted {quote : Char} (hname : IsSettingName name)
    (hquote : quote = '"' ∨ quote = '\'') (value : List Char) :
    readLine (name ++ '=' :: quote :: (value ++ [quote])) = .ok (.assignment name value) := by
  have hblank : Text.isBlank quote = false := by
    rcases hquote with rfl | rfl <;> decide
  have hlast : (quote :: (value ++ [quote])).getLast? = some quote := by
    rw [← List.cons_append, List.getLast?_concat]
  have hends : ∀ c ∈ (quote :: (value ++ [quote])).getLast?, Text.isBlank c = false := by
    rw [hlast]
    rintro _ ⟨⟩
    exact hblank
  have htrim : Text.trim (quote :: (value ++ [quote])) = quote :: (value ++ [quote]) :=
    Text.trim_eq_self (by rintro _ ⟨⟩; exact hblank) hends
  rw [readLine_eq_map_unquote hname hends, htrim, unquote, if_pos hquote,
    if_pos List.getLast?_concat, List.dropLast_concat]
  rfl

/-! ## The whole file -/

variable {pairs : List (String × String)}

/-- A name that has no value yet gets one at the end. -/
theorem putPair_of_notMem {name value : String} (h : name ∉ pairs.map Prod.fst) :
    putPair pairs name value = pairs ++ [(name, value)] := by
  induction pairs with
  | nil => rfl
  | cons pair rest ih =>
    rw [List.map_cons, List.mem_cons, not_or] at h
    rw [putPair, if_neg (Ne.symm h.1), ih h.2, List.cons_append]

/-- The lines of assignments add their pairs to those before them. -/
theorem readLines_assignments (path : String)
    (h : ∀ pair ∈ pairs, IsSettingName pair.1.toList ∧ IsPlainValue pair.2.toList) (number : Nat)
    (before : List (String × String)) (hnodup : ((before ++ pairs).map Prod.fst).Nodup) :
    readLines path number before (pairs.map assignmentLine) = .ok (before ++ pairs) := by
  induction pairs generalizing number before with
  | nil => rw [List.map_nil, readLines, List.append_nil]
  | cons pair rest ih =>
    obtain ⟨⟨hname, hvalue⟩, hrest⟩ := List.forall_mem_cons.1 h
    have hnew : pair.1 ∉ before.map Prod.fst := by
      rw [List.map_append, List.nodup_append] at hnodup
      exact fun hmem => hnodup.2.2 pair.1 hmem pair.1 List.mem_cons_self rfl
    have hnext : before ++ pair :: rest = before ++ [pair] ++ rest := by
      rw [List.append_assoc, List.singleton_append]
    rw [List.map_cons, readLines, assignmentLine, readLine_assignment hname hvalue]
    simp only [addLine, String.ofList_toList, putPair_of_notMem hnew]
    rw [ih hrest (number + 1) (before ++ [pair]) (hnext ▸ hnodup), hnext]

/-- **A file of assignments** is read as its pairs, if no name comes twice. -/
theorem parseFile_assignmentText (path : String)
    (h : ∀ pair ∈ pairs, IsSettingName pair.1.toList ∧ IsPlainValue pair.2.toList)
    (hnodup : (pairs.map Prod.fst).Nodup) :
    parseFile path (assignmentText pairs) = .ok pairs := by
  have hlines : ∀ text ∈ pairs.map assignmentLine, ∀ c ∈ text, Text.isLineBoundary c = false := by
    refine List.forall_mem_map.2 fun pair hpair => ?_
    obtain ⟨hname, hvalue⟩ := h pair hpair
    refine List.forall_mem_append.2 ⟨fun c hc => ?_, List.forall_mem_cons.2 ⟨by decide, hvalue.oneLine⟩⟩
    exact (plain_of_inIdentifier (hname.inIdentifier c hc)).2.2.2
  have hreturn : '\r' ∉ assignmentText pairs := by
    rw [assignmentText, List.mem_flatMap]
    rintro ⟨text, htext, hmem⟩
    obtain hmem | hmem := List.mem_append.1 hmem
    · exact absurd (hlines text htext _ hmem) (by decide)
    · exact absurd hmem (by decide)
  rw [parseFile, Text.normalizeNewlines_eq_self hreturn, assignmentText, Text.lines_flatMap hlines]
  exact readLines_assignments path h 1 [] hnodup

end WebPush.Environment
