import Mathlib.Data.List.Forall2
import WebPush.Proofs.Environment.File
import WebPush.Proofs.Text.Lines
/-!
# Environment — the grammar of files of settings

What a trimmed line says is laid down by rules (`Says`), one for each
kind of line and each fault, and reading follows them: a line is read as
something just when they say it. A file is refused for its first line
with a fault; without one, its pairs are the assignments of its lines,
each name at the place of its first and with the value of its last.
-/

namespace WebPush.Environment

/-! ## The rules -/

/-- A quote that a value may stand in. -/
def IsQuote (c : Char) : Prop := c = '"' ∨ c = '\''

/-- A letter or an underscore. -/
def IsLetter (c : Char) : Prop := ('A' ≤ c ∧ c ≤ 'Z') ∨ ('a' ≤ c ∧ c ≤ 'z') ∨ c = '_'

/-- An identifier: letters, digits and underscores, and no digit in front. -/
def IsIdentifier (name : List Char) : Prop :=
  ∃ first rest, name = first :: rest ∧ IsLetter first ∧
    ∀ c ∈ rest, IsLetter c ∨ ('0' ≤ c ∧ c ≤ '9')

/-- The line says nothing: it is empty or a comment. -/
def IsIgnored (line : List Char) : Prop := line = [] ∨ line.head? = some '#'

/-- **What a value is read as**: itself, if no quote is in front; what is between two equal quotes
at its ends; and a fault, if the quote in front does not stand at the end too. -/
inductive Unquotes : (value : List Char) → Except LineFault (List Char) → Prop
  | plain {value : List Char} : (∀ c ∈ value.head?, ¬ IsQuote c) → Unquotes value (.ok value)
  | quoted {quote : Char} {inner : List Char} : IsQuote quote →
      Unquotes (quote :: (inner ++ [quote])) (.ok inner)
  | unterminated {quote : Char} {rest : List Char} : IsQuote quote →
      (∀ inner, rest ≠ inner ++ [quote]) → Unquotes (quote :: rest) (.error .unterminatedQuote)

/-- **The body of a line**: what is behind one leading `export ` and the blanks that follow it, or
else the line. -/
inductive HasBody : (line body : List Char) → Prop
  | exported {blanks body : List Char} : (∀ c ∈ blanks, Text.isBlank c = true) →
      (∀ c ∈ body.head?, Text.isBlank c = false) →
      HasBody ("export ".toList ++ (blanks ++ body)) body
  | plain {line : List Char} : ¬ "export ".toList <+: line → HasBody line line

/-- The line is cut in two: it is not ignored, and its body has its first equals sign between
the parts. -/
structure IsCut (line before after : List Char) : Prop where
  content : ¬ IsIgnored line
  body : HasBody line (before ++ '=' :: after)
  first : '=' ∉ before

/-- **What a trimmed line says**, or what is wrong with it. -/
inductive Says (line : List Char) : Except LineFault Line → Prop
  | nothing : IsIgnored line → Says line (.ok .empty)
  | noEquals {body : List Char} : ¬ IsIgnored line → HasBody line body → '=' ∉ body →
      Says line (.error (.notAssignment line))
  | noIdentifier {before after : List Char} : IsCut line before after →
      ¬ IsIdentifier (Text.trim before) → Says line (.error (.notAssignment line))
  | other {before after : List Char} : IsCut line before after →
      IsIdentifier (Text.trim before) → ¬ namePrefix.toList <+: Text.trim before →
      Says line (.ok .other)
  | assignment {before after : List Char} {value : Except LineFault (List Char)} :
      IsCut line before after → IsIdentifier (Text.trim before) →
      namePrefix.toList <+: Text.trim before → Unquotes (Text.trim after) value →
      Says line (value.map (.assignment (Text.trim before)))

/-- **The first fault of a file**, with the number of its line: no line in front of that has one. -/
def IsFirstFault (lines : List (List Char)) (number : Nat) (fault : LineFault) : Prop :=
  ∃ before line after, lines = before ++ line :: after ∧ number = before.length + 1 ∧
    (∀ earlier ∈ before, ∃ content, Says (Text.trim earlier) (.ok content)) ∧
    Says (Text.trim line) (.error fault)

/-- The pair that a line assigns, if it is an assignment that counts. -/
def Line.pair? : Line → Option (String × String)
  | .assignment name value => some (String.ofList name, String.ofList value)
  | _ => none

/-- **The pairs keep of assignments** each name, in the order of its first assignment, with the
value of its last. -/
structure AreLastOf (pairs assigned : List (String × String)) : Prop where
  names : pairs.map Prod.fst = (assigned.map Prod.fst).eraseDups
  values : ∀ name, pairs.lookup name = assigned.reverse.lookup name

variable {line before after body value name : List Char}

/-! ## One line -/

theorem isIdentifier_eq_true_iff : isIdentifier name = true ↔ IsIdentifier name := by
  have hstart : ∀ c, isIdentifierStart c = true ↔ IsLetter c := by
    intro c
    simp only [isIdentifierStart, IsLetter, Bool.or_eq_true, Bool.and_eq_true, decide_eq_true_eq]
    rw [or_assoc, or_left_comm]
  have hinside : ∀ c, inIdentifier c = true ↔ IsLetter c ∨ ('0' ≤ c ∧ c ≤ '9') := by
    intro c
    rw [inIdentifier, Bool.or_eq_true, hstart, Bool.and_eq_true, decide_eq_true_eq,
      decide_eq_true_eq]
  cases name with
  | nil =>
    refine iff_of_false Bool.false_ne_true ?_
    rintro ⟨first, rest, h, -⟩
    cases h
  | cons first rest =>
    rw [isIdentifier, Bool.and_eq_true, List.all_eq_true, hstart]
    simp only [hinside]
    constructor
    · rintro ⟨hfirst, hrest⟩
      exact ⟨first, rest, rfl, hfirst, hrest⟩
    · rintro ⟨_, _, ⟨⟩, hfirst, hrest⟩
      exact ⟨hfirst, hrest⟩

/-- A value is read as the rules say. -/
theorem unquote_eq_iff {r : Except LineFault (List Char)} :
    unquote value = r ↔ Unquotes value r := by
  have hread : Unquotes value (unquote value) := by
    cases value with
    | nil => exact .plain (by simp)
    | cons first rest =>
      rw [unquote]
      split
      · rename_i hquote
        split
        · rename_i hlast
          obtain ⟨inner, rfl⟩ := List.getLast?_eq_some_iff.1 hlast
          rw [List.dropLast_concat]
          exact .quoted hquote
        · rename_i hlast
          refine .unterminated hquote ?_
          rintro inner rfl
          exact hlast List.getLast?_concat
      · rename_i hquote
        refine .plain ?_
        rintro _ ⟨⟩
        exact hquote
  refine ⟨fun h => h ▸ hread, fun h => ?_⟩
  cases h with
  | plain hplain =>
    cases value with
    | nil => rfl
    | cons first rest => rw [unquote, if_neg (show ¬ (_ ∨ _) from hplain first rfl)]
  | quoted hquote =>
    rw [unquote, if_pos (show _ ∨ _ from hquote), if_pos List.getLast?_concat,
      List.dropLast_concat]
  | unterminated hquote hopen =>
    rw [unquote, if_pos (show _ ∨ _ from hquote), if_neg]
    intro hlast
    obtain ⟨inner, hinner⟩ := List.getLast?_eq_some_iff.1 hlast
    exact hopen inner hinner

/-- What is left of a line behind `export` is its body. -/
theorem withoutExport_eq_iff (h : ∀ c ∈ line.head?, Text.isBlank c = false) :
    withoutExport line = body ↔ HasBody line body := by
  rw [withoutExport]
  constructor
  · rintro rfl
    split
    · rename_i hexport
      obtain ⟨rest, rfl⟩ := List.isPrefixOf_iff_prefix.1 hexport
      rw [List.drop_left]
      have hblanks : ∀ c ∈ rest.takeWhile Text.isBlank, Text.isBlank c = true :=
        fun c => List.mem_takeWhile_imp
      have hbody := HasBody.exported hblanks (Text.isBlank_of_mem_head?_trimStart rest)
      rwa [Text.trimStart, List.takeWhile_append_dropWhile] at hbody
    · rename_i hexport
      rw [Text.trimStart_eq_self h]
      exact .plain fun hprefix => hexport (List.isPrefixOf_iff_prefix.2 hprefix)
  · rintro (⟨hblanks, hhead⟩ | hexport)
    · rw [if_pos (List.isPrefixOf_iff_prefix.2 (List.prefix_append _ _)), List.drop_left,
        Text.trimStart, List.dropWhile_append_of_pos hblanks]
      exact Text.trimStart_eq_self hhead
    · rw [if_neg (fun hprefix => hexport (List.isPrefixOf_iff_prefix.1 hprefix)),
        Text.trimStart_eq_self h]

theorem isIgnored_iff : (line.isEmpty || line.head? = some '#') = true ↔ IsIgnored line := by
  rw [Bool.or_eq_true, List.isEmpty_iff, decide_eq_true_eq, IsIgnored]

/-- A line that begins with no blank is read as something that it says. -/
theorem says_readTrimmed (h : ∀ c ∈ line.head?, Text.isBlank c = false) :
    Says line (readTrimmed line) := by
  have hbody : HasBody line (withoutExport line) := (withoutExport_eq_iff h).1 rfl
  rw [readTrimmed]
  split
  · rename_i hignored
    exact .nothing (isIgnored_iff.1 hignored)
  rename_i hcontent
  replace hcontent : ¬ IsIgnored line := fun hignored => hcontent (isIgnored_iff.2 hignored)
  split
  · rename_i hsplit
    exact .noEquals hcontent hbody (Text.notMem_of_splitFirst?_eq_none hsplit)
  rename_i before after hsplit
  obtain ⟨heq, hfirst⟩ := Text.splitFirst?_eq_some_iff.1 hsplit
  have hcut : IsCut line before after := ⟨hcontent, heq ▸ hbody, hfirst⟩
  dsimp only
  cases hname : isIdentifier (Text.trim before) with
  | false =>
    exact .noIdentifier hcut fun hidentifier =>
      Bool.false_ne_true (hname.symm.trans (isIdentifier_eq_true_iff.2 hidentifier))
  | true =>
    have hidentifier := isIdentifier_eq_true_iff.1 hname
    rw [Bool.not_true, if_neg Bool.false_ne_true]
    split
    · rename_i hprefix
      refine .other hcut hidentifier fun hprefix' => ?_
      rw [List.isPrefixOf_iff_prefix.2 hprefix'] at hprefix
      cases hprefix
    · rename_i hprefix
      rw [Bool.not_eq_true, Bool.not_eq_false'] at hprefix
      exact .assignment hcut hidentifier (List.isPrefixOf_iff_prefix.1 hprefix)
        (unquote_eq_iff.1 rfl)

/-- What a line says is what it is read as. -/
theorem Says.readTrimmed_eq {r : Except LineFault Line} (hrule : Says line r)
    (h : ∀ c ∈ line.head?, Text.isBlank c = false) : readTrimmed line = r := by
  -- Where a line is cut, the parts are those that reading finds.
  have hcut : ∀ {before after}, IsCut line before after →
      readTrimmed line =
        if !isIdentifier (Text.trim before) then .error (.notAssignment line)
        else if !namePrefix.toList.isPrefixOf (Text.trim before) then .ok .other
        else (unquote (Text.trim after)).map (.assignment (Text.trim before)) := by
    rintro before after ⟨hcontent, hbody, hfirst⟩
    rw [readTrimmed, if_neg (fun hignored => hcontent (isIgnored_iff.1 hignored)),
      (withoutExport_eq_iff h).2 hbody, Text.splitFirst?_append hfirst]
  cases hrule with
  | nothing hignored => rw [readTrimmed, if_pos (isIgnored_iff.2 hignored)]
  | noEquals hcontent hbody hfirst =>
    rw [readTrimmed, if_neg (fun hignored => hcontent (isIgnored_iff.1 hignored)),
      (withoutExport_eq_iff h).2 hbody, Text.splitFirst?_of_notMem hfirst]
  | noIdentifier hparts hname =>
    rw [hcut hparts, if_pos]
    rwa [Bool.not_eq_true', ← Bool.not_eq_true, isIdentifier_eq_true_iff]
  | other hparts hname hprefix =>
    rw [hcut hparts, isIdentifier_eq_true_iff.2 hname, if_neg (by decide), if_pos]
    rwa [Bool.not_eq_true', ← Bool.not_eq_true, List.isPrefixOf_iff_prefix]
  | assignment hparts hname hprefix hvalue =>
    rw [hcut hparts, isIdentifier_eq_true_iff.2 hname, if_neg (by decide),
      List.isPrefixOf_iff_prefix.2 hprefix, if_neg (by decide), unquote_eq_iff.2 hvalue]

/-- **A line is read as the rules say.** -/
theorem readLine_eq_iff {r : Except LineFault Line} :
    readLine line = r ↔ Says (Text.trim line) r := by
  have hhead := Text.isBlank_of_mem_head?_trim line
  exact ⟨fun h => h ▸ says_readTrimmed hhead, fun h => h.readTrimmed_eq hhead⟩

/-! ## The pairs that are kept -/

theorem map_fst_putPair (pairs : List (String × String)) (name value : String) :
    (putPair pairs name value).map Prod.fst =
      if name ∈ pairs.map Prod.fst then pairs.map Prod.fst else pairs.map Prod.fst ++ [name] := by
  induction pairs with
  | nil => rfl
  | cons pair rest ih =>
    by_cases hname : pair.1 = name
    · rw [putPair, if_pos hname, List.map_cons, List.map_cons, hname, if_pos List.mem_cons_self]
    · rw [putPair, if_neg hname, List.map_cons, List.map_cons, ih]
      by_cases hmem : name ∈ rest.map Prod.fst
      · rw [if_pos hmem, if_pos (List.mem_cons_of_mem _ hmem)]
      · rw [if_neg hmem, if_neg, List.cons_append]
        rw [List.mem_cons, not_or]
        exact ⟨Ne.symm hname, hmem⟩

/-- One more name at the end is a repetition, or it is new. -/
theorem eraseDups_concat (names : List String) (name : String) :
    (names ++ [name]).eraseDups =
      if name ∈ names.eraseDups then names.eraseDups else names.eraseDups ++ [name] := by
  rw [List.eraseDups_append]
  by_cases h : name ∈ names
  · rw [if_pos (List.mem_eraseDups.2 h)]
    simp [List.removeAll, h]
  · rw [if_neg (fun hmem => h (List.mem_eraseDups.1 hmem))]
    simp [List.removeAll, h, List.eraseDups_cons]

/-- The pairs of assignments that are made one after the other. -/
def assignAll (assigned : List (String × String)) : List (String × String) :=
  assigned.foldl (fun pairs pair => putPair pairs pair.1 pair.2) []

/-- **Each name keeps its first place and its last value.** -/
theorem areLastOf_assignAll (assigned : List (String × String)) :
    AreLastOf (assignAll assigned) assigned := by
  -- Induction from the end, where the assignment that decides is.
  induction assigned using List.reverseRecOn with
  | nil => exact ⟨rfl, fun _ => rfl⟩
  | append_singleton before pair ih =>
    have hstep : assignAll (before ++ [pair]) = putPair (assignAll before) pair.1 pair.2 :=
      List.foldl_concat ..
    refine ⟨?_, fun name => ?_⟩
    · rw [hstep, map_fst_putPair, ih.names, List.map_append, List.map_singleton, eraseDups_concat]
    · rw [hstep, lookup_putPair, List.reverse_concat, List.lookup_cons, ih.values]
      by_cases hname : name = pair.1
      · rw [if_pos hname, hname, beq_self_eq_true]
      · rw [if_neg hname, beq_eq_false_iff_ne.2 hname]

/-- The lines of a file make the assignments among them. -/
theorem foldl_addLine (contents : List Line) :
    contents.foldl addLine [] = assignAll (contents.filterMap Line.pair?) := by
  rw [assignAll, List.foldl_filterMap]
  congr 1
  funext pairs content
  cases content <;> rfl

/-! ## The whole file -/

variable {path : String} {lines : List (List Char)}

/-- Lines without a fault are read one after the other. -/
theorem readLines_eq_ok {contents : List Line}
    (h : List.Forall₂ (fun line content => readLine line = .ok content) lines contents)
    (number : Nat) (pairs : List (String × String)) :
    readLines path number pairs lines = .ok (contents.foldl addLine pairs) := by
  induction h generalizing number pairs with
  | nil => rfl
  | cons hline _ ih => rw [readLines, hline]; exact ih _ _

/-- Reading stops at the first line with a fault, and reports its number. -/
theorem readLines_eq_error {before after : List (List Char)} {fault : LineFault}
    (hbefore : ∀ earlier ∈ before, ∃ content, readLine earlier = .ok content)
    (hline : readLine line = .error fault) (number : Nat) (pairs : List (String × String)) :
    readLines path number pairs (before ++ line :: after) =
      .error ⟨path, number + before.length, fault⟩ := by
  induction before generalizing number pairs with
  | nil =>
    rw [List.nil_append, readLines, hline]
    rfl
  | cons earlier rest ih =>
    obtain ⟨⟨content, hcontent⟩, hrest⟩ := List.forall_mem_cons.1 hbefore
    rw [List.cons_append, readLines, hcontent]
    exact (ih hrest _ _).trans (by rw [List.length_cons, Nat.add_right_comm, Nat.add_assoc])

/-- **Every line of a file says something, or there is a first fault.** -/
theorem exists_contents_or_isFirstFault (lines : List (List Char)) :
    (∃ contents, List.Forall₂ (fun line content => Says (Text.trim line) (.ok content))
      lines contents) ∨ ∃ number fault, IsFirstFault lines number fault := by
  induction lines with
  | nil => exact .inl ⟨[], .nil⟩
  | cons line rest ih =>
    have hrule : Says (Text.trim line) (readLine line) := readLine_eq_iff.1 rfl
    cases hline : readLine line with
    | error fault =>
      exact .inr ⟨1, fault, [], line, rest, rfl, rfl, List.forall_mem_nil _, hline ▸ hrule⟩
    | ok content =>
      rw [hline] at hrule
      rcases ih with ⟨contents, hcontents⟩ | ⟨_, fault, before, bad, after, rfl, rfl, hbefore, hbad⟩
      · exact .inl ⟨content :: contents, .cons hrule hcontents⟩
      · exact .inr ⟨_, fault, line :: before, bad, after, rfl, rfl,
          List.forall_mem_cons.2 ⟨⟨content, hrule⟩, hbefore⟩, hbad⟩

theorem readLines_of_contents {contents : List Line}
    (h : List.Forall₂ (fun line content => Says (Text.trim line) (.ok content)) lines contents) :
    readLines path 1 [] lines = .ok (assignAll (contents.filterMap Line.pair?)) := by
  rw [readLines_eq_ok (h.imp fun _ _ => readLine_eq_iff.2), foldl_addLine]

theorem readLines_of_isFirstFault {number : Nat} {fault : LineFault}
    (h : IsFirstFault lines number fault) :
    readLines path 1 [] lines = .error ⟨path, number, fault⟩ := by
  obtain ⟨before, line, after, rfl, rfl, hbefore, hline⟩ := h
  rw [readLines_eq_error (fun earlier hearlier => (hbefore earlier hearlier).imp fun _ =>
    readLine_eq_iff.2) (readLine_eq_iff.2 hline), Nat.add_comm]

/-- There is a first fault if a line has any. -/
theorem exists_isFirstFault_iff : (∃ number fault, IsFirstFault lines number fault) ↔
    ∃ line ∈ lines, ∃ fault, Says (Text.trim line) (.error fault) := by
  constructor
  · rintro ⟨_, fault, before, line, after, rfl, -, -, hline⟩
    exact ⟨line, List.mem_append_right _ List.mem_cons_self, fault, hline⟩
  · rintro ⟨line, hmem, fault, hline⟩
    refine (exists_contents_or_isFirstFault lines).resolve_left ?_
    rintro ⟨contents, hcontents⟩
    obtain ⟨hrule, -⟩ := (List.forall₂_and_left lines contents).1
      (hcontents.imp fun _ content hcontent => ⟨Exists.intro content hcontent, hcontent⟩)
    obtain ⟨content, hcontent⟩ := hrule line hmem
    have hread := readLine_eq_iff.2 hline
    rw [readLine_eq_iff.2 hcontent] at hread
    cases hread

/-- **A file is refused for its first fault and for nothing else.** -/
theorem readLines_eq_error_iff {f : FileFault} : readLines path 1 [] lines = .error f ↔
    ∃ number fault, f = ⟨path, number, fault⟩ ∧ IsFirstFault lines number fault := by
  constructor
  · intro h
    obtain ⟨contents, hcontents⟩ | ⟨number, fault, hfirst⟩ :=
      exists_contents_or_isFirstFault lines
    · rw [readLines_of_contents hcontents] at h
      cases h
    · rw [readLines_of_isFirstFault hfirst] at h
      exact ⟨number, fault, (Except.error.inj h).symm, hfirst⟩
  · rintro ⟨number, fault, rfl, hfirst⟩
    exact readLines_of_isFirstFault hfirst

end WebPush.Environment
