import WebPush.Proofs.Json.Integer
import WebPush.Proofs.Json.Strings
/-!
# Json — objects read back

A text of a value is one that the reader takes for the value when a comma
or a closing brace follows, which is how integers and strings are written
inside an object. An object written from texts of its values is read as
the object, and nothing but ASCII is in its text.
-/

namespace WebPush.Json

variable {depth : Depth}

/-! ## Texts of values -/

/-- The text is read as the value, wherever a value may stand and a comma or
the end of an object follows. -/
def IsTextOf (cs : List Char) (value : Json) : Prop :=
  ∀ (depth : Depth) (frames : List Frame) (c : Char) (state : State), c = ',' ∨ c = '}' →
    State.step depth (State.deliver frames value) c = .ok state →
    Reads depth ⟨frames, .value false⟩ (cs ++ [c]) state

theorem isTextOf_printString (s : String) : IsTextOf (printString s) (.string s) :=
  fun _ _ _ _ _ hstep => (reads_printString s).append (.single hstep)

/-- Behind a complete value, a character that is no space stands between values. -/
theorem step_deliver (frames : List Frame) (value : Json) {c : Char} (hc : isSpace c = false) :
    State.step depth (State.deliver frames value) c =
      State.stepBetween depth (State.deliver frames value) c := by
  cases frames with
  | nil => simp only [State.step, State.deliver, hc, Bool.false_eq_true, if_false]
  | cons frame rest =>
    cases frame <;> simp only [State.step, State.deliver, hc, Bool.false_eq_true, if_false]

/-- A digit or a minus begins a number. -/
theorem step_value_number (frames : List Frame) {c : Char} (hc : isDigit c = true ∨ c = '-') :
    State.step depth ⟨frames, .value false⟩ c = .ok ⟨frames, .number [c]⟩ := by
  -- Each of these begins another value or none, and is not what begins a number.
  have hother : ∀ d ∈ [' ', '\t', '\n', '\r', '"', '{', '[', 'n', 't', 'f', 'N', 'I'],
      ¬ (isDigit d = true ∨ d = '-') := by
    simp [isDigit]
  have hne : ∀ d ∈ [' ', '\t', '\n', '\r', '"', '{', '[', 'n', 't', 'f', 'N', 'I'], c ≠ d :=
    fun d hd heq => hother d hd (heq ▸ hc)
  simp only [List.forall_mem_cons] at hne
  obtain ⟨h1, h2, h3, h4, h5, h6, h7, h8, h9, h10, h11, h12, -⟩ := hne
  have hspace : isSpace c = false := by
    simp only [isSpace, h1, h2, h3, h4, decide_false, Bool.or_self]
  have hnumber : (isDigit c || decide (c = '-')) = true := by
    simpa using hc
  simp only [State.step, hspace, Bool.false_eq_true, if_false, State.stepBetween, State.beginValue,
    h5, h6, h7, h8, h9, h10, h11, h12, hnumber, if_true]

theorem reads_inNumber (frames : List Frame) (reversed : List Char) {cs : List Char}
    (h : ∀ c ∈ cs, inNumber c = true) :
    Reads depth ⟨frames, .number reversed⟩ cs ⟨frames, .number (cs.reverse ++ reversed)⟩ := by
  induction cs generalizing reversed with
  | nil => exact .nil
  | cons c rest ih =>
    obtain ⟨hc, hrest⟩ := List.forall_mem_cons.1 h
    rw [List.reverse_cons, List.append_assoc]
    refine .cons ?_ (ih (c :: reversed) hrest)
    simp only [State.step, hc, if_true]

/-- A number ends at a comma or a closing brace. -/
theorem step_number {frames : List Frame} {reversed : List Char} {value : Json} {c : Char}
    (hc : c = ',' ∨ c = '}') (hvalue : readNumber reversed.reverse = .ok value) :
    State.step depth ⟨frames, .number reversed⟩ c =
      State.step depth (State.deliver frames value) c := by
  have hspace : isSpace c = false := by
    rcases hc with rfl | rfl <;> rfl
  rw [step_deliver frames value hspace]
  have hnumber : inNumber c = false ∧ c ≠ 'I' := by
    rcases hc with rfl | rfl <;> decide
  simp [State.step, hnumber, hvalue, hspace, Except.bind]

/-- The characters of an integer, the first of which begins a number. -/
theorem exists_printInt_eq_cons (n : Int) :
    ∃ c rest, printInt n = c :: rest ∧ (isDigit c = true ∨ c = '-') ∧
      ∀ d ∈ rest, isDigit d = true := by
  rw [printInt_eq]
  split
  · exact ⟨'-', _, rfl, .inr rfl, isDigit_of_mem_toDigits⟩
  · cases hdigits : Nat.toDigits 10 n.natAbs with
    | nil => exact absurd hdigits Nat.toDigits_ne_nil
    | cons c rest =>
      have hall : ∀ d ∈ c :: rest, isDigit d = true := hdigits ▸ isDigit_of_mem_toDigits
      obtain ⟨hc, hrest⟩ := List.forall_mem_cons.1 hall
      exact ⟨c, rest, rfl, .inl hc, hrest⟩

/-- **The text of an integer is read as the integer**, if it is not too long. -/
theorem isTextOf_printInt {n : Int} (h : (Nat.toDigits 10 n.natAbs).length ≤ Number.maxDigits) :
    IsTextOf (printInt n) (.int n) := by
  intro depth frames c state hc hstep
  obtain ⟨first, rest, hprint, hfirst, hrest⟩ := exists_printInt_eq_cons n
  have hinside : ∀ d ∈ rest, inNumber d = true := fun d hd => by
    simp only [inNumber, hrest d hd, Bool.true_or]
  have hread : readNumber (rest.reverse ++ [first]).reverse = .ok (.int n) := by
    rw [List.reverse_append, List.reverse_reverse, List.reverse_singleton, List.singleton_append,
      ← hprint, readNumber_printInt h]
  rw [hprint]
  -- Only the character behind the digits shows that the number has ended.
  refine .cons (step_value_number frames hfirst) ((reads_inNumber frames [first] hinside).append ?_)
  exact .single ((step_number hc hread).trans hstep)

/-! ## Styles -/

/-- A comma and a colon, perhaps with white space behind them. -/
structure Style.IsReadable (style : Style) : Prop where
  comma : ∃ blanks, style.betweenMembers = ',' :: blanks ∧ ∀ c ∈ blanks, isSpace c = true
  colon : ∃ blanks, style.afterName = ':' :: blanks ∧ ∀ c ∈ blanks, isSpace c = true

theorem isReadable_compact : Style.compact.IsReadable :=
  ⟨⟨[], rfl, List.forall_mem_nil _⟩, ⟨[], rfl, List.forall_mem_nil _⟩⟩

theorem isReadable_spaced : Style.spaced.IsReadable :=
  ⟨⟨[' '], rfl, List.forall_mem_singleton.2 rfl⟩, ⟨[' '], rfl, List.forall_mem_singleton.2 rfl⟩⟩

theorem isAscii_of_isSpace {cs : List Char} (h : ∀ c ∈ cs, isSpace c = true) :
    Text.IsAscii cs := by
  intro c hc
  have hspace := h c hc
  simp only [isSpace, Bool.or_eq_true, decide_eq_true_eq] at hspace
  obtain ((rfl | rfl) | rfl) | rfl := hspace <;> decide

theorem Style.IsReadable.isAscii {style : Style} (h : style.IsReadable) :
    Text.IsAscii style.betweenMembers ∧ Text.IsAscii style.afterName := by
  obtain ⟨⟨blanks, hcomma, hblanks⟩, ⟨blanks', hcolon, hblanks'⟩⟩ := h
  rw [hcomma, hcolon]
  exact ⟨Text.isAscii_cons.2 ⟨by decide, isAscii_of_isSpace hblanks⟩,
    Text.isAscii_cons.2 ⟨by decide, isAscii_of_isSpace hblanks'⟩⟩

/-- White space in front of a name or of a value is skipped. -/
theorem reads_blanks {phase : Phase} (hphase : phase = .name false ∨ phase = .value false)
    (frames : List Frame) {cs : List Char} (h : ∀ c ∈ cs, isSpace c = true) :
    Reads depth ⟨frames, phase⟩ cs ⟨frames, phase⟩ := by
  induction cs with
  | nil => exact .nil
  | cons c rest ih =>
    obtain ⟨hc, hrest⟩ := List.forall_mem_cons.1 h
    refine .cons ?_ (ih hrest)
    obtain rfl | rfl := hphase <;> simp only [State.step, hc, if_true]

/-! ## Objects -/

/-- The texts are those of the values, name by name. -/
inductive AreTextsOf : List (String × List Char) → Members → Prop
  | nil : AreTextsOf [] []
  | cons {cs : List Char} {value : Json} {texts : List (String × List Char)} {members : Members}
      (name : String) : IsTextOf cs value → AreTextsOf texts members →
      AreTextsOf ((name, cs) :: texts) ((name, value) :: members)

variable {style : Style}

/-- One member, up to the comma or the brace behind it. -/
theorem reads_member (hstyle : style.IsReadable) {cs : List Char} {value : Json}
    (h : IsTextOf cs value) {frames : List Frame} {read : List (String × Json)} (before : String)
    {name : String} (mayClose : Bool) {c : Char} (hc : c = ',' ∨ c = '}') {state : State}
    (hstep : State.step depth ⟨.object ((name, value) :: read) name :: frames, .next⟩ c =
      .ok state) :
    Reads depth ⟨.object read before :: frames, .name mayClose⟩
      (printString name ++ style.afterName ++ cs ++ [c]) state := by
  obtain ⟨blanks, hcolon, hblanks⟩ := hstyle.colon
  have hafter : Reads depth ⟨.object read name :: frames, .colon⟩ style.afterName
      ⟨.object read name :: frames, .value false⟩ := by
    rw [hcolon]
    exact .cons rfl (reads_blanks (.inr rfl) _ hblanks)
  rw [List.append_assoc]
  exact ((reads_printString_name name mayClose).append hafter).append (h depth _ c state hc hstep)

/-- The members behind those already read, and the end of the object. -/
theorem AreTextsOf.reads (hstyle : style.IsReadable) {texts : List (String × List Char)}
    {members : Members} (h : AreTextsOf texts members) (hne : texts ≠ []) (frames : List Frame)
    (read : List (String × Json)) (before : String) (mayClose : Bool) :
    Reads depth ⟨.object read before :: frames, .name mayClose⟩
      (((texts.map fun (name, value) => printString name ++ style.afterName ++ value).intersperse
        style.betweenMembers).flatten ++ ['}'])
      (State.deliver frames (.object (Members.ofList (read.reverse ++ members)))) := by
  -- The members read so far are on the stack in reverse, so the induction is over the rest.
  induction h generalizing read before mayClose with
  | nil => exact absurd rfl hne
  | @cons cs value texts members name hvalue htexts ih =>
    cases htexts with
    | nil =>
      have hclose : State.step depth ⟨.object ((name, value) :: read) name :: frames, .next⟩ '}' =
          .ok (State.deliver frames (.object (Members.ofList (read.reverse ++ [(name, value)])))) := by
        rw [← List.reverse_cons]
        rfl
      simpa using reads_member hstyle hvalue before mayClose (.inr rfl) hclose
    | @cons cs' value' texts members name' hvalue' htexts =>
      obtain ⟨blanks, hbetween, hblanks⟩ := hstyle.comma
      have hcomma : State.step depth ⟨.object ((name, value) :: read) name :: frames, .next⟩ ',' =
          .ok ⟨.object ((name, value) :: read) name :: frames, .name false⟩ := rfl
      have hfirst := (reads_member hstyle hvalue before mayClose (.inl rfl) hcomma).append
        (reads_blanks (.inl rfl) _ hblanks)
      have hrest := ih (List.cons_ne_nil _ _) ((name, value) :: read) name false
      simpa [hbetween] using hfirst.append hrest

/-- An object opens where a value may stand, if there is room for one more container. -/
theorem step_openObject {frames : List Frame} (hroom : frames.length < depth.limit) :
    State.step depth ⟨frames, .value false⟩ '{' =
      .ok ⟨.object [] "" :: frames, .name true⟩ := by
  have hstep : State.step depth ⟨frames, .value false⟩ '{' =
      State.openFrame depth frames (.object [] "") (.name true) true := rfl
  rw [hstep, State.openFrame, if_neg (Nat.not_le.2 hroom)]

/-- The text of an object is read as the object where a value may stand, if there is room for
one more container. -/
theorem AreTextsOf.reads_printObject (hstyle : style.IsReadable)
    {texts : List (String × List Char)} {members : Members} (h : AreTextsOf texts members)
    {frames : List Frame} (hroom : frames.length < depth.limit) :
    Reads depth ⟨frames, .value false⟩ (printObject style texts)
      (State.deliver frames (.object (Members.ofList members))) := by
  have hopen := step_openObject hroom
  cases h with
  | nil => exact .cons hopen (.single rfl)
  | cons name hvalue htexts =>
    exact .cons hopen ((AreTextsOf.cons name hvalue htexts).reads hstyle (List.cons_ne_nil _ _)
      frames [] "" true)

theorem Depth.limit_pos (depth : Depth) : 0 < depth.limit :=
  Nat.lt_of_lt_of_le (by decide) depth.two_le

/-- **An object is read back from its text.** -/
theorem AreTextsOf.read_printObject (depth : Depth) (hstyle : style.IsReadable)
    {texts : List (String × List Char)} {members : Members} (h : AreTextsOf texts members) :
    Json.read depth (printObject style texts) = .ok (.object (Members.ofList members)) := by
  have hreads : Reads depth .start (printObject style texts)
      (State.deliver [] (.object (Members.ofList members))) :=
    h.reads_printObject hstyle depth.limit_pos
  rw [Json.read, hreads]
  rfl

/-- A name that is not there yet comes last. -/
theorem Members.put_of_notMem {ms : Members} {name : String} {value : Json}
    (h : name ∉ ms.map Prod.fst) : ms.put name value = ms ++ [(name, value)] := by
  induction ms with
  | nil => rfl
  | cons m rest ih =>
    obtain ⟨n, v⟩ := m
    rw [List.map_cons, List.mem_cons, not_or] at h
    rw [Members.put, if_neg (Ne.symm h.1), ih h.2, List.cons_append]

/-- **Members of different names stay as they are.** -/
theorem Members.ofList_of_nodup {ms : Members} (h : (ms.map Prod.fst).Nodup) :
    Members.ofList ms = ms := by
  have hfold (done rest : Members) (hnodup : ((done ++ rest).map Prod.fst).Nodup) :
      rest.foldl (fun ms m => Members.put ms m.1 m.2) done = done ++ rest := by
    induction rest generalizing done with
    | nil => exact (List.append_nil done).symm
    | cons m rest ih =>
      obtain ⟨name, value⟩ := m
      have hnew : name ∉ done.map Prod.fst := by
        intro hmem
        rw [List.map_append, List.map_cons, List.nodup_append] at hnodup
        exact hnodup.2.2 name hmem name List.mem_cons_self rfl
      rw [List.foldl_cons]
      simp only [Members.put_of_notMem hnew]
      rw [ih (done ++ [(name, value)]) (by simpa using hnodup), List.append_assoc,
        List.singleton_append]
  exact hfold [] ms h

/-! ## Octets -/

theorem isAscii_printInt (n : Int) : Text.IsAscii (printInt n) := by
  have hcharacter : ∀ c ∈ printInt n, isDigit c = true ∨ c = '-' := by
    obtain ⟨first, rest, hprint, hfirst, hrest⟩ := exists_printInt_eq_cons n
    rw [hprint]
    exact List.forall_mem_cons.2 ⟨hfirst, fun c hc => .inl (hrest c hc)⟩
  intro c hc
  rcases hcharacter c hc with hdigit | rfl
  · rw [isDigit, Bool.and_eq_true, decide_eq_true_eq, decide_eq_true_eq] at hdigit
    exact ⟨Nat.lt_of_lt_of_le (by decide) (Text.toNat_le_toNat hdigit.1),
      Nat.lt_of_le_of_lt (Text.toNat_le_toNat hdigit.2) (by decide)⟩
  · decide

/-- **An object is written in ASCII**, if its values are. -/
theorem isAscii_printObject (hstyle : style.IsReadable) {texts : List (String × List Char)}
    (h : ∀ t ∈ texts, Text.IsAscii t.2) : Text.IsAscii (printObject style texts) := by
  obtain ⟨hbetween, hafter⟩ := hstyle.isAscii
  have hmember : ∀ cs ∈ texts.map
      (fun (name, value) => printString name ++ style.afterName ++ value), Text.IsAscii cs := by
    intro cs hcs
    obtain ⟨⟨name, value⟩, ht, rfl⟩ := List.mem_map.1 hcs
    exact Text.isAscii_append.2 ⟨Text.isAscii_append.2 ⟨isAscii_printString name, hafter⟩, h _ ht⟩
  have hmembers := Text.isAscii_flatten_intersperse hbetween hmember
  exact Text.isAscii_append.2 ⟨Text.isAscii_cons.2 ⟨by decide, hmembers⟩, by decide⟩

/-- **An object is read back from the octets of its text.** -/
theorem AreTextsOf.readBytes_printObject (depth : Depth) {texts : List (String × List Char)}
    {members : Members} (h : AreTextsOf texts members) (hascii : ∀ t ∈ texts, Text.IsAscii t.2) :
    readBytes depth (Utf8.encodeChars (printObject .compact texts)) =
      .ok (.object (Members.ofList members)) := by
  rw [readBytes, (isAscii_printObject isReadable_compact hascii).decodeDetected?_encodeChars]
  exact h.read_printObject depth isReadable_compact

end WebPush.Json
