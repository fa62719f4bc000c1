import WebPush.Proofs.Except
import WebPush.Proofs.Json.Strings
/-!
# Json — how deep a text may nest

The reader never holds more containers open than it may. It stops for
this reason at one kind of place only: where a value may come, with so
many containers open, and one more begins. `NestsTooDeeply` says of a
text that it has such a place, and that the reader gets there.
-/

namespace WebPush.Json

variable {depth : Depth}

/-! ## Where a text stops being read -/

/-- **A text cannot be followed** if and only if there is a first character in it that cannot. -/
theorem foldlM_step_eq_error_iff {cs : List Char} {state : State} {f : Fault} :
    cs.foldlM (State.step depth) state = .error f ↔ ∃ front c rest state',
      cs = front ++ c :: rest ∧ Reads depth state front state' ∧ state'.step depth c = .error f := by
  constructor
  · intro h
    induction cs generalizing state with
    | nil => cases h
    | cons c rest ih =>
      rw [List.foldlM_cons] at h
      cases hstep : state.step depth c with
      | error f' =>
        rw [hstep] at h
        exact ⟨[], c, rest, state, rfl, .nil, hstep.trans h⟩
      | ok next =>
        rw [hstep] at h
        obtain ⟨front, c', rest', state', rfl, hreads, hfault⟩ := ih h
        exact ⟨c :: front, c', rest', state', rfl, .cons hstep hreads, hfault⟩
  · rintro ⟨front, c, rest, state', rfl, hreads, hfault⟩
    rw [List.foldlM_append, hreads]
    change (c :: rest).foldlM (State.step depth) state' = .error f
    rw [List.foldlM_cons, hfault]
    rfl

/-! ## Containers that are open -/

namespace State

variable {state state' : State} {frames : List Frame} {c : Char} {insideObject : Bool}

/-- No more containers are open than may be. -/
def IsShallow (depth : Depth) (state : State) : Prop := state.frames.length ≤ depth.limit

/-- A value that is delivered opens no container. -/
theorem isShallow_deliver (h : frames.length ≤ depth.limit) (value : Json) :
    (deliver frames value).IsShallow depth := by
  rw [deliver.eq_def]
  split <;> exact h

theorem isShallow_of_openFrame {frame : Frame} {phase : Phase}
    (h : openFrame depth frames frame phase insideObject = .ok state') : state'.IsShallow depth := by
  rw [openFrame] at h
  split at h
  · cases h
  · rename_i hroom
    cases h
    exact Nat.not_le.1 hroom

theorem isShallow_of_beginValue (hframes : frames.length ≤ depth.limit)
    (h : beginValue depth frames c = .ok state') : state'.IsShallow depth := by
  rw [beginValue] at h
  split at h
  · cases h
    exact hframes
  split at h
  · exact isShallow_of_openFrame h
  split at h
  · exact isShallow_of_openFrame h
  -- What is left opens no container.
  repeat' split at h
  all_goals cases h
  all_goals exact hframes

theorem isShallow_of_afterValue (hframes : frames.length ≤ depth.limit)
    (h : afterValue frames c = .ok state') : state'.IsShallow depth := by
  rw [afterValue.eq_def] at h
  split at h
  · rename_i items rest
    split at h
    · cases h
      exact hframes
    split at h
    · cases h
      exact isShallow_deliver (Nat.le_of_succ_le hframes) _
    · cases h
  · rename_i members name rest
    split at h
    · cases h
      exact hframes
    split at h
    · cases h
      exact isShallow_deliver (Nat.le_of_succ_le hframes) _
    · cases h
  · cases h

theorem isShallow_deliverString (hframes : frames.length ≤ depth.limit) (isName : Bool)
    (reversed : List Char) : (deliverString frames isName reversed).IsShallow depth := by
  rw [deliverString.eq_def]
  dsimp only
  split
  · exact hframes
  · exact isShallow_deliver hframes _

theorem isShallow_of_stringChar (hframes : frames.length ≤ depth.limit) {isName : Bool}
    {reversed : List Char} (h : stringChar frames isName reversed c = .ok state') :
    state'.IsShallow depth := by
  rw [stringChar] at h
  repeat' split at h
  all_goals cases h
  · exact isShallow_deliverString hframes _ _
  all_goals exact hframes

theorem isShallow_of_escapedChar (hframes : frames.length ≤ depth.limit) {isName : Bool}
    {reversed : List Char} (h : escapedChar frames isName reversed c = .ok state') :
    state'.IsShallow depth := by
  rw [escapedChar] at h
  repeat' split at h
  all_goals cases h
  all_goals exact hframes

theorem isShallow_of_stepString (hframes : frames.length ≤ depth.limit) {isName : Bool}
    {reversed : List Char} {pending : Pending}
    (h : stepString frames isName reversed pending c = .ok state') : state'.IsShallow depth := by
  rw [stepString.eq_def] at h
  dsimp only at h
  repeat' split at h
  all_goals first
    | exact isShallow_of_stringChar hframes h
    | exact isShallow_of_escapedChar hframes h
    | cases h
  all_goals exact hframes

theorem isShallow_of_stepBetween (hstate : state.IsShallow depth)
    (h : state.stepBetween depth c = .ok state') : state'.IsShallow depth := by
  rw [stepBetween.eq_def] at h
  obtain ⟨frames, phase⟩ := state
  dsimp only at h
  split at h
  · split at h
    · cases h
      exact isShallow_deliver (Nat.le_of_succ_le hstate) _
    · exact isShallow_of_beginValue hstate h
  · split at h
    · cases h
      exact isShallow_deliver (Nat.le_of_succ_le hstate) _
    · cases h
      exact hstate
    · cases h
  · split at h <;> cases h
    exact hstate
  · exact isShallow_of_afterValue hstate h
  · cases h

/-- **One character** never opens a container too many. -/
theorem isShallow_of_step (hstate : state.IsShallow depth) (h : state.step depth c = .ok state') :
    state'.IsShallow depth := by
  rw [step.eq_def] at h
  split at h
  · exact isShallow_of_stepString hstate h
  · repeat' split at h
    all_goals cases h
    · exact isShallow_deliver hstate _
    · exact hstate
  · split at h
    · cases h
      exact hstate
    split at h
    · cases h
      exact hstate
    obtain ⟨value, -, h⟩ := exists_of_bind_eq_ok h
    have hdelivered : (deliver state.frames value).IsShallow depth := isShallow_deliver hstate value
    dsimp only at h
    split at h
    · cases h
      exact hdelivered
    · exact isShallow_of_stepBetween hdelivered h
  · split at h
    · cases h
      exact hstate
    · exact isShallow_of_stepBetween hstate h

/-! ## Containers that are one too many -/

/-- The character that begins a container. -/
def bracket (insideObject : Bool) : Char := if insideObject then '{' else '['

theorem openFrame_eq_tooDeep_iff {frame : Frame} {phase : Phase} {isObject : Bool} :
    openFrame depth frames frame phase isObject = .error (.tooDeep insideObject) ↔
      depth.limit ≤ frames.length ∧ isObject = insideObject := by
  rw [openFrame]
  split
  · rename_i hfull
    simp [hfull]
  · rename_i hroom
    exact iff_of_false nofun fun h => hroom h.1

/-- **A value that begins** is refused for its depth where it is a container and no more may be
opened. -/
theorem beginValue_eq_tooDeep_iff : beginValue depth frames c = .error (.tooDeep insideObject) ↔
    depth.limit ≤ frames.length ∧ c = bracket insideObject := by
  by_cases hobject : c = '{'
  · subst hobject
    simp only [beginValue, Char.reduceEq, if_false, if_true, openFrame_eq_tooDeep_iff]
    cases insideObject <;> simp [bracket]
  by_cases harray : c = '['
  · subst harray
    simp only [beginValue, Char.reduceEq, if_false, if_true, openFrame_eq_tooDeep_iff]
    cases insideObject <;> simp [bracket]
  have hbracket : c ≠ bracket insideObject := by
    cases insideObject
    · exact harray
    · exact hobject
  refine iff_of_false ?_ fun h => hbracket h.2
  simp only [beginValue, hobject, harray, if_false]
  repeat' split
  all_goals rintro ⟨⟩

theorem readNumber_ne_tooDeep (cs : List Char) : readNumber cs ≠ .error (.tooDeep insideObject) := by
  simp only [readNumber]
  repeat' split
  all_goals rintro ⟨⟩

theorem afterValue_ne_tooDeep : afterValue frames c ≠ .error (.tooDeep insideObject) := by
  rw [afterValue.eq_def]
  repeat' split
  all_goals rintro ⟨⟩

theorem stepString_ne_tooDeep (isName : Bool) (reversed : List Char) (pending : Pending) :
    stepString frames isName reversed pending c ≠ .error (.tooDeep insideObject) := by
  simp only [stepString.eq_def, stringChar, escapedChar]
  repeat' split
  all_goals rintro ⟨⟩

/-- Behind a value that is complete nothing opens. -/
theorem stepBetween_deliver_ne_tooDeep (frames : List Frame) (value : Json) :
    (deliver frames value).stepBetween depth c ≠ .error (.tooDeep insideObject) := by
  rw [deliver.eq_def]
  split <;> simp only [stepBetween]
  · exact nofun
  · exact afterValue_ne_tooDeep
  · exact afterValue_ne_tooDeep

/-- Where a value may come, one begins, unless the character can begin no container. -/
theorem step_value_cases (frames : List Frame) (mayClose : Bool) (c : Char) :
    step depth ⟨frames, .value mayClose⟩ c = beginValue depth frames c ∨
      (∀ insideObject, c ≠ bracket insideObject) ∧
        ∃ next, step depth ⟨frames, .value mayClose⟩ c = .ok next := by
  simp only [step, stepBetween]
  split
  · rename_i hspace
    refine .inr ⟨fun insideObject => ?_, _, rfl⟩
    rintro rfl
    cases insideObject <;> cases hspace
  split
  · refine .inr ⟨fun insideObject => ?_, _, rfl⟩
    cases insideObject <;> decide
  · exact .inl rfl

/-- **One character** is refused for its depth where a value may come, where it begins a
container, and where no more may be opened. -/
theorem step_eq_tooDeep_iff : state.step depth c = .error (.tooDeep insideObject) ↔
    (∃ mayClose, state.phase = .value mayClose) ∧ depth.limit ≤ state.frames.length ∧
      c = bracket insideObject := by
  obtain ⟨frames, phase⟩ := state
  cases phase with
  | value mayClose =>
    obtain heq | ⟨hbracket, next, heq⟩ := step_value_cases frames mayClose c
    · rw [heq, beginValue_eq_tooDeep_iff]
      exact (and_iff_right ⟨mayClose, rfl⟩).symm
    · rw [heq]
      exact iff_of_false (by rintro ⟨⟩) fun h => hbracket insideObject h.2.2
  | string isName reversed pending =>
    exact iff_of_false (stepString_ne_tooDeep isName reversed pending) (by rintro ⟨⟨_, ⟨⟩⟩, -⟩)
  | number reversed =>
    refine iff_of_false ?_ (by rintro ⟨⟨_, ⟨⟩⟩, -⟩)
    simp only [step]
    split
    · rintro ⟨⟩
    split
    · rintro ⟨⟩
    cases hnumber : readNumber reversed.reverse with
    | error f =>
      intro h
      cases h
      exact readNumber_ne_tooDeep _ hnumber
    | ok value =>
      simp only [Except.bind]
      split
      · rintro ⟨⟩
      · exact stepBetween_deliver_ne_tooDeep frames value
  | next =>
    refine iff_of_false ?_ (by rintro ⟨⟨_, ⟨⟩⟩, -⟩)
    simp only [step, stepBetween]
    split
    · rintro ⟨⟩
    · exact afterValue_ne_tooDeep
  | name mayClose | colon | word rest result | done result =>
    refine iff_of_false ?_ (by rintro ⟨⟨_, ⟨⟩⟩, -⟩)
    simp only [step, stepBetween]
    repeat' split
    all_goals rintro ⟨⟩

theorem finish_ne_tooDeep : state.finish ≠ .error (.tooDeep insideObject) := by
  rw [finish.eq_def]
  split
  · rintro ⟨⟩
  · rename_i reversed _
    cases hnumber : readNumber reversed.reverse with
    | error f =>
      intro h
      cases h
      exact readNumber_ne_tooDeep _ hnumber
    | ok value =>
      simp only [Except.bind]
      split <;> rintro ⟨⟩
  · rintro ⟨⟩

end State

/-! ## Texts that nest too deeply -/

/-- No state on the way has too many containers open. -/
theorem Reads.isShallow {state state' : State} {cs : List Char} (h : Reads depth state cs state')
    (hstate : state.IsShallow depth) : state'.IsShallow depth := by
  induction cs generalizing state with
  | nil =>
    cases h
    exact hstate
  | cons c rest ih =>
    rw [Reads, List.foldlM_cons] at h
    obtain ⟨next, hstep, hrest⟩ := exists_of_bind_eq_ok h
    exact ih hrest (State.isShallow_of_step hstate hstep)

/-- **A text that nests too deeply** can be followed to a place where a value may come and as many
containers are open as may be, and there one more begins, an object or an array. -/
def NestsTooDeeply (depth : Depth) (insideObject : Bool) (cs : List Char) : Prop :=
  ∃ front rest state mayClose, cs = front ++ State.bracket insideObject :: rest ∧
    Reads depth .start front state ∧ state.phase = .value mayClose ∧ state.frames.length = depth.limit

/-- **Depth is the reason** for which a text is refused, if and only if it nests too deeply. -/
theorem read_eq_tooDeep_iff {cs : List Char} {insideObject : Bool} :
    read depth cs = .error (.tooDeep insideObject) ↔ NestsTooDeeply depth insideObject cs := by
  constructor
  · intro h
    rw [read] at h
    cases hfold : cs.foldlM (State.step depth) .start with
    | ok state =>
      rw [hfold] at h
      exact absurd h State.finish_ne_tooDeep
    | error f =>
      rw [hfold] at h
      cases h
      obtain ⟨front, c, rest, state, rfl, hreads, hstep⟩ := foldlM_step_eq_error_iff.1 hfold
      obtain ⟨⟨mayClose, hphase⟩, hfull, rfl⟩ := State.step_eq_tooDeep_iff.1 hstep
      exact ⟨front, rest, state, mayClose, rfl, hreads, hphase,
        Nat.le_antisymm (hreads.isShallow (Nat.zero_le _)) hfull⟩
  · rintro ⟨front, rest, state, mayClose, rfl, hreads, hphase, hfull⟩
    have hstep : state.step depth (State.bracket insideObject) = .error (.tooDeep insideObject) :=
      State.step_eq_tooDeep_iff.2 ⟨⟨mayClose, hphase⟩, Nat.le_of_eq hfull.symm, rfl⟩
    have hfold := foldlM_step_eq_error_iff.2 ⟨front, _, rest, state, rfl, hreads, hstep⟩
    rw [read, hfold]
    rfl

/-- The same of octets, in whichever encoding they are. -/
theorem readBytes_eq_tooDeep_iff {bs : Bytes} {insideObject : Bool} :
    readBytes depth bs = .error (.tooDeep insideObject) ↔
      ∃ cs, Text.decodeDetected? bs = some cs ∧ NestsTooDeeply depth insideObject cs := by
  rw [readBytes]
  cases Text.decodeDetected? bs with
  | none => exact iff_of_false nofun nofun
  | some cs => simp only [read_eq_tooDeep_iff, Option.some.injEq, exists_eq_left']

/-! ## Brackets -/

/-- Brackets alone open one array inside the other. -/
theorem exists_reads_brackets {count : Nat} (h : count ≤ depth.limit) : ∃ mayClose,
    Reads depth .start (List.replicate count '[')
      ⟨List.replicate count (.array []), .value mayClose⟩ := by
  induction count with
  | zero => exact ⟨false, .nil⟩
  | succ count ih =>
    obtain ⟨mayClose, hreads⟩ := ih (Nat.le_of_succ_le h)
    have hopen : State.step depth ⟨List.replicate count (.array []), .value mayClose⟩ '[' =
        .ok ⟨List.replicate (count + 1) (.array []), .value true⟩ := by
      obtain hbegin | ⟨hnone, -⟩ :=
        State.step_value_cases (List.replicate count (.array [])) mayClose '['
      · have hroom : ¬ depth.limit ≤ (List.replicate count (Frame.array [])).length := by
          rw [List.length_replicate]
          exact Nat.not_le.2 h
        rw [hbegin, State.beginValue]
        simp only [Char.reduceEq, if_false, if_true, State.openFrame, hroom, List.replicate_succ]
      · exact absurd rfl (hnone false)
    rw [List.replicate_succ']
    exact ⟨true, hreads.append (.single hopen)⟩

/-- **More brackets than containers may be open** nest too deeply. -/
theorem nestsTooDeeply_brackets {count : Nat} (h : depth.limit < count) :
    NestsTooDeeply depth false (List.replicate count '[') := by
  obtain ⟨rest, rfl⟩ := Nat.exists_eq_add_of_lt h
  obtain ⟨mayClose, hreads⟩ := exists_reads_brackets (Nat.le_refl depth.limit)
  refine ⟨_, List.replicate rest '[', _, mayClose, ?_, hreads, rfl, List.length_replicate⟩
  rw [Nat.add_assoc, ← List.replicate_append_replicate, List.replicate_succ]
  rfl

theorem readBytes_brackets {count : Nat} (h : depth.limit < count) :
    readBytes depth (Utf8.encodeChars (List.replicate count '[')) = .error (.tooDeep false) := by
  have hascii : Text.IsAscii (List.replicate count '[') :=
    List.forall_mem_replicate.2 (.inr (by decide))
  exact readBytes_eq_tooDeep_iff.2
    ⟨_, hascii.decodeDetected?_encodeChars, nestsTooDeeply_brackets h⟩

end WebPush.Json
