import Mathlib.Data.List.Basic
import WebPush.Envelope.Decrypt
import WebPush.Proofs.Bytes
/-!
# Envelope — the records that open

A record is the sealed form of a text, a delimiter and zeros (`Chunk`).
Opening a list of records gives a message exactly when the records are
the sealed chunks of the message, numbered in order and with the last
one marked as last. Whatever else is in a body is refused.
-/

namespace WebPush.Envelope

/-- What one record holds: a text, and the number of zeros behind its delimiter. -/
structure Chunk where
  text : Bytes
  padding : Nat
deriving DecidableEq, Repr

namespace Chunk

/-- The octets that are sealed. -/
def plain (c : Chunk) (last : Bool) : Bytes :=
  c.text ++ delimiter last :: List.replicate c.padding 0

/-- The record that a chunk becomes under a number. -/
def sealed (c : Chunk) (keys : ContentKeys) (number : Nat) (last : Bool) : Bytes :=
  Gcm.encrypt keys.key (ContentKeys.recordNonce keys.nonce number) (c.plain last)

/-- The records of chunks, from a number on. The one with nothing behind it is the last. -/
def sealAll (keys : ContentKeys) : (number : Nat) → List Chunk → List Bytes
  | _, [] => []
  | number, c :: rest => c.sealed keys number rest.isEmpty :: sealAll keys (number + 1) rest

/-- The texts of chunks, put together. -/
def message (cs : List Chunk) : Bytes := (cs.map text).flatten

/-- **The length of a record**: a tag and a delimiter around text and padding. -/
theorem length_sealed (c : Chunk) (keys : ContentKeys) (number : Nat) (last : Bool) :
    (c.sealed keys number last).length = c.text.length + c.padding + 17 := by
  simp only [sealed, Gcm.length_encrypt, plain, List.length_append, List.length_cons,
    List.length_replicate]
  omega

theorem length_sealAll (keys : ContentKeys) (number : Nat) (cs : List Chunk) :
    (sealAll keys number cs).length = cs.length := by
  induction cs generalizing number with
  | nil => rfl
  | cons c rest ih => rw [sealAll, List.length_cons, List.length_cons, ih]

/-- There are records behind one just when there are chunks behind it. -/
theorem isEmpty_sealAll (keys : ContentKeys) (number : Nat) (cs : List Chunk) :
    (sealAll keys number cs).isEmpty = cs.isEmpty := by
  cases cs <;> rfl

end Chunk

/-! ## One record -/

theorem delimiter_ne_zero (last : Bool) : (delimiter last == 0) = false := by
  cases last <;> decide

/-- **What a text is unpadded from**: itself, the delimiter of its position, and zeros. -/
theorem unpad_eq_ok_iff {last : Bool} {opened text : Bytes} :
    unpad last opened = .ok text ↔ ∃ padding, opened = (Chunk.mk text padding).plain last := by
  constructor
  · intro h
    obtain ⟨tail, hopened, htail⟩ := exists_eq_dropEndWhile_append (· == 0) opened
    rw [unpad] at h
    split at h
    · cases h
    rename_i d hd
    split at h
    · rename_i hdelimiter
      injection h with h
      refine ⟨tail.length, ?_⟩
      -- What was cut off is zeros, and what is left ends in the delimiter.
      have hzeros : tail = List.replicate tail.length 0 :=
        List.eq_replicate_iff.2 ⟨rfl, fun b hb => by simpa using htail b hb⟩
      rw [Chunk.plain, ← hzeros, ← hdelimiter, ← h, ← List.singleton_append, ← List.append_assoc,
        List.dropLast_append_getLast? d hd]
      exact hopened
    · cases h
  · rintro ⟨padding, rfl⟩
    have hstripped : dropEndWhile (· == 0) ((Chunk.mk text padding).plain last) =
        text ++ [delimiter last] :=
      dropEndWhile_append_replicate (p := (· == 0)) text (delimiter_ne_zero last) rfl padding
    rw [unpad, hstripped]
    simp

/-- **The records that open to a text** are the sealed forms of it. -/
theorem openRecord_eq_ok_iff {keys : ContentKeys} {number : Nat} {last : Bool}
    {record text : Bytes} :
    openRecord keys number last record = .ok text ↔
      ∃ padding, record = (Chunk.mk text padding).sealed keys number last := by
  constructor
  · intro h
    rw [openRecord] at h
    split at h
    · cases h
    split at h
    · cases h
    rename_i opened hopened
    rw [Gcm.decrypt?_eq_some_iff] at hopened
    cases hunpad : unpad last opened with
    | error f => rw [hunpad] at h; cases h
    | ok t =>
      rw [hunpad] at h
      injection h with h
      obtain ⟨padding, hplain⟩ := unpad_eq_ok_iff.1 hunpad
      exact ⟨padding, by rw [hopened, hplain, h, Chunk.sealed]⟩
  · rintro ⟨padding, rfl⟩
    have hlong : ¬ ((Chunk.mk text padding).sealed keys number last).length ≤ Gcm.tagLength := by
      rw [Chunk.length_sealed, Gcm.tagLength]
      omega
    have hopen : Gcm.decrypt? keys.key (ContentKeys.recordNonce keys.nonce number)
        ((Chunk.mk text padding).sealed keys number last) =
          some ((Chunk.mk text padding).plain last) :=
      Gcm.decrypt?_eq_some_iff.2 rfl
    rw [openRecord, if_neg hlong, hopen]
    simp only [unpad_eq_ok_iff.2 ⟨padding, rfl⟩]
    rfl

/-- A record that does not open is refused for its form or its tag. -/
theorem openRecord_eq_error {keys : ContentKeys} {number : Nat} {last : Bool} {record : Bytes}
    {e : DecryptError} (h : openRecord keys number last record = .error e) :
    (∃ f, e = .envelope f) ∨ e = .crypto .authentication := by
  rw [openRecord] at h
  split at h
  · injection h with h
    exact .inl ⟨_, h.symm⟩
  split at h
  · injection h with h
    exact .inr h.symm
  · rename_i opened _
    cases hunpad : unpad last opened with
    | error f =>
      rw [hunpad] at h
      injection h with h
      exact .inl ⟨f, h.symm⟩
    | ok text =>
      rw [hunpad] at h
      cases h

/-! ## All records -/

/-- One step of the loop over the records. -/
theorem openRecords_cons_eq_ok_iff {keys : ContentKeys} {number : Nat} {record : Bytes}
    {rest : List Bytes} {message : Bytes} :
    openRecords keys number (record :: rest) = .ok message ↔
      ∃ text more, openRecord keys number rest.isEmpty record = .ok text ∧
        openRecords keys (number + 1) rest = .ok more ∧ message = text ++ more := by
  rw [openRecords]
  cases openRecord keys number rest.isEmpty record with
  | error e => simp [bind, Except.bind]
  | ok text =>
    cases openRecords keys (number + 1) rest with
    | error e => simp [bind, Except.bind]
    | ok more => simp [bind, Except.bind, pure, Except.pure, eq_comm]

/-- **The records that open to a message** are its sealed chunks, in order. -/
theorem openRecords_eq_ok_iff {keys : ContentKeys} {number : Nat} {records : List Bytes}
    {message : Bytes} :
    openRecords keys number records = .ok message ↔
      ∃ cs, records = Chunk.sealAll keys number cs ∧ message = Chunk.message cs := by
  -- The number grows from record to record, and the message is what is left of it.
  induction records generalizing number message with
  | nil =>
    constructor
    · intro h
      injection h with h
      exact ⟨[], rfl, h.symm⟩
    · rintro ⟨cs, hcs, rfl⟩
      have : cs = [] := by
        rw [← List.length_eq_zero_iff, ← Chunk.length_sealAll keys number, ← hcs, List.length_nil]
      rw [this]
      rfl
  | cons record rest ih =>
    rw [openRecords_cons_eq_ok_iff]
    constructor
    · rintro ⟨text, more, hopen, hmore, rfl⟩
      obtain ⟨cs, hrest, rfl⟩ := ih.1 hmore
      obtain ⟨padding, hrecord⟩ := openRecord_eq_ok_iff.1 hopen
      rw [hrest, Chunk.isEmpty_sealAll] at hrecord
      exact ⟨⟨text, padding⟩ :: cs, by rw [Chunk.sealAll, hrecord, hrest], rfl⟩
    · rintro ⟨cs, hcs, rfl⟩
      cases cs with
      | nil => cases hcs
      | cons c cs =>
        rw [Chunk.sealAll] at hcs
        injection hcs with hrecord hrest
        refine ⟨c.text, Chunk.message cs, ?_, ih.2 ⟨cs, hrest, rfl⟩, rfl⟩
        exact openRecord_eq_ok_iff.2 ⟨c.padding, by rw [hrest, Chunk.isEmpty_sealAll, hrecord]⟩

/-- Records that do not open are refused for their form or their tag. -/
theorem openRecords_eq_error {keys : ContentKeys} {number : Nat} {records : List Bytes}
    {e : DecryptError} (h : openRecords keys number records = .error e) :
    (∃ f, e = .envelope f) ∨ e = .crypto .authentication := by
  induction records generalizing number with
  | nil => cases h
  | cons record rest ih =>
    rw [openRecords] at h
    cases hrecord : openRecord keys number rest.isEmpty record with
    | error e' =>
      rw [hrecord] at h
      injection h with h
      exact openRecord_eq_error (h ▸ hrecord)
    | ok text =>
      rw [hrecord] at h
      cases hrest : openRecords keys (number + 1) rest with
      | error e' =>
        have hrest' : openRecords keys (number + 1) rest = .error e := by
          rw [hrest] at h
          injection h with h
          rw [hrest, h]
        exact ih hrest'
      | ok more =>
        rw [hrest] at h
        cases h

end WebPush.Envelope
