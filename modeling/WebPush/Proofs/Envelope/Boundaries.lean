import WebPush.Proofs.Envelope.Message
import WebPush.Proofs.Except
/-!
# Envelope — what is cut off or added between records

The delimiter of a record says whether more records follow, so a record
that opens in one position is refused in the other. An envelope that
decrypts is therefore refused when records are missing at its end, and
when something stands behind a last record of full size. Nothing is
asked of the cipher but that it opens a record in one way.
-/

namespace WebPush

namespace Bytes

variable {α : Type} {size : Nat} {rs : List (List α)}

/-- The first pieces are framed like all of them. -/
theorem Framed.take (h : Framed size rs) {j : Nat} (hpos : 0 < j) (hsize : 0 < size) :
    Framed size (rs.take j) := by
  induction h generalizing j with
  | last hne hle =>
    rw [List.take_of_length_le (by rw [List.length_singleton]; exact hpos)]
    exact .last hne hle
  | @full piece rest hfull hrest ih =>
    obtain ⟨j, rfl⟩ := Nat.exists_eq_succ_of_ne_zero (Nat.pos_iff_ne_zero.1 hpos)
    rw [List.take_succ_cons]
    cases Nat.eq_zero_or_pos j with
    | inl hzero =>
      rw [hzero, List.take_zero]
      exact .last (by rintro rfl; exact absurd hfull (Nat.ne_of_lt hsize)) (Nat.le_of_eq hfull)
    | inr hj => exact .full hfull (ih hj)

/-- Pieces of full size with others behind them. -/
theorem Framed.append {more : List (List α)} (h : Framed size rs)
    (hlast : ∀ piece, rs.getLast? = some piece → piece.length = size) (hmore : Framed size more) :
    Framed size (rs ++ more) := by
  induction h with
  | last hne hle => exact .full (hlast _ rfl) hmore
  | full hfull hrest ih =>
    refine .full hfull (ih fun piece hpiece => hlast piece ?_)
    cases hrest <;> exact hpiece

end Bytes

namespace Envelope

variable {keys : ContentKeys} {number : Nat} {text message : Bytes} {records : List Bytes}

/-! ## One record -/

/-- A text unpadded in one position has the wrong delimiter for the other. -/
theorem unpad_not {last : Bool} {opened : Bytes} (h : unpad last opened = .ok text) :
    unpad (!last) opened = .error .wrongDelimiter := by
  rw [unpad] at h ⊢
  split at h
  · cases h
  split at h
  · rename_i hdelimiter
    have hother : delimiter last ≠ delimiter (!last) := by cases last <;> decide
    simp only [hdelimiter, if_neg hother]
  · cases h

/-- **A record opens in one position only.** -/
theorem openRecord_not {last : Bool} {record : Bytes}
    (h : openRecord keys number last record = .ok text) :
    openRecord keys number (!last) record = .error (.envelope .wrongDelimiter) := by
  rw [openRecord] at h ⊢
  split at h
  · cases h
  rename_i hlong
  rw [if_neg hlong]
  split at h
  · cases h
  rename_i opened _
  cases hunpad : unpad last opened with
  | error f =>
    rw [hunpad] at h
    cases h
  | ok t =>
    simp only [unpad_not hunpad]
    rfl

/-! ## All records -/

/-- The first record that does not open decides. -/
theorem openRecords_cons_of_error {record : Bytes} {rest : List Bytes} {e : DecryptError}
    (h : openRecord keys number rest.isEmpty record = .error e) :
    openRecords keys number (record :: rest) = .error e := by
  rw [openRecords, h]
  rfl

/-- Behind a record that opens the others decide. -/
theorem openRecords_cons_of_ok {record : Bytes} {rest : List Bytes} {e : DecryptError}
    (hrecord : openRecord keys number rest.isEmpty record = .ok text)
    (hrest : openRecords keys (number + 1) rest = .error e) :
    openRecords keys number (record :: rest) = .error e := by
  rw [openRecords, hrecord, hrest]
  rfl

/-- **Records are missed at the end**: the one that has become the last is not marked so. -/
theorem openRecords_take (h : openRecords keys number records = .ok message) {j : Nat} (hpos : 0 < j)
    (hj : j < records.length) :
    openRecords keys number (records.take j) = .error (.envelope .wrongDelimiter) := by
  -- The records in front of the cut open as before: there are still others behind them.
  induction records generalizing number message j with
  | nil => cases hj
  | cons record rest ih =>
    obtain ⟨t, more, hopen, hmore, -⟩ := openRecords_cons_eq_ok_iff.1 h
    obtain ⟨j, rfl⟩ := Nat.exists_eq_succ_of_ne_zero (Nat.pos_iff_ne_zero.1 hpos)
    have hrest : j < rest.length := Nat.lt_of_succ_lt_succ hj
    have hinner : rest.isEmpty = false := by
      cases rest with
      | nil => cases hrest
      | cons _ _ => rfl
    rw [hinner] at hopen
    rw [List.take_succ_cons]
    cases Nat.eq_zero_or_pos j with
    | inl hzero =>
      rw [hzero, List.take_zero]
      exact openRecords_cons_of_error (openRecord_not hopen)
    | inr hj =>
      have hstill : (rest.take j).isEmpty = false := by
        rw [List.isEmpty_eq_false_iff, Ne, List.take_eq_nil_iff, not_or]
        exact ⟨Nat.pos_iff_ne_zero.1 hj, List.isEmpty_eq_false_iff.1 hinner⟩
      rw [← hstill] at hopen
      exact openRecords_cons_of_ok hopen (ih hmore hj hrest)

/-- **Records are seen behind the last**: it is marked as if there were none. -/
theorem openRecords_append (h : openRecords keys number records = .ok message) (hne : records ≠ [])
    {more : List Bytes} (hmore : more ≠ []) :
    openRecords keys number (records ++ more) = .error (.envelope .wrongDelimiter) := by
  induction records generalizing number message with
  | nil => exact absurd rfl hne
  | cons record rest ih =>
    obtain ⟨t, others, hopen, hothers, -⟩ := openRecords_cons_eq_ok_iff.1 h
    have hinner : (rest ++ more).isEmpty = false :=
      List.isEmpty_eq_false_iff.2 (List.append_ne_nil_of_right_ne_nil _ hmore)
    rw [List.cons_append]
    cases rest with
    | nil =>
      refine openRecords_cons_of_error ?_
      rw [hinner]
      exact openRecord_not hopen
    | cons second rest =>
      have hsame : (second :: rest).isEmpty = (second :: rest ++ more).isEmpty := rfl
      rw [hsame] at hopen
      exact openRecords_cons_of_ok hopen (ih hothers (List.cons_ne_nil _ _))

/-! ## Bodies -/

/-- A framed body is opened record by record. -/
theorem openBody_flatten {size : Nat} (hsize : 0 < size) (hframed : Bytes.Framed size records) :
    openBody keys size records.flatten = openRecords keys 0 records := by
  have hne : records.flatten.isEmpty = false :=
    List.isEmpty_eq_false_iff.2 (hframed.flatten_ne_nil hsize)
  rw [openBody, hne, hframed.pieces_flatten hsize]
  rfl

/-- A body with records missing at its end. -/
theorem openBody_take {size : Nat} (hsize : 0 < size) (hframed : Bytes.Framed size records)
    (h : openBody keys size records.flatten = .ok message) {j : Nat} (hj : j < records.length) :
    openBody keys size (records.take j).flatten =
      .error (.envelope (if j = 0 then .noRecords else .wrongDelimiter)) := by
  cases Nat.eq_zero_or_pos j with
  | inl hzero =>
    rw [hzero]
    rfl
  | inr hpos =>
    rw [openBody_flatten hsize hframed] at h
    rw [openBody_flatten hsize (hframed.take hpos hsize), openRecords_take h hpos hj,
      if_neg (Nat.pos_iff_ne_zero.1 hpos)]

/-- A body with something behind a last record of full size. -/
theorem openBody_append {size : Nat} (hsize : 0 < size) (hframed : Bytes.Framed size records)
    (h : openBody keys size records.flatten = .ok message)
    (hfull : ∀ last, records.getLast? = some last → last.length = size) {extra : Bytes}
    (hextra : extra ≠ []) :
    openBody keys size (records.flatten ++ extra) = .error (.envelope .wrongDelimiter) := by
  obtain ⟨hmore, hflatten⟩ := Bytes.framed_pieces hsize hextra
  have hne : records ≠ [] := by
    rintro rfl
    cases hframed
  have hpieces : Bytes.pieces size extra ≠ [] := by
    intro hnil
    rw [hnil] at hmore
    cases hmore
  rw [openBody_flatten hsize hframed] at h
  rw [← hflatten, ← List.flatten_append, openBody_flatten hsize (hframed.append hfull hmore),
    openRecords_append h hne hpieces]

/-! ## Envelopes -/

/-- An envelope falls into a header and the records behind it. -/
structure IsCut (header : Header) (records : List Bytes) (envelope : Bytes) : Prop where
  wellFormed : header.WellFormed
  framed : Bytes.Framed header.recordSize records
  eq_append : envelope = header.toBytes ++ records.flatten

theorem IsCut.size_pos {header : Header} {envelope : Bytes} (h : IsCut header records envelope) :
    0 < header.recordSize :=
  Nat.lt_of_lt_of_le (by decide) h.wellFormed.least

/-- **An envelope is cut in one way.** -/
theorem IsCut.unique {header header' : Header} {records' : List Bytes} {envelope : Bytes}
    (h : IsCut header records envelope) (h' : IsCut header' records' envelope) :
    header = header' ∧ records = records' := by
  have hheader : header = header' := by
    have hparse := h.wellFormed.parse_append records.flatten
    rw [← h.eq_append, h'.eq_append, h'.wellFormed.parse_append] at hparse
    injection hparse with hparse
    exact hparse.symm
  subst hheader
  have hflatten := List.append_cancel_left (h.eq_append.symm.trans h'.eq_append)
  refine ⟨rfl, ?_⟩
  rw [← h.framed.pieces_flatten h.size_pos, hflatten, h'.framed.pieces_flatten h.size_pos]

/-- Behind one header every body is opened under the same keys, which are there if
any body decrypts. -/
theorem exists_keys_of_decrypt {header : Header} (hheader : header.WellFormed) {body auth : Bytes}
    {key : KeySource PrivateKey} (h : decrypt (header.toBytes ++ body) key auth = .ok text) :
    ∃ keys, ∀ body', decrypt (header.toBytes ++ body') key auth =
      openBody keys header.recordSize body' := by
  rw [decrypt_eq_bind, hheader.parse_append] at h
  obtain ⟨keys, hkeys, -⟩ := exists_of_bind_eq_ok h
  refine ⟨keys, fun body' => ?_⟩
  rw [decrypt_eq_bind, hheader.parse_append]
  simp only [hkeys, hheader.drop_append]
  rfl

/-- What decrypts can be cut. -/
theorem exists_isCut_of_decrypt {envelope auth : Bytes} {key : KeySource PrivateKey}
    (h : decrypt envelope key auth = .ok text) : ∃ header records, IsCut header records envelope := by
  have hparse : ∃ header, Header.parse envelope = .ok header := by
    cases hparse : Header.parse envelope with
    | ok header => exact ⟨header, rfl⟩
    | error f =>
      rw [decrypt, hparse] at h
      cases h
  obtain ⟨header, hparse⟩ := hparse
  obtain ⟨hheader, body, rfl⟩ := Header.parse_eq_ok_iff.1 hparse
  obtain ⟨keys, hkeys⟩ := exists_keys_of_decrypt hheader h
  have hbody : body ≠ [] := by
    rintro rfl
    rw [hkeys, openBody] at h
    cases h
  have hsize : 0 < header.recordSize := Nat.lt_of_lt_of_le (by decide) hheader.least
  obtain ⟨hframed, hflatten⟩ := Bytes.framed_pieces hsize hbody
  exact ⟨header, _, hheader, hframed, by rw [hflatten]⟩

/-- **Cuts and additions at the boundaries of records are found.** What decrypts falls
into a header and records in one way. With only the first of the records it is
refused, and so it is with anything behind them if the last one has full size. -/
theorem decrypt_boundaries {envelope auth : Bytes} {key : KeySource PrivateKey}
    (h : decrypt envelope key auth = .ok text) :
    ∃ header records, IsCut header records envelope ∧
      (∀ header' records', IsCut header' records' envelope →
        header = header' ∧ records = records') ∧
      (∀ j < records.length, decrypt (header.toBytes ++ (records.take j).flatten) key auth =
        .error (.envelope (if j = 0 then .noRecords else .wrongDelimiter))) ∧
      ∀ last, records.getLast? = some last → last.length = header.recordSize → ∀ extra, extra ≠ [] →
        decrypt (envelope ++ extra) key auth = .error (.envelope .wrongDelimiter) := by
  obtain ⟨header, records, hcut⟩ := exists_isCut_of_decrypt h
  have hsize := hcut.size_pos
  refine ⟨header, records, hcut, fun _ _ hcut' => hcut.unique hcut', ?_⟩
  obtain ⟨hheader, hframed, rfl⟩ := hcut
  -- What is cut or extended keeps its header, so it is opened under the same keys.
  obtain ⟨keys, hkeys⟩ := exists_keys_of_decrypt hheader h
  rw [hkeys] at h
  constructor
  · intro j hj
    rw [hkeys]
    exact openBody_take hsize hframed h hj
  · intro last hlast hfull extra hextra
    rw [List.append_assoc, hkeys]
    refine openBody_append hsize hframed h (fun record hrecord => ?_) hextra
    rw [hlast] at hrecord
    injection hrecord with hrecord
    exact hrecord ▸ hfull

/-- A message's envelope is cut into its header and its sealed chunks. -/
theorem Message.isCut_envelope {m : Message} {keys : ContentKeys}
    (h : m.Fits (Chunk.sealAll keys 0 m.chunks)) :
    IsCut m.header (Chunk.sealAll keys 0 m.chunks)
      (m.envelope (Chunk.sealAll keys 0 m.chunks)) := by
  obtain ⟨hheader, hframed⟩ := fits_sealAll_iff.1 h
  exact ⟨hheader, hframed, m.envelope_eq _⟩

/-- Two full records: none of them, one of them, and more than them. -/
theorem decrypt_boundaries_twoRecords :
    ∃ records, Message.twoRecords.Fits records ∧
      decrypt (Message.twoRecords.envelope records) (.key (.p256 .one)) Octets16.zeros.bytes =
        .ok [0x61, 0x62] ∧
      decrypt (Message.twoRecords.header.toBytes ++ (records.take 0).flatten) (.key (.p256 .one))
        Octets16.zeros.bytes = .error (.envelope .noRecords) ∧
      decrypt (Message.twoRecords.header.toBytes ++ (records.take 1).flatten) (.key (.p256 .one))
        Octets16.zeros.bytes = .error (.envelope .wrongDelimiter) ∧
      decrypt (Message.twoRecords.envelope records ++ [0]) (.key (.p256 .one))
        Octets16.zeros.bytes = .error (.envelope .wrongDelimiter) := by
  obtain ⟨shared, hshared⟩ := P256.exists_sharedSecret? .one P256.generator
  let keys := Message.twoRecords.keys .one .zeros shared
  have hfits := Message.fits_twoRecords keys
  have hcarried : Message.twoRecords.IsCarriedBy .one .zeros (Message.twoRecords.envelope
      (Chunk.sealAll keys 0 Message.twoRecords.chunks)) := ⟨shared, hshared, hfits, rfl⟩
  have hdecrypt := hcarried.decrypt_eq_ok (PrivateKey.load_key .one)
  obtain ⟨header, records, -, hunique, htake, happend⟩ := decrypt_boundaries hdecrypt
  obtain ⟨rfl, rfl⟩ := hunique _ _ (Message.isCut_envelope hfits)
  have htwo : (Chunk.sealAll keys 0 Message.twoRecords.chunks).length = 2 :=
    Chunk.length_sealAll ..
  have hlast : (Chunk.sealAll keys 0 Message.twoRecords.chunks).getLast? =
      some ((⟨[0x62], 0⟩ : Chunk).sealed keys 1 true) := rfl
  have hfull : ((⟨[0x62], 0⟩ : Chunk).sealed keys 1 true).length = 18 := Chunk.length_sealed ..
  have hnone := htake 0 (by rw [htwo]; decide)
  have hone := htake 1 (by rw [htwo]; decide)
  rw [if_pos rfl] at hnone
  rw [if_neg Nat.one_ne_zero] at hone
  exact ⟨_, hfits, hdecrypt, hnone, hone, happend _ hlast hfull [0] (List.cons_ne_nil _ _)⟩

end Envelope

end WebPush
