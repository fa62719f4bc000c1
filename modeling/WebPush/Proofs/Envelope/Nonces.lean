import Mathlib.Data.List.Nodup
import Mathlib.Data.Nat.Bitwise
import WebPush.Proofs.Envelope.RoundTrip
import WebPush.Proofs.Except
/-!
# Envelope — every record has a nonce of its own

The nonce of a record is the base nonce with the record's number added
bit by bit. A number that has room in the twelve octets leaves the sum
room in them, and different numbers give different nonces. The records
of an envelope are fewer than its octets, so unless these are more than
twelve octets can count, no two records are opened under one nonce. What
decrypting opens under which nonce is said by `Opening`: its run over a
list of them is the run over the numbered records.
-/

namespace WebPush

/-- The octets of a number, if the width has room for it. -/
def Bytes.ofNat? (width n : Nat) : Option Bytes :=
  if n < 256 ^ width then some (ofNat width n) else none

namespace Envelope

/-! ## The nonce of a number -/

namespace ContentKeys

variable {base : Bytes} {number number' : Nat}

/-- The base nonce with a number added to it still has room in twelve octets. -/
theorem toNat_xor_lt (hbase : base.length = 12) (h : number < 2 ^ 96) :
    Bytes.toNat base ^^^ number < 256 ^ 12 := by
  have hlt := Bytes.toNat_lt base
  rw [hbase, Bytes.capacity_eq] at hlt
  exact Nat.xor_lt_two_pow (n := 96) hlt h

/-- **Nothing is cut off a nonce**: if its number is checked for room, it is the same. -/
theorem ofNat?_eq_recordNonce (hbase : base.length = 12) (h : number < 2 ^ 96) :
    Bytes.ofNat? 12 (Bytes.toNat base ^^^ number) = some (recordNonce base number) :=
  if_pos (toNat_xor_lt hbase h)

/-- **Different numbers have different nonces.** -/
theorem recordNonce_injective (hbase : base.length = 12) (h : number < 2 ^ 96)
    (h' : number' < 2 ^ 96) (heq : recordNonce base number = recordNonce base number') :
    number = number' := by
  have hread := congrArg Bytes.toNat heq
  rw [recordNonce, recordNonce, Bytes.toNat_ofNat_of_lt (toNat_xor_lt hbase h),
    Bytes.toNat_ofNat_of_lt (toNat_xor_lt hbase h')] at hread
  exact Nat.xor_right_inj.1 hread

/-- The content keys of a message have a base nonce of twelve octets. -/
theorem length_nonce_of_contentKeys {header : Header} {key : KeySource PrivateKey} {auth : Bytes}
    {keys : ContentKeys} (h : header.contentKeys key auth = .ok keys) : keys.nonce.length = 12 := by
  rw [Header.contentKeys] at h
  obtain ⟨d, -, h⟩ := exists_of_bind_eq_ok h
  obtain ⟨secret, -, h⟩ := exists_of_bind_eq_ok h
  obtain ⟨sender, -, h⟩ := exists_of_bind_eq_ok h
  split at h
  · cases h
  · cases h
    exact length_derive_nonce ..

end ContentKeys

/-- **What is sealed under the base nonce opens as the record with number zero.** -/
theorem openRecord_zero {keys : ContentKeys} (hnonce : keys.nonce.length = 12) (payload : Bytes)
    (padding : Nat) :
    openRecord keys 0 true (Gcm.encrypt keys.key keys.nonce (paddedText payload padding)) =
      .ok payload := by
  refine openRecord_eq_ok_iff.2 ⟨padding, ?_⟩
  rw [Chunk.sealed, ContentKeys.recordNonce_zero hnonce]
  rfl

/-! ## Records with their nonces -/

/-- A record and the nonce that it is opened under. -/
structure Opening where
  nonce : Bytes
  record : Bytes
deriving DecidableEq, Repr

namespace Opening

/-- The text of one record. -/
def text (key : Bytes) (last : Bool) (o : Opening) : Except DecryptError Bytes :=
  if o.record.length ≤ Gcm.tagLength then .error (.envelope .shortRecord)
  else match Gcm.decrypt? key o.nonce o.record with
    | none => .error (.crypto .authentication)
    | some opened => (unpad last opened).mapError .envelope

/-- The texts of the records, put together. -/
def texts (key : Bytes) : List Opening → Except DecryptError Bytes
  | [] => .ok []
  | o :: rest => do
    let text ← o.text key rest.isEmpty
    let more ← texts key rest
    return text ++ more

/-- Records with the nonces of their numbers, from a number on. -/
def numbered (base : Bytes) (first : Nat) (records : List Bytes) : List Opening :=
  (records.zipIdx first).map fun (record, number) => ⟨ContentKeys.recordNonce base number, record⟩

variable {base : Bytes} {records : List Bytes}

theorem records_numbered (base : Bytes) (first : Nat) (records : List Bytes) :
    (numbered base first records).map record = records := by
  rw [numbered, List.map_map]
  exact List.zipIdx_map_fst first records

theorem nonces_numbered (base : Bytes) (first : Nat) (records : List Bytes) :
    (numbered base first records).map nonce =
      (List.range' first records.length).map (ContentKeys.recordNonce base) := by
  rw [numbered, List.map_map, ← List.zipIdx_map_snd first records, List.map_map]
  rfl

theorem numbered_eq_nil_iff {first : Nat} : numbered base first records = [] ↔ records = [] := by
  rw [numbered, List.map_eq_nil_iff, List.zipIdx_eq_nil_iff]

/-- **Every record is opened under the nonce of its number**, and under no other. -/
theorem openRecords_eq_texts (keys : ContentKeys) (first : Nat) (records : List Bytes) :
    openRecords keys first records = texts keys.key (numbered keys.nonce first records) := by
  induction records generalizing first with
  | nil => rfl
  | cons record rest ih =>
    have hlast : (numbered keys.nonce (first + 1) rest).isEmpty = rest.isEmpty := by
      cases rest <;> rfl
    rw [openRecords, ih, ← hlast]
    rfl

/-- The records behind a header, opened under their nonces. -/
theorem openBody_eq_texts (keys : ContentKeys) {size : Nat} (hsize : 0 < size) (body : Bytes) :
    openBody keys size body =
      if numbered keys.nonce 0 (Bytes.pieces size body) = [] then .error (.envelope .noRecords)
      else texts keys.key (numbered keys.nonce 0 (Bytes.pieces size body)) := by
  simp only [openBody, openRecords_eq_texts, numbered_eq_nil_iff, Bytes.pieces_eq_nil_iff hsize,
    List.isEmpty_iff]

/-- **The nonces of few records are pairwise distinct.** -/
theorem nodup_nonces (hbase : base.length = 12) (hfew : records.length < 2 ^ 96) :
    ((numbered base 0 records).map nonce).Nodup := by
  rw [nonces_numbered]
  refine List.Nodup.map_on (fun m hm n hn heq => ?_) List.nodup_range'
  rw [List.mem_range'_1] at hm hn
  exact ContentKeys.recordNonce_injective hbase (by omega) (by omega) heq

/-- The nonce at a place among few records has not been cut. -/
theorem ofNat?_of_getElem? (hbase : base.length = 12) (hfew : records.length < 2 ^ 96) {i : Nat}
    {o : Opening} (h : (numbered base 0 records)[i]? = some o) :
    Bytes.ofNat? 12 (Bytes.toNat base ^^^ i) = some o.nonce := by
  rw [numbered, List.getElem?_map, List.getElem?_zipIdx, Nat.zero_add] at h
  obtain ⟨_, hpair, rfl⟩ := Option.map_eq_some_iff.1 h
  obtain ⟨record, hrecord, hrfl⟩ := Option.map_eq_some_iff.1 hpair
  cases hrfl
  have hi : i < records.length := (List.getElem?_eq_some_iff.1 hrecord).1
  exact ContentKeys.ofNat?_eq_recordNonce hbase (Nat.lt_trans hi hfew)

end Opening

/-! ## The records of an envelope -/

/-- **Nonces are never used twice, and never cut.** A base nonce of twelve octets is the nonce of
number zero, under which a single record is sealed; to every number below `2 ^ 96` it gives
twelve octets that hold the whole sum, and to different numbers different ones. Decrypting an
envelope of fewer than `2 ^ 96` octets fails before it gets to the records, or opens each of them
under the nonce of its place: all of these are whole, and no two the same. -/
theorem nonces_distinct :
    (∀ base : Bytes, base.length = 12 →
      ContentKeys.recordNonce base 0 = base ∧
      (∀ number < 2 ^ 96, (ContentKeys.recordNonce base number).length = 12 ∧
        Bytes.ofNat? 12 (Bytes.toNat base ^^^ number) =
          some (ContentKeys.recordNonce base number)) ∧
      ∀ number < 2 ^ 96, ∀ number' < 2 ^ 96,
        ContentKeys.recordNonce base number = ContentKeys.recordNonce base number' →
          number = number') ∧
    (∀ keys : ContentKeys, keys.nonce.length = 12 → ∀ payload padding,
      openRecord keys 0 true (Gcm.encrypt keys.key keys.nonce (paddedText payload padding)) =
        .ok payload) ∧
    ∀ (envelope : Bytes) (key : KeySource PrivateKey) (auth : Bytes), envelope.length < 2 ^ 96 →
      (∃ f, Header.parse envelope = .error f ∧ decrypt envelope key auth = .error (.envelope f)) ∨
      ∃ header, Header.parse envelope = .ok header ∧
        ((∃ e, header.contentKeys key auth = .error e ∧ decrypt envelope key auth = .error e) ∨
        ∃ (keys : ContentKeys) (openings : List Opening),
          header.contentKeys key auth = .ok keys ∧ keys.nonce.length = 12 ∧
          openings.map Opening.record =
            Bytes.pieces header.recordSize (envelope.drop header.length) ∧
          decrypt envelope key auth = (if openings = [] then .error (.envelope .noRecords)
            else Opening.texts keys.key openings) ∧
          (openings.map Opening.nonce).Nodup ∧
          ∀ i o, openings[i]? = some o →
            Bytes.ofNat? 12 (Bytes.toNat keys.nonce ^^^ i) = some o.nonce) := by
  refine ⟨fun base hbase => ⟨ContentKeys.recordNonce_zero hbase, fun number hnumber =>
    ⟨ContentKeys.length_recordNonce base number, ContentKeys.ofNat?_eq_recordNonce hbase hnumber⟩,
    fun number hnumber number' hnumber' => ContentKeys.recordNonce_injective hbase hnumber hnumber'⟩,
    fun keys hnonce => openRecord_zero hnonce, fun envelope key auth hshort => ?_⟩
  cases hparse : Header.parse envelope with
  | error f => exact .inl ⟨f, rfl, by rw [decrypt_eq_bind, hparse]⟩
  | ok header =>
    refine .inr ⟨header, rfl, ?_⟩
    have hdecrypt : decrypt envelope key auth = header.contentKeys key auth >>= fun keys =>
        openBody keys header.recordSize (envelope.drop header.length) := by
      rw [decrypt_eq_bind, hparse]
    rw [hdecrypt]
    cases hkeys : header.contentKeys key auth with
    | error e => exact .inl ⟨e, rfl, rfl⟩
    | ok keys =>
      have hnonce := ContentKeys.length_nonce_of_contentKeys hkeys
      have hsize : 0 < header.recordSize :=
        Nat.lt_of_lt_of_le (by decide) (Header.parse_eq_ok_iff.1 hparse).1.least
      -- The records are no more than the octets behind the header.
      have hfew : (Bytes.pieces header.recordSize (envelope.drop header.length)).length < 2 ^ 96 := by
        refine Nat.lt_of_le_of_lt (Bytes.length_pieces_le hsize _) ?_
        rw [List.length_drop]
        omega
      exact .inr ⟨keys, _, rfl, hnonce, Opening.records_numbered keys.nonce 0 _,
        Opening.openBody_eq_texts keys hsize _, Opening.nodup_nonces hnonce hfew,
        fun i o => Opening.ofNat?_of_getElem? hnonce hfew⟩

/-- Twelve octets, all of whose bits are set. -/
def fullNonce : Bytes := List.replicate 12 0xFF

/-- The greatest number takes all bits of the greatest base nonce away, and the next number has no
room. The two records of a message are opened under the base nonce and another one. -/
theorem nonces_distinct_twoRecords :
    Bytes.ofNat? 12 (Bytes.toNat fullNonce ^^^ (2 ^ 96 - 1)) = some (List.replicate 12 0) ∧
      Bytes.ofNat? 12 (Bytes.toNat fullNonce ^^^ 2 ^ 96) = none ∧
      ∃ (envelope : Bytes) (keys : ContentKeys) (first second : Opening),
        decrypt envelope (.key (.p256 .one)) Octets16.zeros.bytes = .ok [0x61, 0x62] ∧
        Opening.texts keys.key [first, second] = .ok [0x61, 0x62] ∧
        first.nonce = keys.nonce ∧ first.nonce ≠ second.nonce := by
  obtain ⟨hnonces, -, henvelopes⟩ := nonces_distinct
  refine ⟨?_, by decide +kernel, ?_⟩
  · rw [((hnonces fullNonce rfl).2.1 (2 ^ 96 - 1) (by decide)).2]
    decide +kernel
  obtain ⟨-, shared, -, hdecrypt⟩ := decrypt_twoRecords
  let records := Chunk.sealAll (Message.twoRecords.keys .one .zeros shared) 0 Message.twoRecords.chunks
  obtain ⟨hheader, hframed⟩ := Message.fits_sealAll_iff.1
    (Message.fits_twoRecords (Message.twoRecords.keys .one .zeros shared))
  have hparse : Header.parse (Message.twoRecords.envelope records) = .ok Message.twoRecords.header := by
    rw [Message.envelope_eq, hheader.parse_append]
  have hlong : (Message.twoRecords.envelope records).length = 122 := by
    rw [Message.envelope_eq, List.length_append, Header.length_toBytes hheader.salt, Header.length]
    simp [records, Message.twoRecords, Message.header, Chunk.sealAll, Chunk.length_sealed, fixedLength]
  obtain ⟨f, hfault, -⟩ | ⟨header, hread, ⟨e, -, herror⟩ | ⟨keys, openings, -, hlength, hrecords,
    htexts, hnodup, hwhole⟩⟩ := henvelopes _ (.key (.p256 .one)) Octets16.zeros.bytes
      (hlong.trans_lt (by decide))
  · cases hfault.symm.trans hparse
  · cases herror.symm.trans hdecrypt
  cases hread.symm.trans hparse
  have htwo : openings.length = 2 := by
    have hcut := hframed.pieces_flatten (Nat.lt_of_lt_of_le (by decide) hheader.least)
    rw [Message.envelope_eq, hheader.drop_append] at hrecords
    rw [← List.length_map Opening.record, hrecords]
    exact (congrArg List.length hcut).trans (Chunk.length_sealAll ..)
  obtain ⟨first, second, rfl⟩ := List.length_eq_two.1 htwo
  rw [hdecrypt, if_neg (List.cons_ne_nil _ _)] at htexts
  have hfirst := hwhole 0 first rfl
  obtain ⟨hzero, hroom, -⟩ := hnonces keys.nonce hlength
  rw [(hroom 0 (by decide)).2, hzero] at hfirst
  refine ⟨_, keys, first, second, hdecrypt, htexts.symm, (Option.some.inj hfirst).symm, ?_⟩
  exact fun heq => (List.nodup_cons.1 hnodup).1 (List.mem_singleton.2 heq)

end Envelope

end WebPush
