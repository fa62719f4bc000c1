import WebPush.Envelope.Header
import WebPush.Proofs.Bytes
/-!
# Envelope — reading the header is undoing its writing

A header is read off an envelope exactly when the envelope begins with
it, its salt and key identifier have lengths that fit, and its record
size leaves room for a delimiter behind a tag. What an envelope without
a header is refused for depends on its length, on the octet that counts
the key identifier, and on the record size that it states (`Spoils`).
-/

namespace WebPush.Envelope

namespace Header

/-- A header that can be written: a salt of sixteen octets, a record size
in four octets that has room for something, a short key identifier. -/
structure WellFormed (h : Header) : Prop where
  salt : h.salt.length = 16
  least : 18 ≤ h.recordSize
  fits : h.recordSize < 256 ^ 4
  keyId : h.keyId.length < 256

theorem length_toBytes {h : Header} (hsalt : h.salt.length = 16) :
    h.toBytes.length = h.length := by
  simp only [toBytes, length, fixedLength, List.length_append, List.length_cons,
    Bytes.length_ofNat, hsalt]
  omega

/-- An envelope that begins with a header, cut where the header is read. -/
theorem toBytes_append (h : Header) (rest : Bytes) :
    h.toBytes ++ rest =
      h.salt ++ (Bytes.ofNat 4 h.recordSize ++ (UInt8.ofNat h.keyId.length :: (h.keyId ++ rest))) := by
  simp only [toBytes, List.append_assoc, List.cons_append]

/-- The octets that state the record size. -/
theorem take_drop_toBytes_append {h : Header} (hsalt : h.salt.length = 16) (rest : Bytes) :
    ((h.toBytes ++ rest).drop 16).take 4 = Bytes.ofNat 4 h.recordSize := by
  rw [toBytes_append, List.drop_left' hsalt, List.take_left' (Bytes.length_ofNat 4 _)]

theorem WellFormed.parse_append {h : Header} (hwf : h.WellFormed) (rest : Bytes) :
    parse (h.toBytes ++ rest) = .ok h := by
  obtain ⟨hsalt, hleast, hfits, hkey⟩ := hwf
  have hlen : (h.toBytes ++ rest).length = fixedLength + h.keyId.length + rest.length := by
    rw [List.length_append, length_toBytes hsalt, length]
  have htake : (h.toBytes ++ rest).take 16 = h.salt := by
    rw [toBytes_append, List.take_left' hsalt]
  have hbehind : (h.toBytes ++ rest).drop 20 =
      UInt8.ofNat h.keyId.length :: (h.keyId ++ rest) := by
    rw [toBytes_append, ← List.append_assoc, List.drop_left' (by simp [hsalt])]
  have hcount : (h.toBytes ++ rest).getD 20 0 = UInt8.ofNat h.keyId.length := by
    rw [List.getD_eq_getElem?_getD, ← Nat.add_zero 20, ← List.getElem?_drop, hbehind]
    rfl
  have hkeyId : ((h.toBytes ++ rest).drop fixedLength).take h.keyId.length = h.keyId := by
    rw [fixedLength, show 21 = 20 + 1 from rfl, ← List.drop_drop, hbehind, List.drop_succ_cons,
      List.drop_zero, List.take_left' rfl]
  have hcount' : (UInt8.ofNat h.keyId.length).toNat = h.keyId.length :=
    UInt8.toNat_ofNat_of_lt hkey
  rw [parse, if_neg (by omega)]
  simp only [hcount, hcount', take_drop_toBytes_append hsalt, Bytes.toNat_ofNat_of_lt hfits, htake,
    hkeyId]
  rw [if_neg (by omega), if_neg (by omega)]

/-- The octets from a place on begin with the one at that place. -/
theorem drop_eq_getD_cons {envelope : Bytes} {i : Nat} (h : i < envelope.length) :
    envelope.drop i = envelope.getD i 0 :: envelope.drop (i + 1) := by
  rw [List.drop_eq_getElem_cons h, List.getD_eq_getElem?_getD, List.getElem?_eq_getElem h,
    Option.getD_some]

/-- **A header is read exactly off what begins with it.** -/
theorem parse_eq_ok_iff {envelope : Bytes} {h : Header} :
    parse envelope = .ok h ↔ h.WellFormed ∧ ∃ rest, envelope = h.toBytes ++ rest := by
  constructor
  · intro hparse
    rw [parse] at hparse
    split at hparse
    · cases hparse
    rename_i hshort
    simp only at hparse
    split at hparse
    · cases hparse
    rename_i htruncated
    split at hparse
    · cases hparse
    rename_i hsmall
    simp only [fixedLength] at hshort htruncated hparse
    injection hparse with hparse
    subst hparse
    -- The checks that were passed make every part as long as it should be.
    have hfour : ((envelope.drop 16).take 4).length = 4 := by
      rw [List.length_take, List.length_drop]
      omega
    have hkeyLength : ((envelope.drop 21).take (envelope.getD 20 0).toNat).length =
        (envelope.getD 20 0).toNat := by
      rw [List.length_take, List.length_drop]
      omega
    have hcount : envelope.drop 20 = envelope.getD 20 0 :: envelope.drop 21 :=
      drop_eq_getD_cons (by omega)
    refine ⟨⟨List.length_take_of_le (by omega), ?_, ?_, ?_⟩,
      (envelope.drop 21).drop (envelope.getD 20 0).toNat, ?_⟩
    · exact Nat.not_le.1 hsmall
    · have := Bytes.toNat_lt ((envelope.drop 16).take 4)
      rwa [hfour, Bytes.capacity_eq] at this
    · rw [hkeyLength]
      exact UInt8.toNat_lt _
    · have hsize := Bytes.ofNat_toNat ((envelope.drop 16).take 4)
      rw [hfour] at hsize
      rw [toBytes_append, hsize, hkeyLength, UInt8.ofNat_toNat, List.take_append_drop, ← hcount,
        show 20 = 16 + 4 from rfl, ← List.drop_drop, List.take_append_drop, List.take_append_drop]
  · rintro ⟨hwf, rest, rfl⟩
    exact hwf.parse_append rest

/-- What stands behind the header. -/
theorem WellFormed.drop_append {h : Header} (hwf : h.WellFormed) (rest : Bytes) :
    (h.toBytes ++ rest).drop h.length = rest :=
  List.drop_left' (length_toBytes hwf.salt)

/-! ## What is refused -/

/-- The record size that an envelope states in the four octets behind the salt. -/
def statedSize (envelope : Bytes) : Nat :=
  (envelope.getD 16 0).toNat * 256 ^ 3 + (envelope.getD 17 0).toNat * 256 ^ 2 +
    (envelope.getD 18 0).toNat * 256 + (envelope.getD 19 0).toNat

theorem toNat_take_drop {envelope : Bytes} (h : 20 ≤ envelope.length) :
    Bytes.toNat ((envelope.drop 16).take 4) = statedSize envelope := by
  rw [drop_eq_getD_cons (i := 16) (by omega), drop_eq_getD_cons (i := 17) (by omega),
    drop_eq_getD_cons (i := 18) (by omega), drop_eq_getD_cons (i := 19) (by omega)]
  simp only [Bytes.toNat, statedSize, List.take_succ_cons, List.take_zero, List.foldl_cons,
    List.foldl_nil]
  omega

/-- A header states its record size. -/
theorem WellFormed.statedSize_append {h : Header} (hwf : h.WellFormed) (rest : Bytes) :
    statedSize (h.toBytes ++ rest) = h.recordSize := by
  have hlong : 20 ≤ (h.toBytes ++ rest).length := by
    rw [List.length_append, length_toBytes hwf.salt, length, fixedLength]
    omega
  rw [← toNat_take_drop hlong, take_drop_toBytes_append hwf.salt,
    Bytes.toNat_ofNat_of_lt hwf.fits]

/-- What keeps an octet string from beginning with a header. Each fault takes for granted that
the ones in front of it are not there. -/
inductive Spoils (envelope : Bytes) : Fault → Prop
  /-- The fixed part ends too early. -/
  | short : envelope.length < 21 → Spoils envelope .shortHeader
  /-- The key identifier ends too early. -/
  | truncated : 21 ≤ envelope.length → envelope.length < 21 + (envelope.getD 20 0).toNat →
      Spoils envelope .truncatedKeyId
  /-- A record has no room for anything but a tag and a delimiter. -/
  | small : 21 ≤ envelope.length → 21 + (envelope.getD 20 0).toNat ≤ envelope.length →
      statedSize envelope < 18 → Spoils envelope (.smallRecordSize (statedSize envelope))

/-- **An envelope is refused for what spoils it.** -/
theorem parse_eq_error_iff {envelope : Bytes} {f : Fault} :
    parse envelope = .error f ↔ Spoils envelope f := by
  constructor
  · intro h
    rw [parse, fixedLength] at h
    split at h
    · rename_i hshort
      cases h
      exact .short hshort
    rename_i hlong
    simp only [toNat_take_drop (Nat.le_of_succ_le (Nat.not_lt.1 hlong))] at h
    split at h
    · rename_i htruncated
      cases h
      exact .truncated (Nat.not_lt.1 hlong) htruncated
    rename_i hwhole
    split at h
    · rename_i hsmall
      cases h
      exact .small (Nat.not_lt.1 hlong) (Nat.not_lt.1 hwhole) (Nat.lt_succ_of_le hsmall)
    · cases h
  · intro h
    cases h with
    | short hshort => rw [parse, fixedLength, if_pos hshort]
    | truncated hlong htruncated =>
      rw [parse, fixedLength, if_neg (Nat.not_lt.2 hlong)]
      exact if_pos htruncated
    | small hlong hwhole hsmall =>
      rw [parse, fixedLength, if_neg (Nat.not_lt.2 hlong)]
      simp only [toNat_take_drop (Nat.le_of_succ_le hlong), if_neg (Nat.not_lt.2 hwhole),
        if_pos (Nat.le_of_lt_succ hsmall)]

/-- **An envelope begins with a header** just when nothing spoils it. -/
theorem exists_parse_eq_ok_iff {envelope : Bytes} :
    (∃ h, parse envelope = .ok h) ↔ 21 ≤ envelope.length ∧
      21 + (envelope.getD 20 0).toNat ≤ envelope.length ∧ 18 ≤ statedSize envelope := by
  constructor
  · rintro ⟨h, hparse⟩
    have hnone (f : Fault) : ¬ Spoils envelope f := fun hf =>
      nomatch hparse.symm.trans (parse_eq_error_iff.2 hf)
    have hlong : 21 ≤ envelope.length := Nat.not_lt.1 fun hlt => hnone _ (.short hlt)
    have hwhole := Nat.not_lt.1 fun hlt => hnone _ (.truncated hlong hlt)
    exact ⟨hlong, hwhole, Nat.not_lt.1 fun hlt => hnone _ (.small hlong hwhole hlt)⟩
  · rintro ⟨hlong, hwhole, hroom⟩
    cases hparse : parse envelope with
    | ok h => exact ⟨h, rfl⟩
    | error f =>
      -- Each fault contradicts one of the three conditions.
      cases parse_eq_error_iff.1 hparse with
      | short hshort => exact absurd hlong (Nat.not_le.2 hshort)
      | truncated _ htruncated => exact absurd hwhole (Nat.not_le.2 htruncated)
      | small _ _ hsmall => exact absurd hroom (Nat.not_le.2 hsmall)

/-! ## The header and what is behind it -/

/-- **Headers are read exactly as they are written.** An octet string begins with a header if the
fixed part and the key identifier are there and a record has room for something, and is otherwise
refused for the first of these that fails. The header is what the octets in front write, and what
is behind it falls into records that each begin one record size behind the one before and are not
empty. In front of any octets, every header that can be written is read back. -/
theorem parse_exact :
    (∀ envelope : Bytes,
      ((∃ h, parse envelope = .ok h) ↔ 21 ≤ envelope.length ∧
        21 + (envelope.getD 20 0).toNat ≤ envelope.length ∧ 18 ≤ statedSize envelope) ∧
      (∀ f, parse envelope = .error f ↔ Spoils envelope f) ∧
      ∀ h, parse envelope = .ok h →
        h.WellFormed ∧ h.recordSize = statedSize envelope ∧ h.toBytes = envelope.take h.length ∧
        let body := envelope.drop h.length
        let records := Bytes.pieces h.recordSize body
        records.flatten = body ∧ [] ∉ records ∧ ∀ i, records[i]? =
          if i * h.recordSize < body.length then
            some ((body.drop (i * h.recordSize)).take h.recordSize)
          else none) ∧
    ∀ h : Header, h.WellFormed → ∀ rest, parse (h.toBytes ++ rest) = .ok h := by
  refine ⟨fun envelope => ⟨exists_parse_eq_ok_iff, fun f => parse_eq_error_iff, fun h hparse => ?_⟩,
    fun h hwf rest => hwf.parse_append rest⟩
  obtain ⟨hwf, rest, rfl⟩ := parse_eq_ok_iff.1 hparse
  have hpos : 0 < h.recordSize := Nat.lt_of_lt_of_le (by decide) hwf.least
  exact ⟨hwf, (hwf.statedSize_append rest).symm, (List.take_left' (length_toBytes hwf.salt)).symm,
    Bytes.flatten_pieces hpos _, Bytes.nil_notMem_pieces hpos _, Bytes.getElem?_pieces hpos _⟩

/-- The longest key identifier and the least record size. -/
def widest : Header := ⟨List.replicate 16 0, 18, List.replicate 255 7⟩

/-- In front of thirty-seven octets, which fall into three records. One octet less in the key
identifier, or one less in the record size, and there is no header. -/
theorem parse_exact_widest :
    parse (widest.toBytes ++ List.replicate 37 1) = .ok widest ∧
      (Bytes.pieces 18 (List.replicate 37 (1 : UInt8)))[2]? = some [1] ∧
      (∃ f, parse widest.toBytes.dropLast = .error f) ∧
      parse ({ widest with recordSize := 17 } : Header).toBytes = .error (.smallRecordSize 17) := by
  have hwf : widest.WellFormed :=
    ⟨rfl, Nat.le_refl 18, by decide, by rw [widest, List.length_replicate]; decide⟩
  have hread := parse_exact.2 widest hwf (List.replicate 37 1)
  obtain ⟨-, -, -, -, -, hrecords⟩ := (parse_exact.1 _).2.2 widest hread
  refine ⟨hread, ?_, ⟨.truncatedKeyId, ?_⟩, ?_⟩
  · rw [hwf.drop_append] at hrecords
    exact hrecords 2
  · exact ((parse_exact.1 _).2.1 _).2 (.truncated (by decide +kernel) (by decide +kernel))
  · exact ((parse_exact.1 _).2.1 _).2
      (.small (by decide +kernel) (by decide +kernel) (by decide +kernel))

end Header

end WebPush.Envelope
