import WebPush.Key.Codec
import WebPush.Proofs.Base64Url
import WebPush.Proofs.Bytes
/-!
# Keys — what loads, and as what

Loading octets and writing keys are inverse to each other: the octets
that load as a point are those of the point and no others.
-/

namespace WebPush

namespace P256

/-- The uncompressed form of the pair that octets write is the octets. -/
theorem Pair.toBytes_ofBytes {bs : Bytes} (hlen : bs.length = 65) (hhead : bs.head? = some 0x04) :
    (Pair.ofBytes bs).toBytes = bs := by
  cases bs with
  | nil => simp at hhead
  | cons first rest =>
    simp only [List.head?_cons, Option.some.injEq] at hhead
    have hlen : rest.length = width + width := by simpa [width] using hlen
    have hx : Bytes.ofNat width (Bytes.toNat (rest.take width)) = rest.take width := by
      have := Bytes.ofNat_toNat (rest.take width)
      rwa [List.length_take_of_le (by omega)] at this
    have hy : Bytes.ofNat width (Bytes.toNat (rest.drop width)) = rest.drop width := by
      have := Bytes.ofNat_toNat (rest.drop width)
      rwa [List.length_drop, hlen, Nat.add_sub_cancel] at this
    have hdrop : (first :: rest).drop (1 + width) = rest.drop width := by
      rw [Nat.add_comm, List.drop_succ_cons]
    rw [Pair.toBytes, Pair.ofBytes, List.drop_succ_cons, List.drop_zero, hdrop, hx, hy, hhead,
      List.cons_append, List.take_append_drop]

end P256

namespace PublicKey

/-- **How octets load as a point**: they are its uncompressed form, or they are refused for
their length, their first octet or the pair that they write. -/
theorem ofBytes_cases (bs : Bytes) :
    (∃ P, ofBytes bs = .ok P ∧ bs = P.toBytes) ∨
      (ofBytes bs = .error (.publicLength bs.length) ∧ bs.length ≠ 65) ∨
      (ofBytes bs = .error .notUncompressed ∧ bs.head? ≠ some 0x04) ∨
      (ofBytes bs = .error .notOnCurve ∧ ¬ (P256.Pair.ofBytes bs).OnCurve) := by
  rw [ofBytes]
  split
  · rename_i hlength
    exact .inr (.inl ⟨rfl, hlength⟩)
  split
  · rename_i hhead
    exact .inr (.inr (.inl ⟨rfl, hhead⟩))
  rename_i hlength hhead
  rw [P256.Point.ofPair?]
  by_cases hcurve : (P256.Pair.ofBytes bs).OnCurve
  · refine .inl ⟨⟨_, hcurve⟩, by rw [dif_pos hcurve], ?_⟩
    exact (P256.Pair.toBytes_ofBytes (not_not.1 hlength) (not_not.1 hhead)).symm
  · exact .inr (.inr (.inr ⟨by rw [dif_neg hcurve], hcurve⟩))

/-- **The octets that load as a point** are its uncompressed form. -/
theorem ofBytes_eq_ok_iff {bs : Bytes} {P : P256.Point} : ofBytes bs = .ok P ↔ bs = P.toBytes := by
  constructor
  · intro h
    obtain ⟨Q, hok, hQ⟩ | ⟨herror, -⟩ | ⟨herror, -⟩ | ⟨herror, -⟩ := ofBytes_cases bs
    · rw [h] at hok
      rwa [Except.ok.inj hok]
    all_goals
      rw [h] at herror
      cases herror
  · rintro rfl
    exact ofBytes_toBytes P

/-- Octets that do not load are refused for their length, their first octet or their point. -/
theorem ofBytes_eq_error {bs : Bytes} {e : KeyError} (h : ofBytes bs = .error e) :
    e = .publicLength bs.length ∨ e = .notUncompressed ∨ e = .notOnCurve := by
  obtain ⟨Q, hok, -⟩ | ⟨herror, -⟩ | ⟨herror, -⟩ | ⟨herror, -⟩ := ofBytes_cases bs
  · rw [h] at hok
    cases hok
  all_goals
    rw [h] at herror
    injection herror with he
  · exact .inl he
  · exact .inr (.inl he)
  · exact .inr (.inr he)

@[simp] theorem load_key (P : P256.Point) : load (.key (.p256 P)) = .ok P := rfl

theorem load_raw_eq_ok_iff {bs : Bytes} {P : P256.Point} :
    load (.encoded (.raw bs)) = .ok P ↔ bs = P.toBytes :=
  ofBytes_eq_ok_iff

@[simp] theorem load_raw (P : P256.Point) : load (.encoded (.raw P.toBytes)) = .ok P :=
  load_raw_eq_ok_iff.2 rfl

/-- **The texts that load as a point** are those that read as its uncompressed form. -/
theorem load_text_eq_ok_iff {text : String} {P : P256.Point} :
    load (.encoded (.text text)) = .ok P ↔ Base64Url.decode? text = some P.toBytes := by
  cases hdecode : Base64Url.decode? text with
  | none => simp only [load, Encoded.toBytes, hdecode, Except.bind, reduceCtorEq]
  | some bs =>
    simp only [load, Encoded.toBytes, hdecode, Except.bind, ofBytes_eq_ok_iff, Option.some.injEq]

@[simp] theorem load_text (P : P256.Point) :
    load (.encoded (.text (Base64Url.encode P.toBytes))) = .ok P :=
  load_text_eq_ok_iff.2 (Base64Url.decode?_encode _)

end PublicKey

namespace PrivateKey

/-- **How octets load as a scalar**: they are its big-endian form, or they are refused for their
length or their number. -/
theorem ofBytes_cases (bs : Bytes) :
    (∃ d, ofBytes bs = .ok d ∧ bs = d.toBytes ∧ d.val = Bytes.toNat bs) ∨
      (ofBytes bs = .error (.privateLength bs.length) ∧ bs.length ≠ 32) ∨
      (ofBytes bs = .error .scalarRange ∧
        ¬ (0 < Bytes.toNat bs ∧ Bytes.toNat bs < P256.order)) := by
  rw [ofBytes]
  split
  · rename_i hlength
    exact .inr (.inl ⟨rfl, hlength⟩)
  rename_i hlength
  rw [P256.Scalar.ofNat?]
  by_cases hrange : 0 < Bytes.toNat bs ∧ Bytes.toNat bs < P256.order
  · refine .inl ⟨⟨_, hrange.1, hrange.2⟩, by rw [dif_pos hrange], ?_, rfl⟩
    have hwritten := Bytes.ofNat_toNat bs
    rw [not_not.1 hlength] at hwritten
    exact hwritten.symm
  · exact .inr (.inr ⟨by rw [dif_neg hrange], hrange⟩)

@[simp] theorem load_key (d : P256.Scalar) : load (.key (.p256 d)) = .ok d := rfl

@[simp] theorem load_raw (d : P256.Scalar) : load (.encoded (.raw d.toBytes)) = .ok d := by
  simp only [load, Encoded.toBytes, Except.bind, ofBytes_toBytes]

@[simp] theorem load_text (d : P256.Scalar) :
    load (.encoded (.text (Base64Url.encode d.toBytes))) = .ok d := by
  simp only [load, Encoded.toBytes, Base64Url.decode?_encode, Except.bind, ofBytes_toBytes]

end PrivateKey

/-- **How a pair loads**: the first half that does not load is reported. -/
theorem KeyPair.load_cases (publicKey privateKey : Encoded) :
    (∃ e, PublicKey.load (.encoded publicKey) = .error e ∧
      load publicKey privateKey = .error e) ∨
    (∃ P e, PublicKey.load (.encoded publicKey) = .ok P ∧
      PrivateKey.load (.encoded privateKey) = .error e ∧ load publicKey privateKey = .error e) ∨
    ∃ P d, PublicKey.load (.encoded publicKey) = .ok P ∧
      PrivateKey.load (.encoded privateKey) = .ok d ∧
      load publicKey privateKey = .ok ⟨.p256 P, .p256 d⟩ := by
  rw [load]
  cases hpublic : PublicKey.load (.encoded publicKey) with
  | error e => exact .inl ⟨e, rfl, rfl⟩
  | ok P =>
    cases hprivate : PrivateKey.load (.encoded privateKey) with
    | error e => exact .inr (.inl ⟨P, e, rfl, rfl, rfl⟩)
    | ok d => exact .inr (.inr ⟨P, d, rfl, rfl, rfl⟩)

@[simp] theorem Octets16.ofSecret_bytes (s : Octets16) : ofSecret s.bytes = .ok s := by
  rw [ofSecret, ofBytes?_bytes]

end WebPush
