import Mathlib.Algebra.Group.Nat.Defs
import Mathlib.Data.List.Induction
import Mathlib.Data.List.TakeWhile
import WebPush.Trim
import WebPush.Bytes
/-!
# Bytes — reading back, and cutting into pieces

A number of fixed width is determined by its octets and determines them.
A list is cut into pieces in one way: all of them full but the last, which
is not empty (`Framed`), each beginning one size behind the one before
(`getElem?_pieces`). And a tail of zeros behind something else is cut off
whole, as are blanks at both ends of a text.
-/

namespace WebPush

namespace Bytes

/-! ## Numbers of fixed width -/

theorem capacity_eq (width : Nat) : capacity width = 256 ^ width := by
  induction width with
  | zero => rfl
  | succ width ih => rw [capacity, ih, Nat.pow_succ, Nat.mul_comm]

/-- A number read has room in the octets it was read from. -/
theorem toNat_lt (bs : Bytes) : toNat bs < capacity bs.length := by
  induction bs using List.reverseRecOn with
  | nil => decide
  | append_singleton bs b ih =>
    have hb := b.toNat_lt
    rw [toNat_append_singleton, List.length_append, List.length_singleton, capacity]
    omega

/-- **Writing back what was read** gives the same octets. -/
theorem ofNat_toNat (bs : Bytes) : ofNat bs.length (toNat bs) = bs := by
  induction bs using List.reverseRecOn with
  | nil => rfl
  | append_singleton bs b ih =>
    have hb := b.toNat_lt
    rw [List.length_append, List.length_singleton, ofNat, toNat_append_singleton]
    have hdiv : (toNat bs * 256 + b.toNat) / 256 = toNat bs := by omega
    have hmod : (toNat bs * 256 + b.toNat) % 256 = b.toNat := by omega
    rw [hdiv, hmod, ih, UInt8.ofNat_toNat]

/-- A number that fits is read back whole. -/
theorem toNat_ofNat_of_lt {width n : Nat} (h : n < 256 ^ width) : toNat (ofNat width n) = n := by
  rw [toNat_ofNat, capacity_eq, Nat.mod_eq_of_lt h]

/-! ## Pieces -/

variable {α : Type}

/-- Pieces of a given size: every one is full but the last, which holds
something and no more than fits. -/
inductive Framed (size : Nat) : List (List α) → Prop
  | last {piece : List α} : piece ≠ [] → piece.length ≤ size → Framed size [piece]
  | full {piece : List α} {rest : List (List α)} :
      piece.length = size → Framed size rest → Framed size (piece :: rest)

theorem pieces_of_le {size : Nat} {xs : List α} (hne : xs ≠ []) (hle : xs.length ≤ size) :
    pieces size xs = [xs] := by
  have hpos : 0 < xs.length := List.length_pos_iff.2 hne
  have hcount : (xs.length + size - 1) / size = 1 :=
    Nat.div_eq_of_lt_le (by omega) (by omega)
  rw [pieces, hcount, piecesOf, piecesOf, List.take_of_length_le hle]

theorem pieces_of_lt {size : Nat} {xs : List α} (hsize : 0 < size) (hlt : size < xs.length) :
    pieces size xs = xs.take size :: pieces size (xs.drop size) := by
  have hcount : (xs.length + size - 1) / size = ((xs.drop size).length + size - 1) / size + 1 := by
    rw [List.length_drop, ← Nat.add_div_right _ hsize]
    congr 1
    omega
  rw [pieces, hcount, piecesOf, pieces]

/-- **Framed pieces, seen from the end**: all but the last are full. -/
theorem framed_iff {size : Nat} {rs : List (List α)} :
    Framed size rs ↔ (∀ piece ∈ rs.dropLast, piece.length = size) ∧
      ∃ piece, rs.getLast? = some piece ∧ piece ≠ [] ∧ piece.length ≤ size := by
  induction rs with
  | nil =>
    constructor
    · rintro ⟨⟩
    · rintro ⟨-, piece, hlast, -⟩
      cases hlast
  | cons piece rest ih =>
    cases rest with
    | nil =>
      constructor
      · rintro (⟨hne, hle⟩ | ⟨-, ⟨⟩⟩)
        exact ⟨by simp, piece, rfl, hne, hle⟩
      · rintro ⟨-, piece', hlast, hne, hle⟩
        rw [List.getLast?_singleton, Option.some.injEq] at hlast
        subst hlast
        exact .last hne hle
    | cons second rest =>
      rw [List.dropLast_cons_cons, List.getLast?_cons_cons, List.forall_mem_cons, and_assoc, ← ih]
      constructor
      · rintro ⟨⟩
        rename_i hfull hrest
        exact ⟨hfull, hrest⟩
      · rintro ⟨hfull, hrest⟩
        exact .full hfull hrest

/-- Framed pieces hold something. -/
theorem Framed.flatten_ne_nil {size : Nat} {rs : List (List α)} (hsize : 0 < size)
    (h : Framed size rs) : rs.flatten ≠ [] := by
  cases h with
  | last hne _ => simpa using hne
  | full hlen _ =>
    intro hnil
    rw [List.flatten_cons, List.append_eq_nil_iff] at hnil
    rw [hnil.1, List.length_nil] at hlen
    omega

/-- Pieces put together are cut into the same pieces. -/
theorem Framed.pieces_flatten {size : Nat} {rs : List (List α)} (hsize : 0 < size)
    (h : Framed size rs) : pieces size rs.flatten = rs := by
  induction h with
  | last hne hle => simpa using pieces_of_le hne hle
  | @full piece rest hfull hrest ih =>
    have hlt : size < (piece :: rest).flatten.length := by
      have := List.length_pos_iff.2 (hrest.flatten_ne_nil hsize)
      rw [List.flatten_cons, List.length_append]
      omega
    rw [pieces_of_lt hsize hlt, List.flatten_cons, List.take_left' hfull, List.drop_left' hfull, ih]

/-- What is cut is framed, and makes up the list again. -/
theorem framed_pieces {size : Nat} (hsize : 0 < size) {xs : List α} (hne : xs ≠ []) :
    Framed size (pieces size xs) ∧ (pieces size xs).flatten = xs := by
  -- Induction on the length, since what is left behind the first piece is shorter.
  induction h : xs.length using Nat.strongRecOn generalizing xs with
  | ind n ih =>
    rcases Nat.lt_or_ge size xs.length with hlt | hge
    · have hrest : xs.drop size ≠ [] := by
        rw [Ne, List.drop_eq_nil_iff]
        omega
      have hlen : (xs.drop size).length < n := by
        rw [List.length_drop]
        omega
      obtain ⟨hframed, hflatten⟩ := ih _ hlen hrest rfl
      rw [pieces_of_lt hsize hlt, List.flatten_cons, hflatten]
      exact ⟨.full (List.length_take_of_le (Nat.le_of_lt hlt)) hframed, List.take_append_drop size xs⟩
    · rw [pieces_of_le hne hge]
      exact ⟨.last hne hge, by simp⟩

/-- **A list is cut into pieces in exactly one way.** -/
theorem pieces_eq_iff {size : Nat} (hsize : 0 < size) {xs : List α} (hne : xs ≠ [])
    {rs : List (List α)} : pieces size xs = rs ↔ Framed size rs ∧ rs.flatten = xs := by
  constructor
  · rintro rfl
    exact framed_pieces hsize hne
  · rintro ⟨hframed, rfl⟩
    exact hframed.pieces_flatten hsize

theorem getElem?_piecesOf (size count : Nat) (xs : List α) (i : Nat) :
    (piecesOf size count xs)[i]? =
      if i < count then some ((xs.drop (i * size)).take size) else none := by
  induction count generalizing xs i with
  | zero => rfl
  | succ count ih =>
    cases i with
    | zero => simp [piecesOf]
    | succ i =>
      rw [piecesOf, List.getElem?_cons_succ, ih, List.drop_drop, Nat.succ_mul, Nat.add_comm size]
      simp only [Nat.succ_lt_succ_iff]

/-- **Where the pieces stand**: each begins a whole number of sizes behind the start, as long
as anything is left there. -/
theorem getElem?_pieces {size : Nat} (hsize : 0 < size) (xs : List α) (i : Nat) :
    (pieces size xs)[i]? =
      if i * size < xs.length then some ((xs.drop (i * size)).take size) else none := by
  have hcount : i < (xs.length + size - 1) / size ↔ i * size < xs.length := by
    rw [← Nat.succ_le_iff, Nat.le_div_iff_mul_le hsize, Nat.succ_mul]
    omega
  rw [pieces, getElem?_piecesOf]
  simp only [hcount]

/-- No piece is empty. -/
theorem nil_notMem_pieces {size : Nat} (hsize : 0 < size) (xs : List α) : [] ∉ pieces size xs := by
  intro hmem
  obtain ⟨i, hi⟩ := List.mem_iff_getElem?.1 hmem
  rw [getElem?_pieces hsize] at hi
  split at hi
  · rename_i hlt
    injection hi with hi
    rw [List.take_eq_nil_iff, List.drop_eq_nil_iff] at hi
    omega
  · cases hi

/-- Nothing is cut into no pieces. -/
theorem pieces_nil {size : Nat} (hsize : 0 < size) : pieces size ([] : List α) = [] := by
  have hcount : (0 + size - 1) / size = 0 := Nat.div_eq_of_lt (by omega)
  rw [pieces, List.length_nil, hcount, piecesOf]

/-- The pieces make up the list again, also when there are none. -/
theorem flatten_pieces {size : Nat} (hsize : 0 < size) (xs : List α) :
    (pieces size xs).flatten = xs := by
  rcases eq_or_ne xs [] with rfl | hne
  · rw [pieces_nil hsize, List.flatten_nil]
  · exact (framed_pieces hsize hne).2

theorem pieces_eq_nil_iff {size : Nat} (hsize : 0 < size) {xs : List α} :
    pieces size xs = [] ↔ xs = [] := by
  constructor
  · intro h
    rw [← flatten_pieces hsize xs, h, List.flatten_nil]
  · rintro rfl
    exact pieces_nil hsize

/-- There are no more pieces than elements. -/
theorem length_pieces_le {size : Nat} (hsize : 0 < size) (xs : List α) :
    (pieces size xs).length ≤ xs.length := by
  have hpieces (count : Nat) (xs : List α) : (piecesOf size count xs).length = count := by
    induction count generalizing xs with
    | zero => rfl
    | succ count ih => rw [piecesOf, List.length_cons, ih]
  have hroom := Nat.le_mul_of_pos_right xs.length hsize
  rw [pieces, hpieces, Nat.div_le_iff_le_mul hsize]
  omega

end Bytes

/-! ## Ends cut off -/

section Trim

variable {α : Type} {p : α → Bool}

/-- A tail inside the predicate is cut off whole. -/
theorem dropEndWhile_append (xs : List α) {tail : List α} (h : ∀ x ∈ tail, p x = true) :
    dropEndWhile p (xs ++ tail) = dropEndWhile p xs := by
  have hreverse : ∀ x ∈ tail.reverse, p x = true := fun x hx => h x (List.mem_reverse.1 hx)
  rw [dropEndWhile, List.reverse_append, List.dropWhile_append_of_pos hreverse, dropEndWhile]

/-- A tail inside the predicate, behind an element outside it, is cut off and no more. -/
theorem dropEndWhile_append_replicate (xs : List α) {d z : α} (hd : p d = false) (hz : p z = true)
    (n : Nat) : dropEndWhile p (xs ++ d :: List.replicate n z) = xs ++ [d] := by
  rw [List.append_cons, dropEndWhile_append _ fun x hx => List.eq_of_mem_replicate hx ▸ hz,
    dropEndWhile_concat_of_neg xs hd]

/-- Where the last element is not inside the predicate, nothing is cut off. -/
theorem dropEndWhile_eq_self {xs : List α} (h : ∀ x ∈ xs.getLast?, p x = false) :
    dropEndWhile p xs = xs := by
  cases xs using List.reverseRecOn with
  | nil => rfl
  | append_singleton xs x => exact dropEndWhile_concat_of_neg xs (h x (by simp))

/-- What is cut off is a tail inside the predicate. -/
theorem exists_eq_dropEndWhile_append (p : α → Bool) (xs : List α) :
    ∃ tail, xs = dropEndWhile p xs ++ tail ∧ ∀ x ∈ tail, p x = true := by
  induction xs using List.reverseRecOn with
  | nil => exact ⟨[], rfl, by simp⟩
  | append_singleton xs x ih =>
    cases hx : p x with
    | false => exact ⟨[], by rw [dropEndWhile_concat_of_neg xs hx, List.append_nil], by simp⟩
    | true =>
      obtain ⟨tail, heq, htail⟩ := ih
      refine ⟨tail ++ [x], ?_, ?_⟩
      · rw [dropEndWhile_concat_of_pos xs hx, ← List.append_assoc, ← heq]
      · intro y hy
        rcases List.mem_append.1 hy with hy | hy
        · exact htail y hy
        · rw [List.mem_singleton.1 hy, hx]

/-- Where the first element is not inside the predicate, nothing is cut off in front. -/
theorem dropWhile_eq_self {xs : List α} (h : ∀ x ∈ xs.head?, p x = false) : xs.dropWhile p = xs := by
  cases xs with
  | nil => rfl
  | cons x rest => exact List.dropWhile_cons_of_neg (by rw [h x rfl]; exact Bool.false_ne_true)

/-- Where neither end is inside the predicate, nothing is cut off there. -/
theorem dropEndWhile_dropWhile_eq_self {xs : List α} (hhead : ∀ x ∈ xs.head?, p x = false)
    (hlast : ∀ x ∈ xs.getLast?, p x = false) : dropEndWhile p (xs.dropWhile p) = xs := by
  rw [dropWhile_eq_self hhead, dropEndWhile_eq_self hlast]

/-- What is inside the predicate at both ends makes no difference. -/
theorem dropEndWhile_dropWhile_append {front back : List α} (hfront : ∀ x ∈ front, p x = true)
    (hback : ∀ x ∈ back, p x = true) (xs : List α) :
    dropEndWhile p ((front ++ xs ++ back).dropWhile p) = dropEndWhile p (xs.dropWhile p) := by
  rw [List.append_assoc, List.dropWhile_append_of_pos hfront, List.dropWhile_append]
  split
  · rename_i hempty
    rw [List.isEmpty_iff.1 hempty, List.dropWhile_eq_nil_iff.2 hback]
  · exact dropEndWhile_append _ hback

/-- What is cut off at both ends is inside the predicate. -/
theorem exists_eq_append_dropEndWhile_dropWhile (p : α → Bool) (xs : List α) :
    ∃ front back, xs = front ++ dropEndWhile p (xs.dropWhile p) ++ back ∧
      (∀ x ∈ front, p x = true) ∧ ∀ x ∈ back, p x = true := by
  obtain ⟨back, heq, hback⟩ := exists_eq_dropEndWhile_append p (xs.dropWhile p)
  refine ⟨xs.takeWhile p, back, ?_, fun x => List.mem_takeWhile_imp, hback⟩
  rw [List.append_assoc, ← heq, List.takeWhile_append_dropWhile]

end Trim

end WebPush
