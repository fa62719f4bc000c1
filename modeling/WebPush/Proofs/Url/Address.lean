import Mathlib.Data.List.Infix
import Mathlib.Data.List.TakeWhile
import WebPush.Proofs.Text.Ascii
import WebPush.Proofs.Text.Split
import WebPush.Text.Lowercase
import WebPush.Url.Address
/-!
# Url — addresses in small letters

The groups of an address are told apart by colons and points, which have
no small letters, and capital digits count as much as small ones. So an
address remains one in small letters. It holds digits, colons and points
and nothing else, and at least one colon, so it cannot be mistaken for
an address of the older kind.
-/

namespace WebPush

/-! ## Small letters -/

namespace Text

/-- Small letters of ASCII characters are their small letters in any text. -/
theorem lower_eq_map_toLower {cs : List Char} (h : ∀ c ∈ cs, c.toNat < 128) :
    lower cs = cs.map Char.toLower := by
  -- The characters passed decide about a sigma only, so they may be any.
  have hafter (before : List Char) : lowerAfter before cs = cs.map Char.toLower := by
    induction cs generalizing before with
    | nil => rfl
    | cons c rest ih =>
      obtain ⟨hc, hrest⟩ := List.forall_mem_cons.1 h
      have hsmall : c.toNat < 0x80 := hc
      rw [lowerAfter, if_pos hsmall, ih hrest, List.map_cons, List.singleton_append]
  exact hafter []

theorem map_toLower_map_toLower (cs : List Char) :
    (cs.map Char.toLower).map Char.toLower = cs.map Char.toLower := by
  rw [List.map_map]
  exact List.map_congr_left fun c _ =>
    forall_toLower (P := fun c d => d.toLower = c.toLower) (fun _ => rfl) (by decide +kernel) c

end Text

namespace Url

theorem isDigit_toLower (c : Char) : isDigit c.toLower = isDigit c :=
  Text.forall_toLower (P := fun c d => isDigit d = isDigit c) (fun _ => rfl) (by decide +kernel) c

theorem isHexDigit_toLower (c : Char) : isHexDigit c.toLower = isHexDigit c :=
  Text.forall_toLower (P := fun c d => isHexDigit d = isHexDigit c) (fun _ => rfl)
    (by decide +kernel) c

/-- The characters between the parts of an address have no capitals. -/
theorem toLower_eq_iff {c mark : Char} (hmark : mark ∈ [':', '.', '/', '%']) :
    c.toLower = mark ↔ c = mark := by
  have hall : ([':', '.', '/', '%'].all fun mark => decide (c.toLower = mark) == decide (c = mark)) =
      true :=
    Text.forall_toLower (P := fun c d => ([':', '.', '/', '%'].all fun mark =>
      decide (d = mark) == decide (c = mark)) = true) (fun _ => by simp) (by decide +kernel) c
  simpa using List.all_eq_true.1 hall mark hmark

theorem contains_map_toLower {mark : Char} (hmark : mark ∈ [':', '.', '/', '%'])
    (cs : List Char) : (cs.map Char.toLower).contains mark = cs.contains mark := by
  rw [Bool.eq_iff_iff, List.contains_iff_mem, List.contains_iff_mem, List.mem_map]
  constructor
  · rintro ⟨c, hc, hlower⟩
    exact (toLower_eq_iff hmark).1 hlower ▸ hc
  · exact fun hc => ⟨mark, hc, (toLower_eq_iff hmark).2 rfl⟩

/-! ## Addresses of the older kind -/

/-- A number in digits is the same in small letters, and what is none is none. -/
theorem isOctet_map_toLower (cs : List Char) : isOctet (cs.map Char.toLower) = isOctet cs := by
  have hall : (cs.map Char.toLower).all isDigit = cs.all isDigit := by
    rw [List.all_map]
    exact congrArg cs.all (funext isDigit_toLower)
  cases hdigits : cs.all isDigit with
  | false => simp only [isOctet, hall, hdigits, Bool.and_false, Bool.false_and]
  | true =>
    have hself : cs.map Char.toLower = cs := by
      refine (List.map_congr_left fun c hc => ?_).trans (List.map_id cs)
      exact Text.forall_toLower (P := fun c d => isDigit c = true → d = c) (fun _ _ => rfl)
        (by decide +kernel) c (List.all_eq_true.1 hdigits c hc)
    rw [hself]

theorem isIPv4_map_toLower (cs : List Char) : isIPv4 (cs.map Char.toLower) = isIPv4 cs := by
  have hall (parts : List (List Char)) :
      (parts.map (List.map Char.toLower)).all isOctet = parts.all isOctet := by
    rw [List.all_map]
    exact congrArg parts.all (funext isOctet_map_toLower)
  rw [isIPv4, isIPv4, Text.splitAll_map (fun c => toLower_eq_iff (by decide))]
  simp only [List.length_map, hall]

/-- An address of the older kind is made of digits and points. -/
theorem isDigit_of_isIPv4 {cs : List Char} (h : isIPv4 cs = true) :
    ∀ c ∈ cs, isDigit c = true ∨ c = '.' := by
  intro c hc
  rcases Text.mem_splitAll '.' hc with hpoint | ⟨part, hpart, hmem⟩
  · exact .inr hpoint
  · rw [isIPv4, Bool.and_eq_true, List.all_eq_true] at h
    have hoctet := h.2 part hpart
    simp only [isOctet, Bool.and_eq_true, List.all_eq_true] at hoctet
    exact .inl (hoctet.1.1.1.2 c hmem)

/-! ## Groups -/

theorem isGroup_map_toLower (cs : List Char) : isGroup (cs.map Char.toLower) = isGroup cs := by
  have hall : (cs.map Char.toLower).all isHexDigit = cs.all isHexDigit := by
    rw [List.all_map]
    exact congrArg cs.all (funext isHexDigit_toLower)
  simp only [isGroup, hall, List.isEmpty_map, List.length_map]

variable {groups : List (List Char)}

theorem besideGap_map (f : Char → Char) (groups : List (List Char)) :
    besideGap (groups.map (List.map f)) = (besideGap groups).map (List.map f) := by
  have hnil : groups.map (List.map f) = [[]] ↔ groups = [[]] := by
    cases groups with
    | nil => simp
    | cons group rest => cases group <;> cases rest <;> simp
  rw [besideGap, besideGap]
  by_cases h : groups = [[]]
  · rw [if_pos h, if_pos (hnil.2 h), List.map_nil]
  · rw [if_neg h, if_neg (mt hnil.1 h)]

theorem all_isGroup_map_toLower (groups : List (List Char)) :
    (groups.map (List.map Char.toLower)).all isGroup = groups.all isGroup := by
  rw [List.all_map]
  exact congrArg groups.all (funext isGroup_map_toLower)

/-- Groups make up an address in small letters if they do as they are. -/
theorem areGroups_map_toLower (groups : List (List Char)) :
    areGroups (groups.map (List.map Char.toLower)) = areGroups groups := by
  match groups with
  | [] | [_] => rfl
  | first :: second :: rest =>
    -- The groups in front of a gap are as many as before.
    have hbefore (inner : List (List Char)) :
        (inner.map (List.map Char.toLower)).takeWhile (!·.isEmpty) =
          (inner.takeWhile (!·.isEmpty)).map (List.map Char.toLower) := by
      rw [List.takeWhile_map]
      simp only [Function.comp_def, List.isEmpty_map]
    have hlast : ((second :: rest).map (List.map Char.toLower)).getLastD [] =
        ((second :: rest).getLastD []).map Char.toLower := by
      rw [List.getLastD_eq_getLast?, List.getLastD_eq_getLast?, List.getLast?_map]
      cases (second :: rest).getLast? <;> rfl
    simp only [areGroups, List.map_cons]
    rw [← List.map_cons, hlast, ← List.map_dropLast, hbefore, List.length_map, ← List.map_drop,
      ← List.map_cons]
    cases (second :: rest).dropLast.drop
        ((second :: rest).dropLast.takeWhile (!·.isEmpty)).length with
    | nil => simp only [List.map_nil, List.length_map, all_isGroup_map_toLower]
    | cons gap after =>
      simp only [List.map_cons]
      rw [← List.map_cons, ← List.map_singleton, ← List.map_append, besideGap_map, besideGap_map,
        ← List.map_append, List.length_map, all_isGroup_map_toLower]

/-- What may be left out beside a gap has no characters. -/
theorem mem_besideGap {group : List Char} (hgroup : group ∈ groups) :
    group = [] ∨ group ∈ besideGap groups := by
  rw [besideGap]
  split
  case isTrue h =>
    rw [h, List.mem_singleton] at hgroup
    exact .inl hgroup
  case isFalse => exact .inr hgroup

/-- The first empty text between others is a gap. -/
theorem eq_of_drop_takeWhile {inner after : List (List Char)} {gap : List Char}
    (h : inner.drop (inner.takeWhile (!·.isEmpty)).length = gap :: after) :
    inner = inner.takeWhile (!·.isEmpty) ++ gap :: after ∧ gap = [] := by
  have hinner : inner = inner.takeWhile (!·.isEmpty) ++ gap :: after := by
    rw [← h, ← List.prefix_append_drop (List.takeWhile_prefix _)]
  have hgap : inner.dropWhile (!·.isEmpty) = gap :: after := by
    have hsplit : inner.takeWhile (!·.isEmpty) ++ inner.dropWhile (!·.isEmpty) =
        inner.takeWhile (!·.isEmpty) ++ gap :: after := by
      rw [List.takeWhile_append_dropWhile, ← hinner]
    exact List.append_cancel_left hsplit
  have hempty := List.head?_dropWhile_not (!List.isEmpty ·) inner
  rw [hgap] at hempty
  exact ⟨hinner, by simpa using hempty⟩

/-- Groups that make up an address hold hexadecimal digits only. -/
theorem isHexDigit_of_areGroups (h : areGroups groups = true) {group : List Char}
    (hgroup : group ∈ groups) : ∀ c ∈ group, isHexDigit c = true := by
  have hhex {group : List Char} (h : isGroup group = true) : ∀ c ∈ group, isHexDigit c = true := by
    simp only [isGroup, Bool.and_eq_true, List.all_eq_true] at h
    exact h.1.2
  match groups with
  | [] | [_] => cases h
  | first :: second :: rest =>
    simp only [areGroups] at h
    split at h
    · rw [Bool.and_eq_true, List.all_eq_true] at h
      exact hhex (h.2 group hgroup)
    · rename_i gap after hdrop
      obtain ⟨hinner, rfl⟩ := eq_of_drop_takeWhile hdrop
      rw [Bool.and_eq_true, List.all_append, Bool.and_eq_true, List.all_eq_true,
        List.all_eq_true] at h
      obtain ⟨-, hfront, hback⟩ := h
      have hnone : ∀ c ∈ ([] : List Char), isHexDigit c = true := List.forall_mem_nil _
      have hsplit : second :: rest = (second :: rest).dropLast ++ [(second :: rest).getLastD []] := by
        rw [List.getLastD_eq_getLast?, List.getLast?_eq_some_getLast (List.cons_ne_nil _ _),
          Option.getD_some, List.dropLast_concat_getLast]
      rw [hsplit, hinner, List.append_assoc, List.cons_append, ← List.cons_append,
        List.mem_append] at hgroup
      rcases hgroup with hgroup | hgroup
      · exact (mem_besideGap hgroup).elim (· ▸ hnone) fun hmem => hhex (hfront group hmem)
      · rcases List.mem_cons.1 hgroup with rfl | hgroup
        · exact hnone
        · exact (mem_besideGap hgroup).elim (· ▸ hnone) fun hmem => hhex (hback group hmem)

/-! ## Addresses -/

theorem expandTail_map_toLower (groups : List (List Char)) :
    expandTail (groups.map (List.map Char.toLower)) =
      (expandTail groups).map (List.map (List.map Char.toLower)) := by
  rw [expandTail, expandTail, List.getLast?_map]
  cases groups.getLast? with
  | none => rfl
  | some last =>
    have hpoint := contains_map_toLower (by decide : '.' ∈ [':', '.', '/', '%']) last
    simp only [Option.map_some, hpoint, isIPv4_map_toLower]
    split
    · split
      · simp only [Option.map_some, List.map_append, List.map_dropLast]
        rfl
      · rfl
    · rfl

/-- Without a zone an address is its groups. -/
theorem isIPv6_eq {cs : List Char} (hzone : '%' ∉ cs) :
    isIPv6 cs = (!cs.contains '/' && (expandTail (Text.splitAll ':' cs)).any areGroups) := by
  have hgood : hasGoodZone cs = true := by
    have hnone : Text.splitFirst? '%' cs = none := Text.splitFirst?_of_notMem hzone
    rw [hasGoodZone, hnone]
  have hwhole : cs.takeWhile (· ≠ '%') = cs := by
    rw [List.takeWhile_eq_self_iff]
    exact fun c hc => decide_eq_true fun heq => hzone (heq ▸ hc)
  rw [isIPv6, hgood, hwhole, Bool.and_true]
  cases expandTail (Text.splitAll ':' cs) <;> rfl

/-- **An address without a zone is one in small letters as well.** -/
theorem isIPv6_map_toLower {cs : List Char} (hzone : '%' ∉ cs) :
    isIPv6 (cs.map Char.toLower) = isIPv6 cs := by
  have hzone' : '%' ∉ cs.map Char.toLower := by
    rw [← List.contains_iff_mem, contains_map_toLower (by decide), List.contains_iff_mem]
    exact hzone
  rw [isIPv6_eq hzone, isIPv6_eq hzone', contains_map_toLower (by decide),
    Text.splitAll_map fun c => toLower_eq_iff (by decide), expandTail_map_toLower, Option.any_map]
  exact congrArg (fun p => _ && Option.any p _) (funext areGroups_map_toLower)

/-- The groups of an address without a zone. -/
theorem exists_groups_of_isIPv6 {cs : List Char} (h : isIPv6 cs = true) (hzone : '%' ∉ cs) :
    ∃ groups, expandTail (Text.splitAll ':' cs) = some groups ∧ areGroups groups = true := by
  rw [isIPv6_eq hzone, Bool.and_eq_true, Option.any_eq_true] at h
  exact h.2

/-- A group before the last is kept, and so is the last, unless it is an address of the
older kind. -/
theorem mem_of_expandTail {groups expanded : List (List Char)} (h : expandTail groups = some expanded)
    {group : List Char} (hgroup : group ∈ groups) : group ∈ expanded ∨ isIPv4 group = true := by
  rw [expandTail] at h
  cases hlast : groups.getLast? with
  | none =>
    rw [List.getLast?_eq_none_iff] at hlast
    cases hlast ▸ hgroup
  | some last =>
    rw [hlast] at h
    simp only at h
    split at h
    · split at h
      · rename_i hold
        injection h with h
        rw [← List.dropLast_append_getLast? last hlast, List.mem_append, List.mem_singleton] at hgroup
        rcases hgroup with hgroup | rfl
        · exact .inl (h ▸ List.mem_append_left _ hgroup)
        · exact .inr hold
      · cases h
    · injection h with h
      exact .inl (h ▸ hgroup)

/-- **What an address without a zone is made of**: hexadecimal digits, colons and points. -/
theorem isHexDigit_of_isIPv6 {cs : List Char} (h : isIPv6 cs = true) (hzone : '%' ∉ cs) :
    ∀ c ∈ cs, isHexDigit c = true ∨ c = ':' ∨ c = '.' := by
  intro c hc
  obtain ⟨groups, hexpand, hgroups⟩ := exists_groups_of_isIPv6 h hzone
  rcases Text.mem_splitAll ':' hc with hcolon | ⟨part, hpart, hmem⟩
  · exact .inr (.inl hcolon)
  rcases mem_of_expandTail hexpand hpart with hkept | hold
  · exact .inl (isHexDigit_of_areGroups hgroups hkept c hmem)
  · refine (isDigit_of_isIPv4 hold c hmem).imp (fun hdigit => ?_) .inr
    rw [isHexDigit, hdigit, Bool.true_or, Bool.true_or]

/-- **An address holds a colon.** -/
theorem colon_mem_of_isIPv6 {cs : List Char} (h : isIPv6 cs = true) (hzone : '%' ∉ cs) :
    ':' ∈ cs := by
  obtain ⟨groups, hexpand, hgroups⟩ := exists_groups_of_isIPv6 h hzone
  by_contra hcolon
  rw [Text.splitAll_of_notMem hcolon, expandTail] at hexpand
  simp only [List.getLast?_singleton, List.dropLast_singleton, List.nil_append] at hexpand
  -- One group is no address, and the two that the older kind counts for are not enough.
  split at hexpand
  · split at hexpand
    · injection hexpand with hexpand
      rw [← hexpand] at hgroups
      exact absurd hgroups (by decide)
    · cases hexpand
  · injection hexpand with hexpand
    rw [← hexpand] at hgroups
    cases hgroups

/-- An address is none of the older kind. -/
theorem isIPv4_eq_false_of_colon_mem {cs : List Char} (h : ':' ∈ cs) : isIPv4 cs = false := by
  rw [← Bool.not_eq_true]
  intro hold
  exact absurd (isDigit_of_isIPv4 hold ':' h) (by decide)

end Url

end WebPush
