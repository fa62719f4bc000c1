/-!
# Lookup — the value beside a name

A list of pairs gives a name the value beside its first occurrence, and
none if it does not occur. Where no name comes twice, this is the value
of every pair.
-/

namespace WebPush

variable {α β : Type} [BEq α] [LawfulBEq α] {pairs : List (α × β)} {name : α}

/-- **There is no value just for a name that does not occur.** -/
theorem lookup_eq_none_iff_notMem : pairs.lookup name = none ↔ name ∉ pairs.map Prod.fst := by
  rw [List.lookup_eq_none_iff, List.mem_map]
  constructor
  · rintro h ⟨pair, hpair, rfl⟩
    exact bne_iff_ne.1 (h pair hpair) rfl
  · intro h pair hpair
    rw [bne_iff_ne]
    exact fun heq => h ⟨pair, hpair, heq.symm⟩

/-- Where each name comes once, it has the value beside it. -/
theorem lookup_eq_some_of_mem (hnodup : (pairs.map Prod.fst).Nodup) {pair : α × β}
    (h : pair ∈ pairs) : pairs.lookup pair.1 = some pair.2 := by
  obtain ⟨before, after, rfl⟩ := List.append_of_mem h
  rw [List.map_append, List.nodup_append] at hnodup
  have hbefore : pair.1 ∉ before.map Prod.fst :=
    fun hmem => hnodup.2.2 pair.1 hmem pair.1 List.mem_cons_self rfl
  rw [List.lookup_append, lookup_eq_none_iff_notMem.2 hbefore, Option.none_or,
    List.lookup_cons_self]

/-- Among the pairs with certain names, such a name has the value that it had. -/
theorem lookup_filter (q : α → Bool) (pairs : List (α × β)) (name : α) :
    (pairs.filter fun pair => q pair.1).lookup name =
      if q name then pairs.lookup name else none := by
  induction pairs with
  | nil => rw [List.filter_nil, List.lookup_nil, ite_self]
  | cons pair rest ih =>
    rw [List.filter_cons, List.lookup_cons]
    by_cases hname : name = pair.1
    · subst hname
      cases hq : q pair.1 with
      | true => rw [if_pos rfl, if_pos rfl, List.lookup_cons_self, beq_self_eq_true]
      | false => rw [if_neg Bool.false_ne_true, if_neg Bool.false_ne_true, ih, hq]; rfl
    · rw [beq_eq_false_iff_ne.2 hname, ← ih]
      split
      · rw [List.lookup_cons, beq_eq_false_iff_ne.2 hname]
      · rfl

end WebPush
