import Mathlib.Data.List.Nodup
import WebPush.Proofs.Environment.Grammar
import WebPush.Proofs.Lookup
/-!
# Environment — pairs applied one after the other

Pairs that are applied are pending if their names may be set: all of
them, or those whose names are not set yet. The pending ones are set in
their order, up to the first with a value that no variable can have. So
what comes of it is known in advance, and where every pair has been set
already nothing changes.
-/

namespace WebPush.Environment

/-- The environment with variables set, one after the other. -/
def putAll (env : Environment) (pairs : List (String × String)) : Environment :=
  pairs.foldl (fun env pair => env.put pair.1 pair.2) env

/-- The pairs that are to be set. Without `override` a name that has a value, be it empty, keeps
it. -/
def pending (override : Bool) (env : Environment) (pairs : List (String × String)) :
    List (String × String) :=
  if override then pairs else pairs.filter fun pair => (env.get? pair.1).isNone

/-- The pairs in front of the first with a value that no variable can have. -/
def settable (pairs : List (String × String)) : List (String × String) :=
  pairs.takeWhile fun pair => !hasNul pair.2

/-- What a file may assign: names with the prefix of this library, each once. -/
structure AreSettings (pairs : List (String × String)) : Prop where
  names : ∀ pair ∈ pairs, IsSettingName pair.1.toList
  nodup : (pairs.map Prod.fst).Nodup

variable {env : Environment} {pairs : List (String × String)} {name value : String}

/-! ## Setting variables -/

@[simp] theorem putAll_nil (env : Environment) : env.putAll [] = env := rfl

@[simp] theorem putAll_cons (env : Environment) (pair : String × String)
    (rest : List (String × String)) :
    env.putAll (pair :: rest) = (env.put pair.1 pair.2).putAll rest := rfl

/-- **What is set is set, and all else stays as it is.** -/
theorem get?_putAll (hnodup : (pairs.map Prod.fst).Nodup) (name : String) :
    (env.putAll pairs).get? name = (pairs.lookup name).or (env.get? name) := by
  induction pairs generalizing env with
  | nil => rfl
  | cons pair rest ih =>
    rw [List.map_cons, List.nodup_cons] at hnodup
    rw [putAll_cons, ih hnodup.2, get?_put, List.lookup_cons]
    by_cases hname : name = pair.1
    · rw [if_pos hname, hname, lookup_eq_none_iff_notMem.2 hnodup.1, beq_self_eq_true]
      rfl
    · rw [if_neg hname, beq_eq_false_iff_ne.2 hname]

theorem putPair_eq_self (h : pairs.lookup name = some value) : putPair pairs name value = pairs := by
  induction pairs with
  | nil => cases h
  | cons pair rest ih =>
    rw [List.lookup_cons] at h
    by_cases hname : name = pair.1
    · rw [hname, beq_self_eq_true] at h
      rw [putPair, if_pos hname.symm, hname, ← Option.some.inj h]
    · rw [beq_eq_false_iff_ne.2 hname] at h
      rw [putPair, if_neg (Ne.symm hname), ih h]

/-- A variable that is given the value it has stays as it is. -/
theorem put_eq_self (h : env.get? name = some value) : env.put name value = env := by
  rw [put, putPair_eq_self h]

/-- **Where all values are in place already, nothing changes.** -/
theorem putAll_eq_self (h : ∀ pair ∈ pairs, env.get? pair.1 = some pair.2) :
    env.putAll pairs = env := by
  induction pairs with
  | nil => rfl
  | cons pair rest ih =>
    obtain ⟨hpair, hrest⟩ := List.forall_mem_cons.1 h
    rw [putAll_cons, put_eq_self hpair, ih hrest]

/-- Nothing changes only where all values are in place. -/
theorem putAll_eq_self_iff (hnodup : (pairs.map Prod.fst).Nodup) :
    env.putAll pairs = env ↔ ∀ pair ∈ pairs, env.get? pair.1 = some pair.2 := by
  refine ⟨fun h pair hpair => ?_, putAll_eq_self⟩
  rw [← h, get?_putAll hnodup, lookup_eq_some_of_mem hnodup hpair, Option.some_or]

/-- New names come behind those that were there, in their order. -/
theorem pairs_putAll (hnodup : (pairs.map Prod.fst).Nodup)
    (hnew : ∀ pair ∈ pairs, env.get? pair.1 = none) : (env.putAll pairs).pairs = env.pairs ++ pairs := by
  induction pairs generalizing env with
  | nil => exact (List.append_nil _).symm
  | cons pair rest ih =>
    obtain ⟨hpair, hrest⟩ := List.forall_mem_cons.1 hnew
    rw [List.map_cons, List.nodup_cons] at hnodup
    have hput : (env.put pair.1 pair.2).pairs = env.pairs ++ [pair] :=
      putPair_of_notMem (lookup_eq_none_iff_notMem.1 hpair)
    have hstill : ∀ later ∈ rest, (env.put pair.1 pair.2).get? later.1 = none := by
      intro later hlater
      rw [get?_put, if_neg, hrest later hlater]
      intro hname
      exact hnodup.1 (hname ▸ List.mem_map_of_mem hlater)
    rw [putAll_cons, ih hnodup.2 hstill, hput, List.append_assoc, List.singleton_append]

/-! ## What is pending -/

theorem pending_sublist (override : Bool) (env : Environment) (pairs : List (String × String)) :
    (pending override env pairs).Sublist pairs := by
  rw [pending]
  split
  · exact List.Sublist.refl _
  · exact List.filter_sublist

/-- A part of settings are settings. -/
theorem AreSettings.sublist {part : List (String × String)} (h : AreSettings pairs)
    (hpart : part.Sublist pairs) : AreSettings part where
  names := fun pair hpair => h.names pair (hpart.subset hpair)
  nodup := h.nodup.sublist (hpart.map Prod.fst)

theorem mem_pending_iff {override : Bool} {pair : String × String} :
    pair ∈ pending override env pairs ↔
      pair ∈ pairs ∧ (override = true ∨ env.get? pair.1 = none) := by
  cases override <;> simp [pending]

/-- Another variable that is set makes no pair pending, nor keeps it from being so. -/
theorem pending_put (override : Bool) (h : name ∉ pairs.map Prod.fst) :
    pending override (env.put name value) pairs = pending override env pairs := by
  rw [pending, pending]
  split
  · rfl
  · refine List.filter_congr fun pair hpair => ?_
    rw [get?_put, if_neg]
    rintro rfl
    exact h (List.mem_map_of_mem hpair)

/-- Where no name has a value yet, all pairs are pending. -/
theorem pending_eq_self (override : Bool) (hnew : ∀ pair ∈ pairs, env.get? pair.1 = none) :
    pending override env pairs = pairs := by
  rw [pending]
  split
  · rfl
  · exact List.filter_eq_self.2 fun pair hpair => Option.isNone_iff_eq_none.2 (hnew pair hpair)

/-- Where every name has a value, none is pending unless values are to be replaced. -/
theorem pending_eq_nil (hset : ∀ pair ∈ pairs, (env.get? pair.1).isSome = true) :
    pending false env pairs = [] := by
  rw [pending, if_neg Bool.false_ne_true, List.filter_eq_nil_iff]
  intro pair hpair
  rw [Option.isNone_iff_eq_none, ← ne_eq, ← Option.isSome_iff_ne_none]
  exact hset pair hpair

/-- **With the pending pairs set**, either the pairs come first and then what was there, or the
other way round. -/
theorem get?_putAll_pending (override : Bool) (env : Environment)
    (hnodup : (pairs.map Prod.fst).Nodup) (name : String) :
    (env.putAll (pending override env pairs)).get? name =
      if override then (pairs.lookup name).or (env.get? name)
      else (env.get? name).or (pairs.lookup name) := by
  have hpart := (pending_sublist override env pairs).map Prod.fst
  rw [get?_putAll (hnodup.sublist hpart), pending]
  cases override with
  | true => rfl
  | false =>
    rw [if_neg Bool.false_ne_true, if_neg Bool.false_ne_true,
      lookup_filter fun name => (env.get? name).isNone]
    cases env.get? name with
    | none => exact Option.or_none
    | some value => rfl

/-- Without a value that no variable can have, everything can be set. -/
theorem settable_eq_self_iff : settable pairs = pairs ↔ ∀ pair ∈ pairs, hasNul pair.2 = false := by
  simp [settable, List.takeWhile_eq_self_iff]

/-! ## Applying a file -/

/-- A variable can be set if its value holds no NUL. -/
theorem set_eq_ok (env : Environment) (hname : IsSettingName name.toList)
    (hvalue : hasNul value = false) : env.set name value = .ok (env.put name value) := by
  have hnul : hasNul name = false := by
    rw [hasNul, ← Bool.not_eq_true, List.contains_iff_mem]
    exact fun h => (plain_of_inIdentifier (hname.inIdentifier _ h)).2.1 rfl
  have hequals : name.toList.contains '=' = false := by
    rw [← Bool.not_eq_true, List.contains_iff_mem]
    exact fun h => (plain_of_inIdentifier (hname.inIdentifier _ h)).1 rfl
  have hne : name.isEmpty = false := by
    obtain ⟨rest, hrest⟩ := hname.exists_cons
    rw [← Bool.not_eq_true, String.isEmpty_iff]
    rintro rfl
    cases hrest
  rw [set, hnul, hvalue, hequals, hne]
  rfl

/-- And if it holds one, this is the fault. -/
theorem set_eq_nul (env : Environment) (name : String) (hvalue : hasNul value = true) :
    env.set name value = .error .nul := by
  rw [set, hvalue, Bool.or_true, if_pos rfl]

/-- **What comes of applying settings**: those that are pending are set up to the first that
cannot be, and if there is one, this is the fault. -/
theorem applyPairs_eq (override : Bool) (h : AreSettings pairs) :
    applyPairs override env pairs =
      ⟨env.putAll (settable (pending override env pairs)), settable (pending override env pairs),
        ((pending override env pairs).find? fun pair => hasNul pair.2).map fun _ => .nul⟩ := by
  induction pairs generalizing env with
  | nil => cases override <;> rfl
  | cons pair rest ih =>
    have hrest : AreSettings rest := h.sublist (List.sublist_cons_self pair rest)
    have hnew : pair.1 ∉ rest.map Prod.fst := (List.nodup_cons.1 h.nodup).1
    rw [applyPairs]
    cases hkept : !override && (env.get? pair.1).isSome with
    | true =>
      have hpending : pending override env (pair :: rest) = pending override env rest := by
        rw [Bool.and_eq_true, Bool.not_eq_true'] at hkept
        obtain ⟨rfl, hsome⟩ := hkept
        obtain ⟨value, hvalue⟩ := Option.isSome_iff_exists.1 hsome
        simp [pending, hvalue]
      rw [if_pos rfl, ih hrest, hpending]
    | false =>
      have hpending : pending override env (pair :: rest) = pair :: pending override env rest := by
        cases override with
        | true => rfl
        | false =>
          rw [Bool.not_false, Bool.true_and, Option.isSome_eq_false_iff] at hkept
          simp [pending, hkept]
      rw [if_neg Bool.false_ne_true, hpending]
      cases hnul : hasNul pair.2 with
      | true => simp [set_eq_nul env pair.1 hnul, settable, hnul]
      | false =>
        have hset := set_eq_ok env (h.names pair List.mem_cons_self) hnul
        simp [hset, ih hrest, pending_put override hnew, settable, hnul]

/-- Settings whose values hold no NUL are all applied, as far as they are pending. -/
theorem applyPairs_eq_ok {override : Bool} (h : AreSettings pairs)
    (hnul : ∀ pair ∈ pending override env pairs, hasNul pair.2 = false) :
    applyPairs override env pairs =
      ⟨env.putAll (pending override env pairs), pending override env pairs, none⟩ := by
  have hfind : (pending override env pairs).find? (fun pair => hasNul pair.2) = none := by
    rw [List.find?_eq_none]
    intro pair hpair
    rw [hnul pair hpair]
    exact Bool.false_ne_true
  rw [applyPairs_eq override h, settable_eq_self_iff.2 hnul, hfind]
  rfl

/-- **Where applying settings fails**, it stops at the first pending pair with a NUL in its value,
and those in front of it have been set. -/
theorem of_fault_applyPairs {override : Bool} (h : AreSettings pairs) {f : VariableFault}
    (hfault : (applyPairs override env pairs).fault = some f) :
    ∃ before bad after, pending override env pairs = before ++ bad :: after ∧
      (∀ pair ∈ before, hasNul pair.2 = false) ∧ hasNul bad.2 = true ∧ f = .nul ∧
      (applyPairs override env pairs).environment = env.putAll before := by
  rw [applyPairs_eq override h] at hfault ⊢
  obtain ⟨bad, hbad, rfl⟩ := Option.map_eq_some_iff.1 hfault
  obtain ⟨hnul, before, after, hpending, hbefore⟩ := List.find?_eq_some_iff_append.1 hbad
  have hclean : ∀ pair ∈ before, hasNul pair.2 = false :=
    fun pair hpair => by simpa using hbefore pair hpair
  refine ⟨before, bad, after, hpending, hclean, hnul, rfl, ?_⟩
  have hsettable : settable (before ++ bad :: after) = before := by
    rw [settable, List.takeWhile_append_of_pos (by simpa using hbefore),
      List.takeWhile_cons_of_neg (by simp [hnul]), List.append_nil]
  rw [hpending, hsettable]

/-! ## What a file assigns -/

/-- A line assigns to names with the prefix of this library only. -/
theorem Says.isSettingName {line name value : List Char}
    (h : Says line (.ok (.assignment name value))) : IsSettingName name := by
  generalize hr : Except.ok (Line.assignment name value) = r at h
  cases h with
  | nothing _ | other _ _ _ | noEquals _ _ _ | noIdentifier _ _ => cases hr
  | @assignment before after unquoted _ hname hprefix _ =>
    cases unquoted with
    | error f => cases hr
    | ok _ =>
      cases hr
      exact ⟨isIdentifier_eq_true_iff.2 hname, List.isPrefixOf_iff_prefix.2 hprefix⟩

/-- One more line leaves settings. -/
theorem AreSettings.addLine (h : AreSettings pairs) {line : List Char} {content : Line}
    (hline : readLine line = .ok content) : AreSettings (addLine pairs content) := by
  cases content with
  | empty | other => exact h
  | assignment name value =>
    have hname : IsSettingName (String.ofList name).toList :=
      String.toList_ofList ▸ (readLine_eq_iff.1 hline).isSettingName
    rw [Environment.addLine]
    by_cases hmem : String.ofList name ∈ pairs.map Prod.fst
    · have hnames : (putPair pairs (String.ofList name) (String.ofList value)).map Prod.fst =
          pairs.map Prod.fst := by rw [map_fst_putPair, if_pos hmem]
      refine ⟨fun pair hpair => ?_, hnames ▸ h.nodup⟩
      obtain ⟨earlier, hearlier, hsame⟩ := List.mem_map.1 (hnames ▸ List.mem_map_of_mem hpair)
      exact hsame ▸ h.names earlier hearlier
    · rw [putPair_of_notMem hmem]
      refine ⟨List.forall_mem_append.2 ⟨h.names, List.forall_mem_singleton.2 hname⟩, ?_⟩
      rw [List.map_append, List.nodup_append_comm]
      exact List.nodup_cons.2 ⟨hmem, h.nodup⟩

/-- **A file assigns settings.** -/
theorem areSettings_of_readLines {path : String} {number : Nat} {before : List (String × String)}
    {lines : List (List Char)} (h : readLines path number before lines = .ok pairs)
    (hbefore : AreSettings before) : AreSettings pairs := by
  induction lines generalizing number before with
  | nil =>
    cases h
    exact hbefore
  | cons line rest ih =>
    rw [readLines] at h
    split at h
    · cases h
    · rename_i hline
      exact ih h (hbefore.addLine hline)

end WebPush.Environment
