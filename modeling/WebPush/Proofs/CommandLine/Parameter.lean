import WebPush.CommandLine.Parameter
import WebPush.Proofs.Text.Split
/-!
# Command line — values that are spelled out

A value may stand behind its name and an equals sign, whatever is in it,
or as an argument of its own if it cannot be taken for a name. Arguments
that spell values in these ways are parsed to these values, in their
order.
-/

namespace WebPush.CommandLine

/-- A name that begins with two dashes, holds no equals sign and does not ask for help. -/
structure Parameter.IsLong (p : Parameter) : Prop where
  dashes : ∃ c rest, p.name.toList = '-' :: '-' :: c :: rest
  plain : '=' ∉ p.name.toList
  notHelp : p.name ≠ helpName

/-- The names that arguments are compared with. -/
def namesOf (parameters : List Parameter) : List String :=
  helpName :: parameters.map (·.name)

/-- Arguments that give values to parameters, each behind an equals sign or as the next
argument. -/
inductive Spells (parameters : List Parameter) : List (String × String) → List String → Prop
  | nil : Spells parameters [] []
  | joined {p : Parameter} {value : String} {given : List (String × String)} {args : List String} :
      p ∈ parameters → p.accepts value = true → Spells parameters given args →
        Spells parameters ((p.name, value) :: given) ((p.name ++ "=" ++ value) :: args)
  | separate {p : Parameter} {value : String} {given : List (String × String)}
      {args : List String} :
      p ∈ parameters → p.accepts value = true →
        classify (namesOf parameters) value = .ok (.value value) → Spells parameters given args →
        Spells parameters ((p.name, value) :: given) (p.name :: value :: args)

variable {parameters : List Parameter} {p : Parameter} {value : String}

/-! ## One argument -/

/-- No name holds an equals sign. -/
theorem notMem_namesOf (hlong : ∀ p ∈ parameters, p.IsLong) {arg : String}
    (h : '=' ∈ arg.toList) : (namesOf parameters).contains arg = false := by
  rw [← Bool.not_eq_true, List.contains_iff_mem, namesOf, List.mem_cons, List.mem_map]
  rintro (rfl | ⟨p, hp, rfl⟩)
  · exact absurd h (by decide)
  · exact (hlong p hp).plain h

theorem mem_namesOf (hp : p ∈ parameters) : (namesOf parameters).contains p.name = true :=
  List.contains_iff_mem.2 (List.mem_cons_of_mem _ (List.mem_map.2 ⟨p, hp, rfl⟩))

/-- A name and a value behind an equals sign are taken for this. -/
theorem classify_joined (hlong : ∀ p ∈ parameters, p.IsLong) (hp : p ∈ parameters)
    (value : String) : classify (namesOf parameters) (p.name ++ "=" ++ value) =
      .ok (.name p.name (some value)) := by
  obtain ⟨⟨c, rest, hdashes⟩, hplain, hhelp⟩ := hlong p hp
  have hchars : (p.name ++ "=" ++ value).toList = p.name.toList ++ '=' :: value.toList := by
    rw [String.toList_append, String.toList_append, List.append_assoc]
    rfl
  have hsplit : splitValue (p.name ++ "=" ++ value).toList = (p.name.toList, some value) := by
    simp only [splitValue, hchars, Text.splitFirst?_append hplain, String.ofList_toList]
  have hunlisted : (namesOf parameters).contains (p.name ++ "=" ++ value) = false := by
    refine notMem_namesOf hlong ?_
    rw [hchars]
    exact List.mem_append_right _ List.mem_cons_self
  have hname : (p.name ++ "=" ++ value).toList = '-' :: '-' :: c :: (rest ++ '=' :: value.toList) := by
    rw [hchars, hdashes]
    rfl
  rw [hname] at hsplit
  simp only [classify, hname, hsplit, hunlisted, String.ofList_toList, mem_namesOf hp]
  simp [hdashes, found, hhelp]

/-- A name alone is taken for one that a value follows. -/
theorem classify_name (hlong : ∀ p ∈ parameters, p.IsLong) (hp : p ∈ parameters) :
    classify (namesOf parameters) p.name = .ok (.name p.name none) := by
  obtain ⟨⟨c, rest, hdashes⟩, -, hhelp⟩ := hlong p hp
  rw [classify, mem_namesOf hp, hdashes]
  simp [found, hhelp]

/-! ## All arguments -/

theorem add_eq_ok (hp : p ∈ parameters) (haccepts : p.accepts value = true) (parsed : Parsed) :
    parsed.add parameters p.name value =
      .ok { parsed with values := parsed.values ++ [(p.name, value)] } := by
  have hany : (parameters.any fun q => q.name = p.name && q.accepts value) = true :=
    List.any_eq_true.2 ⟨p, hp, by simp [haccepts]⟩
  rw [Parsed.add, hany, if_pos rfl]

/-- Arguments that spell values are collected to these values. -/
theorem Spells.exists_collect (hlong : ∀ p ∈ parameters, p.IsLong)
    {given : List (String × String)} {args : List String} (h : Spells parameters given args) :
    ∃ tokens, classifyAll (namesOf parameters) args = .ok tokens ∧ ∀ parsed,
      collect parameters parsed tokens = .ok { parsed with values := parsed.values ++ given } := by
  -- The tokens are collected behind what was parsed before, so that has to be arbitrary.
  induction h with
  | nil => exact ⟨[], rfl, fun parsed => by simp [collect]⟩
  | @joined p value given args hp haccepts hrest ih =>
    obtain ⟨tokens, htokens, hcollect⟩ := ih
    refine ⟨.name p.name (some value) :: tokens, ?_, fun parsed => ?_⟩
    · rw [classifyAll, classify_joined hlong hp, htokens]
      rfl
    · simp only [collect, add_eq_ok hp haccepts, hcollect, List.append_assoc,
        List.singleton_append]
  | @separate p value given args hp haccepts hvalue hrest ih =>
    obtain ⟨tokens, htokens, hcollect⟩ := ih
    refine ⟨.name p.name none :: .value value :: tokens, ?_, fun parsed => ?_⟩
    · rw [classifyAll, classify_name hlong hp, classifyAll, hvalue, htokens]
      rfl
    · simp only [collect, add_eq_ok hp haccepts, hcollect, List.append_assoc,
        List.singleton_append]

/-- A value that is spelled is one that its parameter takes. -/
theorem Spells.exists_accepts {given : List (String × String)} {args : List String}
    (h : Spells parameters given args) {name value : String} (hmem : (name, value) ∈ given) :
    ∃ p ∈ parameters, p.name = name ∧ p.accepts value = true := by
  induction h with
  | nil => cases hmem
  | joined hp haccepts _ ih | separate hp haccepts _ _ ih =>
    rcases List.mem_cons.1 hmem with heq | hrest
    · cases heq
      exact ⟨_, hp, rfl, haccepts⟩
    · exact ih hrest

/-- The value of a parameter was given to it. -/
theorem mem_of_value? {parsed : Parsed} {name value : String}
    (h : parsed.value? name = some value) : (name, value) ∈ parsed.values := by
  obtain ⟨before, after, hsplit, -⟩ := List.lookup_eq_some_iff.1 h
  rw [← List.mem_reverse, hsplit]
  exact List.mem_append_right _ List.mem_cons_self

/-- **What is spelled is parsed**, if no required parameter is missing. -/
theorem parse_of_spells (hlong : ∀ p ∈ parameters, p.IsLong) {given : List (String × String)}
    {args : List String} (h : Spells parameters given args)
    (hrequired : ∀ p ∈ parameters, p.isRequired = true → p.name ∈ given.map Prod.fst) :
    parse parameters args = .ok ⟨given, false⟩ := by
  obtain ⟨tokens, htokens, hcollect⟩ := h.exists_collect hlong
  have hmissing : (parameters.any fun p => p.isRequired && !given.any (·.1 = p.name)) = false := by
    rw [List.any_eq_false]
    intro p hp
    rw [Bool.and_eq_true, not_and]
    intro hneeded
    obtain ⟨pair, hpair, hname⟩ := List.mem_map.1 (hrequired p hp hneeded)
    rw [List.any_eq_true.2 ⟨pair, hpair, decide_eq_true hname⟩]
    exact Bool.false_ne_true
  rw [namesOf] at htokens
  simp only [parse, htokens, hcollect, bind, Except.bind, List.nil_append, hmissing, Bool.or_false,
    Bool.false_eq_true, if_false]

/-- **A value that its parameter does not take** stops the reading, whatever is spelled behind
it. -/
theorem parse_eq_invalid (hlong : ∀ p ∈ parameters, p.IsLong) (hp : p ∈ parameters)
    (hrefused : ∀ q ∈ parameters, q.name = p.name → q.accepts value = false)
    {given : List (String × String)} {args : List String} (h : Spells parameters given args) :
    parse parameters ((p.name ++ "=" ++ value) :: args) = .error .invalid := by
  obtain ⟨tokens, htokens, -⟩ := h.exists_collect hlong
  have hclassify : classifyAll (namesOf parameters) ((p.name ++ "=" ++ value) :: args) =
      .ok (.name p.name (some value) :: tokens) := by
    rw [classifyAll, classify_joined hlong hp, htokens]
    rfl
  have hnone : (parameters.any fun q => q.name = p.name && q.accepts value) = false := by
    rw [List.any_eq_false]
    intro q hq
    rw [Bool.and_eq_true, decide_eq_true_eq, not_and, Bool.not_eq_true]
    exact hrefused q hq
  rw [namesOf] at hclassify
  simp only [parse, hclassify, bind, Except.bind, collect, Parsed.add, hnone, Bool.false_eq_true,
    if_false]

end WebPush.CommandLine
