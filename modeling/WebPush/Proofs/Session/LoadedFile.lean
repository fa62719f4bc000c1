import WebPush.Proofs.Curve.Order
import WebPush.Proofs.Session
/-!
# Session — what a file of settings does to the environment

A file that is applied changes the variables that are reported and no
others, and applied a second time it changes nothing. Without `override`
what is set already comes first, so of two files the earlier one wins. A
file that cannot be read changes nothing; but where a value cannot be
set, the values in front of it have been.
-/

namespace WebPush.Session

open Environment

variable {s : Session} {path : String} {pairs : List (String × String)} {override : Bool}

/-! ## Files that are applied -/

/-- Whatever is pending of values that can be set can be set. -/
theorem hasNul_of_mem_pending (hnul : ∀ pair ∈ pairs, hasNul pair.2 = false)
    (environment : Environment) :
    ∀ pair ∈ pending override environment pairs, hasNul pair.2 = false :=
  fun pair hpair => hnul pair ((pending_sublist override environment pairs).subset hpair)

/-- **A file that has been applied is in place**, so that applying it again reports what may be
replaced and changes nothing. -/
theorem loadEnvironmentFile_again (hread : s.readEnvironmentFile path = .ok pairs)
    (hnul : ∀ pair ∈ pairs, hasNul pair.2 = false)
    (hset : ∀ pair ∈ pairs, (s.environment.get? pair.1).isSome = true)
    (hsame : override = true → ∀ pair ∈ pairs, s.environment.get? pair.1 = some pair.2) :
    s.loadEnvironmentFile path override = (.ok (if override then pairs else []), s) := by
  rw [loadEnvironmentFile_eq_ok hread (hasNul_of_mem_pending hnul _)]
  cases override with
  | true =>
    have hpending : pending true s.environment pairs = pairs := rfl
    rw [hpending, putAll_eq_self (hsame rfl), if_pos rfl]
  | false => rw [pending_eq_nil hset, putAll_nil, if_neg Bool.false_ne_true]

/-- **A file of settings changes what it reports and nothing else.** Reported are its pairs, or
without `override` those whose names had no value, be it an empty one; in the environment they
come before what was there with `override`, and behind it without. Variables without the prefix
of this library and those that the file does not assign stay as they are. Applied again, the file
changes nothing, and a second file applied behind it without `override` adds only what neither the
environment nor the first had. -/
theorem loadEnvironmentFile_updates (hread : s.readEnvironmentFile path = .ok pairs)
    (hnul : ∀ pair ∈ pairs, hasNul pair.2 = false) (override : Bool) :
    ∃ reported environment,
      s.loadEnvironmentFile path override = (.ok reported, { s with environment }) ∧
      reported = (if override then pairs
        else pairs.filter fun pair => (s.environment.get? pair.1).isNone) ∧
      (∀ name, environment.get? name =
        if override then (pairs.lookup name).or (s.environment.get? name)
        else (s.environment.get? name).or (pairs.lookup name)) ∧
      (override = false → environment.pairs = s.environment.pairs ++ reported) ∧
      (∀ name, ¬ namePrefix.toList <+: name.toList ∨ name ∉ pairs.map Prod.fst →
        environment.get? name = s.environment.get? name) ∧
      ({ s with environment }).loadEnvironmentFile path override =
        (.ok (if override then pairs else []), { s with environment }) ∧
      ∀ second others, s.readEnvironmentFile second = .ok others →
        (∀ pair ∈ others, hasNul pair.2 = false) →
        ∃ added both, ({ s with environment }).loadEnvironmentFile second false =
            (.ok added, { s with environment := both }) ∧
          ∀ name, both.get? name = (environment.get? name).or (others.lookup name) := by
  have hsettings := areSettings_of_readEnvironmentFile hread
  have hget := get?_putAll_pending override s.environment hsettings.nodup
  refine ⟨_, _, loadEnvironmentFile_eq_ok hread (hasNul_of_mem_pending hnul _), rfl, hget, ?_, ?_,
    ?_, ?_⟩
  · rintro rfl
    refine pairs_putAll (hsettings.sublist (pending_sublist _ _ _)).nodup fun pair hpair => ?_
    exact (mem_pending_iff.1 hpair).2.resolve_left Bool.false_ne_true
  · intro name hname
    have hnone : pairs.lookup name = none := by
      rw [lookup_eq_none_iff_notMem]
      rcases hname with hprefix | hmem
      · intro hmem
        obtain ⟨pair, hpair, rfl⟩ := List.mem_map.1 hmem
        exact hprefix (List.isPrefixOf_iff_prefix.1 (hsettings.names pair hpair).withPrefix)
      · exact hmem
    rw [hget, hnone, Option.or_none, Option.none_or, ite_self]
  · have hvalue : ∀ pair ∈ pairs, pairs.lookup pair.1 = some pair.2 :=
      fun pair hpair => lookup_eq_some_of_mem hsettings.nodup hpair
    refine loadEnvironmentFile_again hread hnul (fun pair hpair => ?_) ?_
    · rw [hget, hvalue pair hpair]
      split
      · rfl
      · rw [Option.isSome_or, Option.isSome_some, Bool.or_true]
    · rintro rfl pair hpair
      rw [hget, if_pos rfl, hvalue pair hpair, Option.some_or]
  · intro second others hothers hclean
    have hnodup := (areSettings_of_readEnvironmentFile hothers).nodup
    exact ⟨_, _, loadEnvironmentFile_eq_ok hothers (hasNul_of_mem_pending hclean _),
      get?_putAll_pending false _ hnodup⟩

/-- The text of a file that gives two names a value, one of them twice, and says something about a
name that does not count. -/
def firstFile : List Char := "VAPIDPUSH_A=1\nHOME=/\nVAPIDPUSH_B=2\nVAPIDPUSH_A=3".toList

/-- The text of a file that assigns one of these names and a new one. -/
def secondFile : List Char := "VAPIDPUSH_C='5'\nVAPIDPUSH_B=4".toList

/-- The text of a file with a NUL in its second value. -/
def fileWithNul : List Char := "VAPIDPUSH_B=2\nVAPIDPUSH_C=\x00\nVAPIDPUSH_D=4".toList

/-- A session with these files, and an octet that writes no text in another; one of the names has
an empty value. -/
def withFilesToLoad : Session :=
  { start ⟨[("HOME", "/root"), ("VAPIDPUSH_A", "")]⟩ ⟨fun _ => .one, fun _ => .zeros, 0, 0⟩
      (.whole 0) fun _ => "" with
    files := ⟨[(["first".toList], Utf8.encodeChars firstFile),
      (["second".toList], Utf8.encodeChars secondFile),
      (["nul".toList], Utf8.encodeChars fileWithNul), (["octet".toList], [0xFF])], []⟩ }

theorem readEnvironmentFile_first :
    withFilesToLoad.readEnvironmentFile "first" =
      .ok [("VAPIDPUSH_A", "3"), ("VAPIDPUSH_B", "2")] := by decide +kernel

/-- An empty value is kept without `override` and replaced with it; and of two files, the first
gives the value. -/
theorem loadEnvironmentFile_updates_files :
    (∃ environment, withFilesToLoad.loadEnvironmentFile "first" true =
        (.ok [("VAPIDPUSH_A", "3"), ("VAPIDPUSH_B", "2")], { withFilesToLoad with environment }) ∧
      environment.get? "VAPIDPUSH_A" = some "3" ∧ environment.get? "HOME" = some "/root") ∧
    ∃ environment, withFilesToLoad.loadEnvironmentFile "first" false =
        (.ok [("VAPIDPUSH_B", "2")], { withFilesToLoad with environment }) ∧
      environment.pairs = [("HOME", "/root"), ("VAPIDPUSH_A", ""), ("VAPIDPUSH_B", "2")] ∧
      ({ withFilesToLoad with environment }).loadEnvironmentFile "first" false =
        (.ok [], { withFilesToLoad with environment }) ∧
      ∃ added both, ({ withFilesToLoad with environment }).loadEnvironmentFile "second" false =
          (.ok added, { withFilesToLoad with environment := both }) ∧
        both.get? "VAPIDPUSH_B" = some "2" ∧ both.get? "VAPIDPUSH_C" = some "5" := by
  have hnul : ∀ pair ∈ [("VAPIDPUSH_A", "3"), ("VAPIDPUSH_B", "2")],
      hasNul pair.2 = false := by decide +kernel
  have hsecond : withFilesToLoad.readEnvironmentFile "second" =
      .ok [("VAPIDPUSH_C", "5"), ("VAPIDPUSH_B", "4")] := by decide +kernel
  constructor
  · obtain ⟨_, environment, hload, rfl, hget, -⟩ :=
      loadEnvironmentFile_updates readEnvironmentFile_first hnul true
    exact ⟨environment, hload, hget _, hget _⟩
  · obtain ⟨_, environment, hload, rfl, hget, hpairs, -, hagain, htwo⟩ :=
      loadEnvironmentFile_updates readEnvironmentFile_first hnul false
    obtain ⟨added, both, hboth, hget'⟩ := htwo "second" _ hsecond (by decide +kernel)
    refine ⟨environment, hload, hpairs rfl, hagain, added, both, hboth, ?_, ?_⟩
    · rw [hget', hget]
      rfl
    · rw [hget', hget]
      rfl

/-! ## Files that are not -/

/-- **What a file that fails leaves.** If it cannot be read, or a line of it has a fault, the session
is as it was. Otherwise one of the pairs that were to be set has a NUL in its value: those in front
of it have been set, and nothing else; so the environment is as it was just if they had these
values before. -/
theorem of_loadEnvironmentFile_eq_error {f : Fault} {after : Session}
    (h : s.loadEnvironmentFile path override = (.error f, after)) :
    (s.readEnvironmentFile path = .error f ∧ after = s) ∨
      ∃ pairs before bad later environment, s.readEnvironmentFile path = .ok pairs ∧
        (if override then pairs else pairs.filter fun pair => (s.environment.get? pair.1).isNone) =
          before ++ bad :: later ∧
        (∀ pair ∈ before, hasNul pair.2 = false) ∧ hasNul bad.2 = true ∧ f = .variable .nul ∧
        after = { s with environment } ∧
        (∀ name, environment.get? name = (before.lookup name).or (s.environment.get? name)) ∧
        (environment = s.environment ↔
          ∀ pair ∈ before, s.environment.get? pair.1 = some pair.2) := by
  cases hread : s.readEnvironmentFile path with
  | error e =>
    simp only [loadEnvironmentFile, hread] at h
    cases h
    exact .inl ⟨rfl, rfl⟩
  | ok pairs =>
    have hsettings := areSettings_of_readEnvironmentFile hread
    simp only [loadEnvironmentFile, hread] at h
    split at h
    · rename_i fault hfault
      cases h
      obtain ⟨before, bad, later, hpending, hclean, hnul, rfl, henvironment⟩ :=
        of_fault_applyPairs hsettings hfault
      have hbefore : before.Sublist pairs :=
        (List.sublist_append_left _ _).trans (hpending ▸ pending_sublist override s.environment pairs)
      have hnodup := (hsettings.sublist hbefore).nodup
      refine .inr ⟨pairs, before, bad, later, _, rfl, hpending, hclean, hnul, rfl, rfl, ?_, ?_⟩
      · intro name
        rw [henvironment, get?_putAll hnodup]
      · rw [henvironment, putAll_eq_self_iff hnodup]
    · cases h

/-- With a NUL in the second value, the first has been set when loading fails; with an octet that
writes no text, nothing has. -/
theorem of_loadEnvironmentFile_eq_error_nul :
    (∃ environment, withFilesToLoad.loadEnvironmentFile "nul" false =
        (.error (.variable .nul), { withFilesToLoad with environment }) ∧
      environment.get? "VAPIDPUSH_B" = some "2" ∧ environment.get? "VAPIDPUSH_D" = none) ∧
    withFilesToLoad.loadEnvironmentFile "octet" true = (.error .encoding, withFilesToLoad) := by
  constructor
  · have hfails := Prod.fst_eq_iff.1
      (show (withFilesToLoad.loadEnvironmentFile "nul" false).1 = .error (.variable .nul) by
        decide +kernel)
    have hread : withFilesToLoad.readEnvironmentFile "nul" =
        .ok [("VAPIDPUSH_B", "2"), ("VAPIDPUSH_C", "\x00"), ("VAPIDPUSH_D", "4")] := by decide +kernel
    have hvalues : hasNul "2" = false ∧ hasNul "\x00" = true := by decide +kernel
    have hunset : [("VAPIDPUSH_B", "2"), ("VAPIDPUSH_C", "\x00"), ("VAPIDPUSH_D", "4")].filter
        (fun pair => (withFilesToLoad.environment.get? pair.1).isNone) =
          [("VAPIDPUSH_B", "2"), ("VAPIDPUSH_C", "\x00"), ("VAPIDPUSH_D", "4")] := by decide +kernel
    obtain ⟨hunread, -⟩ | ⟨_, before, bad, later, environment, hpairs, hpending, hclean, hnul, -,
      hafter, hget, -⟩ := of_loadEnvironmentFile_eq_error hfails
    · cases hread.symm.trans hunread
    cases hread.symm.trans hpairs
    refine ⟨environment, hfails.trans (congrArg (Prod.mk _) hafter), ?_⟩
    rw [if_neg Bool.false_ne_true, hunset] at hpending
    -- Only one pair can stand in front of the one with the NUL.
    rcases before with _ | ⟨first, _ | ⟨second, rest⟩⟩
    · injection hpending with hbad
      subst hbad
      cases hvalues.1.symm.trans hnul
    · injection hpending with hfirst
      subst hfirst
      exact ⟨hget _, hget _⟩
    · injection hpending with _ hpending
      injection hpending with hsecond
      subst hsecond
      cases hvalues.2.symm.trans (hclean _ (List.mem_cons_of_mem _ List.mem_cons_self))
  · have hfails := Prod.fst_eq_iff.1
      (show (withFilesToLoad.loadEnvironmentFile "octet" true).1 = .error .encoding by
        decide +kernel)
    obtain ⟨-, hafter⟩ | ⟨_, _, _, _, _, -, -, -, -, hfault, -⟩ :=
      of_loadEnvironmentFile_eq_error hfails
    · exact hfails.trans (congrArg (Prod.mk _) hafter)
    · cases hfault

/-- **A failure need not leave the environment as it was.** -/
theorem exists_loadEnvironmentFile_partly :
    ∃ after, withFilesToLoad.loadEnvironmentFile "nul" false = (.error (.variable .nul), after) ∧
      after.environment ≠ withFilesToLoad.environment :=
  ⟨_, Prod.fst_eq_iff.1 (by decide +kernel), by decide +kernel⟩

end WebPush.Session
