import Mathlib.Data.List.Induction
import WebPush.Proofs.Curve.Order
import WebPush.Proofs.Session
/-!
# Session — the configuration that is remembered

A session remembers the configuration that it first gave out, and gives
it out again whatever becomes of the environment, until the cache is
cleared. A failure is not remembered: as long as there is no
configuration, the environment is read anew each time. So what is
remembered is a snapshot, and the point of the run that it was taken at
can be told from the commands alone.
-/

namespace WebPush.Session

variable {s : Session} {settings : Settings} {commands past : List Command} {command : Command}

/-- A command at the end of a run is the one that is looked for, or something follows it. -/
theorem concat_eq_append_cons {α : Type} {xs before since : List α} {x y : α}
    (h : xs ++ [x] = before ++ y :: since) :
    (xs = before ∧ x = y ∧ since = []) ∨
      ∃ between, since = between ++ [x] ∧ xs = before ++ y :: between := by
  obtain rfl | ⟨between, z, rfl⟩ := List.eq_nil_or_concat since
  · obtain ⟨hxs, hx⟩ := List.append_inj' h rfl
    exact .inl ⟨hxs, List.singleton_inj.1 hx, rfl⟩
  · rw [List.concat_eq_append, ← List.cons_append, ← List.append_assoc] at h
    obtain ⟨hxs, hx⟩ := List.append_inj' h rfl
    rw [List.concat_eq_append, List.singleton_inj.1 hx]
    exact .inr ⟨between, rfl, hxs⟩

/-! ## The cache -/

/-- Whoever asks for the configuration is given one. -/
def Answers (s : Session) : Prop := ∃ settings, s.cachedSettings.1 = .ok settings

/-- A reply that shows a configuration shows one that there is. -/
theorem eq_ok_of_ofExcept {x : Except Fault Settings}
    (h : Reply.ofExcept .settings x = .settings settings) : x = .ok settings := by
  cases x with
  | error f => cases h
  | ok settings' =>
    cases h
    rfl

/-- A reply that shows a failure shows one that occurred. -/
theorem eq_error_of_ofExcept {x : Except Fault Settings} {f : Fault}
    (h : Reply.ofExcept .settings x = .failed f) : x = .error f := by
  cases x with
  | error f' =>
    cases h
    rfl
  | ok settings => cases h

theorem cachedSettings_of_some (h : s.settings = some settings) :
    s.cachedSettings = (.ok settings, s) := by
  simp only [cachedSettings, h]

/-- Without anything remembered, asking reads the environment. -/
theorem cachedSettings_fst (hnew : s.settings = none) : s.cachedSettings.1 = s.loadSettings := by
  simp only [cachedSettings, hnew]
  cases s.loadSettings <;> rfl

/-- And what it reads is remembered, if it is a configuration. -/
theorem settings_cachedSettings (hnew : s.settings = none) :
    s.cachedSettings.2.settings = s.loadSettings.toOption := by
  simp only [cachedSettings, hnew]
  cases s.loadSettings with
  | error f => exact hnew
  | ok settings =>
    obtain ⟨files, errorStream, heq⟩ :=
      exists_emit_eq { s with settings := some settings } settings.loadedRecord
    simp only [heq]
    rfl

/-- A failure leaves everything as it was, with nothing remembered. -/
theorem of_cachedSettings_eq_error {f : Fault} (h : s.cachedSettings.1 = .error f) :
    s.settings = none ∧ s.cachedSettings.2 = s := by
  cases hsettings : s.settings with
  | some settings =>
    rw [cachedSettings_of_some hsettings] at h
    cases h
  | none =>
    rw [cachedSettings_fst hsettings] at h
    simp only [cachedSettings, hsettings, h, and_self]

/-! ### One command -/

/-- Asking has the same effect on the cache, whatever the configuration is wanted for. -/
theorem settings_step_of_asks (h : command.Asks) :
    (s.step command).2.settings = s.cachedSettings.2.settings := by
  cases command with
  | cachedSettings => rfl
  | buildSender cached =>
    obtain rfl : cached = true := h
    rw [step, if_pos rfl]
    cases s.cachedSettings with
    | mk result asked =>
      cases result with
      | error f => rfl
      | ok settings =>
        obtain ⟨files, errorStream, sender, heq⟩ := exists_buildSender_eq asked settings
        simp only [heq]
  | _ => exact h.elim

/-! ### Points of a run -/

/-- Whenever someone was given a configuration, the cache was cleared afterwards. -/
def IsForgotten (s : Session) (commands : List Command) : Prop :=
  ∀ before ask since, commands = before ++ ask :: since → ask.Asks → (s.after before).Answers →
    .clearCache ∈ since

/-- **The point of a run that is remembered**: there someone asks for the configuration and is
given one, what was given out before is forgotten, and the cache is not cleared any more. So it is
the earliest point since the last clearing at which asking has success. -/
structure IsSnapshot (s : Session) (commands past : List Command) : Prop where
  forgotten : s.IsForgotten past
  answers : (s.after past).Answers
  kept : ∃ ask since, commands = past ++ ask :: since ∧ ask.Asks ∧ .clearCache ∉ since

/-- What was given out and not forgotten leaves no room for a later such point. -/
theorem IsSnapshot.eq_nil {more : List Command} (h : s.IsSnapshot commands past)
    (hlater : s.IsSnapshot commands (past ++ more)) : more = [] := by
  obtain ⟨ask, since, rfl, hask, hkept⟩ := h.kept
  obtain ⟨ask', since', heq, -, -⟩ := hlater.kept
  rw [List.append_assoc, List.append_cancel_left_eq] at heq
  cases more with
  | nil => rfl
  | cons first between =>
    rw [List.cons_append, List.cons.injEq] at heq
    obtain ⟨rfl, rfl⟩ := heq
    have hclear := hlater.forgotten past ask between rfl hask h.answers
    exact absurd (List.mem_append_left _ hclear) hkept

/-- **There is one such point at most.** -/
theorem IsSnapshot.unique {past' : List Command} (h : s.IsSnapshot commands past)
    (h' : s.IsSnapshot commands past') : past' = past := by
  obtain ⟨ask, since, heq, -, -⟩ := h.kept
  obtain ⟨ask', since', heq', -, -⟩ := h'.kept
  obtain ⟨more, rfl, -⟩ | ⟨more, rfl, -⟩ := List.append_eq_append_iff.1 (heq.symm.trans heq')
  · rw [h.eq_nil h', List.append_nil]
  · rw [h'.eq_nil h, List.append_nil]

/-- A run goes on without clearing the cache, and the point stays the same. -/
theorem IsSnapshot.concat (h : s.IsSnapshot commands past) (hclear : command ≠ .clearCache) :
    s.IsSnapshot (commands ++ [command]) past := by
  obtain ⟨ask, since, rfl, hask, hkept⟩ := h.kept
  refine ⟨h.forgotten, h.answers, ask, since ++ [command], ?_, hask, ?_⟩
  · rw [List.append_assoc, List.cons_append]
  · rw [List.mem_append, List.mem_singleton]
    exact fun hmem => hmem.elim hkept fun heq => hclear heq.symm

theorem isForgotten_nil (s : Session) : s.IsForgotten [] := by
  intro before ask since heq
  cases before <;> cases heq

/-- Where everything is forgotten, asking with success makes the point. -/
theorem IsForgotten.isSnapshot_concat (h : s.IsForgotten commands) (hask : command.Asks)
    (hanswers : (s.after commands).Answers) : s.IsSnapshot (commands ++ [command]) commands :=
  ⟨h, hanswers, command, [], rfl, hask, List.not_mem_nil⟩

/-- Where everything is forgotten, it stays so as long as nobody asks with success. -/
theorem IsForgotten.concat (h : s.IsForgotten commands)
    (hnone : command.Asks → ¬ (s.after commands).Answers) :
    s.IsForgotten (commands ++ [command]) := by
  intro before ask since heq hask hanswers
  obtain ⟨rfl, rfl, -⟩ | ⟨between, rfl, hcommands⟩ := concat_eq_append_cons heq
  · exact absurd hanswers (hnone hask)
  · exact List.mem_append_left _ (h before ask between hcommands hask hanswers)

theorem IsForgotten.append {more : List Command} (h : s.IsForgotten commands)
    (hnone : ∀ command ∈ more, ¬ command.Asks) : s.IsForgotten (commands ++ more) := by
  induction more generalizing commands with
  | nil => rwa [List.append_nil]
  | cons command more ih =>
    obtain ⟨hcommand, hmore⟩ := List.forall_mem_cons.1 hnone
    rw [List.append_cons]
    exact ih (h.concat fun hask => absurd hask hcommand) hmore

/-- Clearing the cache makes everything forgotten. -/
theorem isForgotten_clearCache (s : Session) (commands : List Command) :
    s.IsForgotten (commands ++ [.clearCache]) := by
  intro before ask since heq hask _
  obtain ⟨-, rfl, -⟩ | ⟨between, rfl, -⟩ := concat_eq_append_cons heq
  · exact hask.elim
  · exact List.mem_append_right _ (List.mem_singleton.2 rfl)

/-- The session holds what a run that began with an empty cache makes it hold: the configuration of
the environment at the point that is remembered, or nothing. -/
def Holds (s : Session) (commands : List Command) : Prop :=
  (∃ past settings, s.IsSnapshot commands past ∧ (s.after past).loadSettings = .ok settings ∧
      (s.after commands).settings = some settings) ∨
    s.IsForgotten commands ∧ (s.after commands).settings = none

/-- **One command keeps the cache in step with the run.** -/
theorem Holds.concat (h : s.Holds commands) (command : Command) :
    s.Holds (commands ++ [command]) := by
  by_cases hclear : command = .clearCache
  · subst hclear
    exact .inr ⟨isForgotten_clearCache s commands, by rw [after_concat]; rfl⟩
  rw [Holds, after_concat]
  by_cases hask : command.Asks
  · rw [settings_step_of_asks hask]
    obtain ⟨past, settings, hsnapshot, hload, hsome⟩ | ⟨hforgotten, hnone⟩ := h
    · -- What is remembered is given out again, so asking changes nothing.
      rw [cachedSettings_of_some hsome]
      exact .inl ⟨past, settings, hsnapshot.concat hclear, hload, hsome⟩
    · rw [settings_cachedSettings hnone]
      have hanswer := cachedSettings_fst hnone
      cases hload : (s.after commands).loadSettings with
      | error f =>
        refine .inr ⟨hforgotten.concat fun _ => ?_, rfl⟩
        rintro ⟨settings, hsettings⟩
        cases (hanswer.trans hload).symm.trans hsettings
      | ok settings =>
        exact .inl ⟨commands, settings,
          hforgotten.isSnapshot_concat hask ⟨settings, hanswer.trans hload⟩, hload, rfl⟩
  · have hspared := (spares_step (s.after commands) command).settings
    rw [(hspared.resolve_left hask).resolve_left hclear]
    obtain ⟨past, settings, hsnapshot, hload, hsome⟩ | ⟨hforgotten, hnone⟩ := h
    · exact .inl ⟨past, settings, hsnapshot.concat hclear, hload, hsome⟩
    · exact .inr ⟨hforgotten.concat fun h => absurd h hask, hnone⟩

/-- **Every run that begins with an empty cache keeps in step with it.** -/
theorem holds_of_new (hnew : s.settings = none) (commands : List Command) : s.Holds commands := by
  induction commands using List.reverseRecOn with
  | nil => exact .inr ⟨isForgotten_nil s, hnew⟩
  | append_singleton commands command ih => exact ih.concat command

/-! ## What is given out -/

/-- What is asked for now is what the environment says, if everything is forgotten. -/
theorem step_cachedSettings_of_isForgotten (hnew : s.settings = none)
    (h : s.IsForgotten commands) : (s.after commands).settings = none ∧
      ((s.after commands).step .cachedSettings).1 =
        ((s.after commands).step .loadSettings).1 := by
  obtain ⟨past, settings, hsnapshot, -, -⟩ | ⟨-, hnone⟩ := holds_of_new hnew commands
  · obtain ⟨ask, since, heq, hask, hkept⟩ := hsnapshot.kept
    exact absurd (h past ask since heq hask hsnapshot.answers) hkept
  · refine ⟨hnone, ?_⟩
    simp only [step, cachedSettings_fst hnone]

/-- What is asked for now is what the environment said at the point that is remembered. -/
theorem step_cachedSettings_of_isSnapshot (hnew : s.settings = none)
    (h : s.IsSnapshot commands past) : ∃ settings,
      ((s.after past).step .loadSettings).1 = .settings settings ∧
      (s.after commands).step .cachedSettings = (.settings settings, s.after commands) := by
  obtain ⟨past', settings, hsnapshot, hload, hsome⟩ | ⟨hforgotten, -⟩ := holds_of_new hnew commands
  · rw [← h.unique hsnapshot]
    simp only [step, hload, cachedSettings_of_some hsome]
    exact ⟨settings, rfl, rfl⟩
  · obtain ⟨ask, since, heq, hask, hkept⟩ := h.kept
    exact absurd (hforgotten past ask since heq hask h.answers) hkept

/-- A failure is that of the environment as it is now, and it is not remembered. -/
theorem of_step_cachedSettings_eq_failed (hnew : s.settings = none) {f : Fault}
    (h : ((s.after commands).step .cachedSettings).1 = .failed f) :
    s.IsForgotten commands ∧ ((s.after commands).step .loadSettings).1 = .failed f ∧
      ((s.after commands).step .cachedSettings).2 = s.after commands ∧
      s.IsForgotten (commands ++ [.cachedSettings]) := by
  have herror : (s.after commands).cachedSettings.1 = .error f := eq_error_of_ofExcept h
  obtain ⟨past, -, hsnapshot, -, -⟩ | ⟨hforgotten, -⟩ := holds_of_new hnew commands
  · obtain ⟨settings, -, heq⟩ := step_cachedSettings_of_isSnapshot hnew hsnapshot
    cases (congrArg Prod.fst heq).symm.trans h
  have hload := (step_cachedSettings_of_isForgotten hnew hforgotten).2.symm.trans h
  refine ⟨hforgotten, hload, (of_cachedSettings_eq_error herror).2, hforgotten.concat fun _ => ?_⟩
  rintro ⟨settings, hsettings⟩
  cases herror.symm.trans hsettings

/-- **The configuration is a snapshot.** Whoever asks for it is given what the environment said at
the earliest point since the cache was last cleared at which asking had success, whatever the
environment says now, and asking changes nothing any more. As long as there is no such point,
asking gives what the environment says now; where that is a failure, nothing is remembered, and
once the environment has been repaired asking has success. -/
theorem cachedSettings_snapshot (hnew : s.settings = none) (commands : List Command) :
    let now := s.after commands
    let asked := now.step .cachedSettings
    (∀ settings, asked.1 = .settings settings →
      ∃ past, s.IsSnapshot (commands ++ [.cachedSettings]) past ∧
        (∀ past', s.IsSnapshot (commands ++ [.cachedSettings]) past' → past' = past) ∧
        ((s.after past).step .loadSettings).1 = .settings settings) ∧
    (∀ past, s.IsSnapshot commands past → ∃ settings,
      ((s.after past).step .loadSettings).1 = .settings settings ∧
        asked = (.settings settings, now)) ∧
    (s.IsForgotten commands →
      now.settings = none ∧ asked.1 = (now.step .loadSettings).1) ∧
    ∀ f, asked.1 = .failed f →
      s.IsForgotten commands ∧ (now.step .loadSettings).1 = .failed f ∧ asked.2 = now ∧
        now.settings = none ∧
        ∀ repair, (∀ command ∈ repair, ¬ command.Asks) →
          let later := s.after (commands ++ .cachedSettings :: repair)
          ∀ settings, (later.step .loadSettings).1 = .settings settings →
            (later.step .cachedSettings).1 = .settings settings := by
  intro now asked
  refine ⟨?_, fun past => step_cachedSettings_of_isSnapshot hnew,
    step_cachedSettings_of_isForgotten hnew, ?_⟩
  · intro settings hasked
    obtain ⟨past, -, hsnapshot, -, -⟩ | ⟨hforgotten, hnone⟩ := holds_of_new hnew commands
    · obtain ⟨settings', hload, heq⟩ := step_cachedSettings_of_isSnapshot hnew hsnapshot
      have hpast : s.IsSnapshot (commands ++ [.cachedSettings]) past := hsnapshot.concat nofun
      cases (congrArg Prod.fst heq).symm.trans hasked
      exact ⟨past, hpast, fun past' => hpast.unique, hload⟩
    · have hload := (step_cachedSettings_of_isForgotten hnew hforgotten).2.symm.trans hasked
      have hnow : s.IsSnapshot (commands ++ [.cachedSettings]) commands :=
        hforgotten.isSnapshot_concat trivial ⟨settings, eq_ok_of_ofExcept hasked⟩
      exact ⟨commands, hnow, fun past' => hnow.unique, hload⟩
  · intro f hasked
    obtain ⟨hforgotten, hload, hsame, hfailed⟩ := of_step_cachedSettings_eq_failed hnew hasked
    refine ⟨hforgotten, hload, hsame, (step_cachedSettings_of_isForgotten hnew hforgotten).1, ?_⟩
    intro repair hrepair later settings hrepaired
    have hlater : s.IsForgotten (commands ++ .cachedSettings :: repair) := by
      rw [List.append_cons]
      exact hfailed.append hrepair
    rw [(step_cachedSettings_of_isForgotten hnew hlater).2, hrepaired]

/-- A session whose only variable is no lifetime. -/
def misconfigured : Session :=
  start ⟨[("VAPIDPUSH_DEFAULT_TTL", "-1")]⟩ ⟨fun _ => .one, fun _ => .zeros, 0, 0⟩ (.whole 0)
    fun _ => ""

/-- The environment is repaired after a failure, and changed again after a success. -/
theorem cachedSettings_snapshot_repaired :
    let plain (ttl : Nat) : Settings :=
      ⟨none, none, none, none, Settings.defaultTimeout, ttl, .info, none, 5242880, 10⟩
    let repaired : List Command := [.cachedSettings, .setVariable "VAPIDPUSH_DEFAULT_TTL" "5"]
    let changed : List Command := [.cachedSettings, .setVariable "VAPIDPUSH_DEFAULT_TTL" "7"]
    let now := misconfigured.after (repaired ++ changed)
    misconfigured.settings = none ∧ misconfigured.IsSnapshot (repaired ++ changed) repaired ∧
      (misconfigured.step .cachedSettings).1 = .failed (.settings .defaultTtl) ∧
      (now.step .loadSettings).1 = .settings (plain 7) ∧
      now.step .cachedSettings = (.settings (plain 5), now) := by
  intro plain repaired changed now
  have hfailed : Settings.load misconfigured.environment = .error .defaultTtl := by
    decide +kernel
  have hfirst : Settings.load (misconfigured.after repaired).environment = .ok (plain 5) := by
    decide +kernel
  have hnow : Settings.load now.environment = .ok (plain 7) := by decide +kernel
  have hasked : misconfigured.cachedSettings.1 = .error (.settings .defaultTtl) := by
    rw [cachedSettings_fst rfl, loadSettings, hfailed]
    rfl
  have hforgotten : misconfigured.IsForgotten repaired := by
    have hfailing : misconfigured.IsForgotten [.cachedSettings] := by
      refine (isForgotten_nil misconfigured).concat fun _ => ?_
      rintro ⟨settings, hsettings⟩
      cases hasked.symm.trans hsettings
    exact hfailing.concat fun hask => hask.elim
  have hsnapshot : misconfigured.IsSnapshot (repaired ++ changed) repaired := by
    refine ⟨hforgotten, ⟨plain 5, ?_⟩, .cachedSettings, _, rfl, trivial, by simp⟩
    rw [cachedSettings_fst (step_cachedSettings_of_isForgotten rfl hforgotten).1, loadSettings,
      hfirst]
    rfl
  obtain ⟨settings, hload, heq⟩ :=
    (cachedSettings_snapshot rfl (repaired ++ changed)).2.1 repaired hsnapshot
  have hsettings : settings = plain 5 := by
    rw [step, loadSettings, hfirst] at hload
    cases hload
    rfl
  refine ⟨rfl, hsnapshot, ?_, ?_, hsettings ▸ heq⟩
  · rw [step]
    dsimp only
    rw [hasked]
    rfl
  · rw [step, loadSettings, hnow]
    rfl

end WebPush.Session
