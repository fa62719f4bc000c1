import WebPush.Proofs.Text.Split
import WebPush.Proofs.Url.Target
import WebPush.Url.Origin
/-!
# Url — addresses written out

An address written as a scheme, two slashes, an authority and what
follows it is read as such, both for its origin and as the target of a
request. What follows the authority has no part in the origin.
-/

namespace WebPush

namespace Url

/-- What may follow an authority: nothing, or what begins with one of the characters that
end it. -/
def FollowsAuthority (tail : List Char) : Prop := ∀ c ∈ tail.head?, endsAuthority c = true

theorem followsAuthority_cons {c : Char} (h : endsAuthority c = true) (rest : List Char) :
    FollowsAuthority (c :: rest) := by
  rintro _ ⟨⟩
  exact h

/-- An authority that is read as it stands: it holds nothing that is dropped, and nothing that
ends it. -/
def IsPlainAuthority (authority : List Char) : Prop :=
  ∀ c ∈ authority, isDropped c = false ∧ endsAuthority c = false

/-- An address in full. -/
def written (scheme authority tail : List Char) : List Char :=
  scheme ++ ':' :: '/' :: '/' :: (authority ++ tail)

variable {scheme authority tail : List Char}

/-! ## Schemes -/

/-- No character of a scheme is dropped, and none is the colon behind it. -/
theorem plain_of_inScheme {c : Char} (h : inScheme c = true) :
    isDropped c = false ∧ isControlOrSpace c = false ∧ c ≠ ':' :=
  Text.forall_ascii
    (P := fun c => inScheme c = true → isDropped c = false ∧ isControlOrSpace c = false ∧ c ≠ ':')
    (by decide +kernel) (toNat_lt_of_inScheme h) h

theorem colon_notMem_of_isScheme (h : isScheme scheme = true) : ':' ∉ scheme :=
  fun hcolon => (plain_of_inScheme (inScheme_of_isScheme h _ hcolon)).2.2 rfl

/-! ## The authority -/

/-- The authority ends where it should. -/
theorem takeWhile_authority (hauthority : IsPlainAuthority authority) (htail : FollowsAuthority tail) :
    (authority ++ tail).takeWhile (!endsAuthority ·) = authority := by
  have hinside : ∀ c ∈ authority, (!endsAuthority c) = true := fun c hc => by
    rw [(hauthority c hc).2, Bool.not_false]
  rw [List.takeWhile_append_of_pos hinside]
  cases tail with
  | nil => rw [List.takeWhile_nil, List.append_nil]
  | cons c rest =>
    have hc : endsAuthority c = true := htail c rfl
    rw [List.takeWhile_cons_of_neg (by rw [hc]; decide), List.append_nil]

/-- A character that ends an authority is not dropped. -/
theorem isDropped_of_endsAuthority {c : Char} (h : endsAuthority c = true) : isDropped c = false := by
  simp only [endsAuthority, Bool.or_eq_true, decide_eq_true_eq] at h
  obtain (rfl | rfl) | rfl := h <;> decide

/-- What follows an authority still does when characters are dropped from it. -/
theorem FollowsAuthority.filter (h : FollowsAuthority tail) :
    FollowsAuthority (tail.filter (!isDropped ·)) := by
  cases tail with
  | nil => exact h
  | cons c rest =>
    have hc : endsAuthority c = true := h c rfl
    rw [List.filter_cons_of_pos (by rw [isDropped_of_endsAuthority hc]; decide)]
    intro d hd
    cases hd
    exact hc

/-- An address in full is cleaned behind its authority only. -/
theorem cleaned_written (hscheme : isScheme scheme = true) (hauthority : IsPlainAuthority authority) :
    cleaned (written scheme authority tail) =
      written scheme authority (tail.filter (!isDropped ·)) := by
  -- Blanks in front are dropped, but a scheme does not begin with one.
  cases scheme with
  | nil => cases hscheme
  | cons first rest =>
    have hplain := fun c hc => plain_of_inScheme (inScheme_of_isScheme hscheme c hc)
    have hfirst : isControlOrSpace first = false := (hplain first List.mem_cons_self).2.1
    have hkept : ∀ c ∈ first :: rest, (!isDropped c) = true := fun c hc => by
      rw [(hplain c hc).1, Bool.not_false]
    have hauthority' : ∀ c ∈ authority, (!isDropped c) = true := fun c hc => by
      rw [(hauthority c hc).1, Bool.not_false]
    have hslashes : (':' :: '/' :: '/' :: (authority ++ tail)).filter (!isDropped ·) =
        ':' :: '/' :: '/' :: (authority ++ tail.filter (!isDropped ·)) := by
      rw [List.filter_cons_of_pos (by decide), List.filter_cons_of_pos (by decide),
        List.filter_cons_of_pos (by decide), List.filter_append,
        List.filter_eq_self.2 hauthority']
    rw [cleaned, written, List.cons_append, List.dropWhile_cons_of_neg (by rw [hfirst]; decide),
      ← List.cons_append, List.filter_append, List.filter_eq_self.2 hkept, hslashes, written]

/-- **An address in full is read as it is written**: its scheme in small letters, and its
authority if that passes the checks. -/
theorem Parts.ofText_written (hscheme : isScheme scheme = true)
    (hauthority : IsPlainAuthority authority) (htail : FollowsAuthority tail) :
    Parts.ofText (written scheme authority tail) = do
      checkBrackets authority
      checkHidden authority
      return ⟨scheme.map Char.toLower, authority⟩ := by
  have hsplit : splitScheme (written scheme authority (tail.filter (!isDropped ·))) =
      (scheme.map Char.toLower, '/' :: '/' :: (authority ++ tail.filter (!isDropped ·))) := by
    rw [splitScheme, written, Text.splitFirst?_append (colon_notMem_of_isScheme hscheme)]
    simp only [hscheme, if_true]
  have hread : authorityOf ('/' :: '/' :: (authority ++ tail.filter (!isDropped ·))) = authority :=
    takeWhile_authority hauthority htail.filter
  simp only [ofText, cleaned_written hscheme hauthority, hsplit, hread]

/-- **The components of an address in full** begin with its scheme and its authority. -/
theorem Components.ofText_written (hscheme : isScheme scheme = true)
    (hauthority : IsPlainAuthority authority) (htail : FollowsAuthority tail) :
    (Components.ofText (written scheme authority tail)).scheme = scheme ∧
      (Components.ofText (written scheme authority tail)).authority = some authority := by
  have hread : (authority ++ tail).takeWhile (!endsAuthority ·) = authority :=
    takeWhile_authority hauthority htail
  simp only [ofText, written, Text.splitFirst?_append (colon_notMem_of_isScheme hscheme), hscheme,
    Bool.or_true, if_true, hread, and_self]

/-! ## Targets -/

namespace Target

/-- What a target was made from: each of its parts in normal form. -/
theorem of_ofComponents {c : Components} {t : Target} (h : ofComponents c = .ok t) :
    t.scheme = c.scheme.map Char.toLower ∧
      t.user = escape inUser (splitAuthority (c.authority.getD [])).1 ∧
      normalHost (splitAuthority (c.authority.getD [])).2.1 = .ok t.host ∧
      normalPort c.scheme (splitAuthority (c.authority.getD [])).2.2 = .ok t.port := by
  rw [ofComponents] at h
  obtain ⟨host, hhost, h⟩ := exists_of_bind_eq_ok h
  obtain ⟨port, hport, h⟩ := exists_of_bind_eq_ok h
  obtain ⟨_, -, h⟩ := exists_of_bind_eq_ok h
  injection h with h
  subst h
  exact ⟨rfl, rfl, hhost, hport⟩

/-- A target is made from the components of its address, and is that if it is absolute. -/
theorem exists_ofComponents_of_ofText {cs : List Char} {t : Target} (h : ofText cs = .ok t) :
    ∃ u, ofComponents (.ofText cs) = .ok u ∧ (u.isAbsolute = true → t = u) := by
  rw [ofText] at h
  split at h
  · cases h
  split at h
  · cases h
  obtain ⟨u, hu, h⟩ := exists_of_bind_eq_ok h
  refine ⟨u, hu, fun habsolute => ?_⟩
  rw [if_pos habsolute] at h
  injection h with h
  exact h.symm

end Target

end Url

end WebPush
