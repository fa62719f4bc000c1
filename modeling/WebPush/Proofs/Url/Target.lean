import WebPush.Proofs.Except
import WebPush.Proofs.Text.Ascii
import WebPush.Url.Target
/-!
# Url — the scheme of a target

A target that names a service keeps the scheme of its address, in small
letters. Nothing in a scheme could be taken for the colon behind it or
for the start of a path.
-/

namespace WebPush.Url

/-- The characters of a scheme are ASCII. -/
theorem toNat_lt_of_inScheme {c : Char} (h : inScheme c = true) : c.toNat < 128 := by
  simp only [inScheme, isLetter, isDigit, Bool.or_eq_true, Bool.and_eq_true, decide_eq_true_eq] at h
  have hlow {d : Char} (hc : c ≤ d) (hd : d.toNat < 128) : c.toNat < 128 :=
    Nat.lt_of_le_of_lt (Text.toNat_le_toNat hc) hd
  rcases h with ((((⟨-, hc⟩ | ⟨-, hc⟩) | ⟨-, hc⟩) | rfl) | rfl) | rfl
  · exact hlow hc (by decide)
  · exact hlow hc (by decide)
  · exact hlow hc (by decide)
  all_goals decide

/-- Neither a colon nor a slash is in a scheme, in capital letters or in small ones. -/
theorem toLower_of_inScheme {c : Char} (h : inScheme c = true) : c.toLower ≠ ':' ∧ c.toLower ≠ '/' :=
  Text.forall_ascii (P := fun c => inScheme c = true → c.toLower ≠ ':' ∧ c.toLower ≠ '/')
    (by decide +kernel) (toNat_lt_of_inScheme h) h

theorem inScheme_of_isScheme {cs : List Char} (h : isScheme cs = true) :
    ∀ c ∈ cs, inScheme c = true := by
  cases cs with
  | nil => cases h
  | cons first rest =>
    rw [isScheme, Bool.and_eq_true, List.all_eq_true] at h
    refine List.forall_mem_cons.2 ⟨?_, h.2⟩
    simp only [inScheme, h.1, Bool.true_or]

/-- The scheme of an address is one, if there is any. -/
theorem inScheme_of_mem_scheme {cs : List Char} :
    ∀ c ∈ (Components.ofText cs).scheme, inScheme c = true := by
  simp only [Components.ofText]
  split
  · rename_i scheme rest _
    split
    · rename_i hscheme
      rw [Bool.or_eq_true, List.isEmpty_iff] at hscheme
      obtain rfl | hscheme := hscheme
      · exact List.forall_mem_nil _
      · exact inScheme_of_isScheme hscheme
    · exact List.forall_mem_nil _
  · exact List.forall_mem_nil _

namespace Target

/-- A target has the scheme of its address in small letters. -/
theorem scheme_of_ofComponents {c : Components} {t : Target} (h : ofComponents c = .ok t) :
    t.scheme = c.scheme.map Char.toLower := by
  rw [ofComponents] at h
  obtain ⟨_, -, h⟩ := exists_of_bind_eq_ok h
  obtain ⟨_, -, h⟩ := exists_of_bind_eq_ok h
  obtain ⟨_, -, h⟩ := exists_of_bind_eq_ok h
  injection h with h
  rw [← h]

/-- An absolute target keeps the components of its address. -/
theorem ofComponents_of_isAbsolute {cs : List Char} {t : Target} (h : ofText cs = .ok t)
    (habsolute : t.isAbsolute = true) : ofComponents (.ofText cs) = .ok t := by
  rw [ofText] at h
  split at h
  · cases h
  split at h
  · cases h
  obtain ⟨u, hu, h⟩ := exists_of_bind_eq_ok h
  split at h
  · injection h with h
    rw [hu, h]
  · rw [relative] at h
    split at h
    · cases h
    split at h
    · cases h
    injection h with h
    rw [← h] at habsolute
    cases habsolute

/-- **The scheme of an absolute target** is there, with no colon and no slash in it. -/
theorem scheme_of_isAbsolute {cs : List Char} {t : Target} (h : ofText cs = .ok t)
    (habsolute : t.isAbsolute = true) :
    t.scheme.isEmpty = false ∧ ∀ c ∈ t.scheme, c ≠ ':' ∧ c ≠ '/' := by
  constructor
  · rw [isAbsolute, Bool.and_eq_true] at habsolute
    simpa using habsolute.1
  · rw [scheme_of_ofComponents (ofComponents_of_isAbsolute h habsolute)]
    intro c hc
    obtain ⟨d, hd, rfl⟩ := List.mem_map.1 hc
    exact toLower_of_inScheme (inScheme_of_mem_scheme d hd)

/-- A target with a scheme is written with the scheme and a colon in front. -/
theorem exists_render_eq {t : Target} (h : t.scheme.isEmpty = false) :
    ∃ rest, t.render.toList = t.scheme ++ ':' :: rest := by
  simp only [render, h, String.toList_ofList, Bool.false_eq_true, if_false, List.append_assoc,
    List.singleton_append]
  exact ⟨_, rfl⟩

end Target

end WebPush.Url
