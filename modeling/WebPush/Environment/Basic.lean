/-!
# Environment — named settings of the process

Variables have a name and a value, each name once. Names and values hold
no NUL, and a name is not empty and holds no equals sign; setting a
variable checks this.
-/

namespace WebPush

/-- The variables, in the order in which they were first set. -/
structure Environment where
  pairs : List (String × String) := []
deriving DecidableEq, Repr

/-- Why a variable could not be set. -/
inductive VariableFault where
  | nul
  | equalsInName
  | emptyName
deriving DecidableEq, Repr

/-- The wording of such a fault. -/
def VariableFault.message : VariableFault → String
  | .nul => "embedded null byte"
  | .equalsInName => "illegal environment variable name"
  | .emptyName => "[Errno 22] Invalid argument"

namespace Environment

/-- The value of a variable. -/
def get? (env : Environment) (name : String) : Option String := env.pairs.lookup name

/-- The pairs with one more: an earlier pair of the same name gets the value. -/
def putPair (pairs : List (String × String)) (name value : String) : List (String × String) :=
  match pairs with
  | [] => [(name, value)]
  | (n, v) :: rest => if n = name then (name, value) :: rest else (n, v) :: putPair rest name value

/-- The environment with a variable set. -/
def put (env : Environment) (name value : String) : Environment :=
  ⟨putPair env.pairs name value⟩

/-- The environment without a variable. -/
def remove (env : Environment) (name : String) : Environment :=
  ⟨env.pairs.filter fun (n, _) => n ≠ name⟩

/-- The text holds a NUL. -/
def hasNul (s : String) : Bool := s.toList.contains '\x00'

/-- The environment with a variable set, if name and value allow it. -/
def set (env : Environment) (name value : String) : Except VariableFault Environment :=
  if hasNul name || hasNul value then .error .nul
  else if name.toList.contains '=' then .error .equalsInName
  else if name.isEmpty then .error .emptyName
  else .ok (env.put name value)

theorem lookup_putPair (pairs : List (String × String)) (name other value : String) :
    (putPair pairs name value).lookup other =
      if other = name then some value else pairs.lookup other := by
  induction pairs with
  | nil => by_cases h : other = name <;> simp [putPair, List.lookup_cons, h, beq_eq_false_iff_ne.2]
  | cons pair rest ih =>
    obtain ⟨n, v⟩ := pair
    by_cases hn : n = name
    · subst hn
      by_cases h : other = n <;> simp [putPair, List.lookup_cons, h, beq_eq_false_iff_ne.2]
    · by_cases h : other = n
      · subst h
        simp [putPair, hn]
      · simp [putPair, List.lookup_cons, hn, beq_eq_false_iff_ne.2 h, ih]

/-- **Setting a variable changes that variable and no other.** -/
theorem get?_put (env : Environment) (name other value : String) :
    (env.put name value).get? other = if other = name then some value else env.get? other :=
  lookup_putPair env.pairs name other value

end Environment

end WebPush
