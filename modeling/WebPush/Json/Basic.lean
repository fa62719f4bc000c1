import WebPush.Number.Double
/-!
# Json — the values of JSON texts

Numbers without fraction and exponent are integers of any size, all
others are doubles. An object is a list of members in the order of their
first appearance; no name comes twice.
-/

namespace WebPush

/-- A JSON value. -/
inductive Json where
  | null
  | bool (b : Bool)
  | int (n : Int)
  | real (x : Double)
  | string (s : String)
  | array (items : List Json)
  | object (members : List (String × Json))
deriving Repr

namespace Json

/-- The members of an object, in order. -/
abbrev Members := List (String × Json)

/-- The value of a member. -/
def Members.find? (ms : Members) (name : String) : Option Json := List.lookup name ms

/-- The members with one more: a member of that name gets the new value and
keeps its place, otherwise the new one goes to the end. -/
def Members.put (ms : Members) (name : String) (value : Json) : Members :=
  match ms with
  | [] => [(name, value)]
  | (n, v) :: rest =>
    if n = name then (name, value) :: rest else (n, v) :: Members.put rest name value

/-- The members that a sequence of name and value pairs leaves. -/
def Members.ofList (pairs : List (String × Json)) : Members :=
  pairs.foldl (fun ms (name, value) => ms.put name value) []

@[simp] theorem Members.find?_nil (name : String) : Members.find? [] name = none := rfl

theorem Members.find?_put (ms : Members) (name other : String) (value : Json) :
    (ms.put name value).find? other = if other = name then some value else ms.find? other := by
  induction ms with
  | nil =>
    by_cases h : other = name <;> simp [put, find?, List.lookup_cons, h, beq_eq_false_iff_ne.2]
  | cons m rest ih =>
    obtain ⟨n, v⟩ := m
    simp only [find?] at ih
    by_cases hn : n = name
    · subst hn
      by_cases h : other = n <;> simp [put, find?, List.lookup_cons, h, beq_eq_false_iff_ne.2]
    · by_cases h : other = n
      · subst h
        simp [put, find?, hn]
      · simp [put, find?, List.lookup_cons, hn, beq_eq_false_iff_ne.2 h, ih]

end Json

end WebPush
