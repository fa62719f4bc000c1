/-!
# Runs — character classes as runs of code points

A class of characters is given by the first and the last code point of
each of its runs.
-/

namespace WebPush.Text

/-- Membership of a character in a list of code point runs. -/
def inRuns (runs : List (Nat × Nat)) (c : Char) : Bool :=
  runs.any fun (first, last) => first ≤ c.toNat && c.toNat ≤ last

end WebPush.Text
