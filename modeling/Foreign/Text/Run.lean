/-!
Runs of characters: properties of characters are listed by the first and last ones of their runs.
-/

namespace Foreign.Text

/-- Whether a character is in one of the runs, which are given by code points. -/
def isInRuns (runs : List (Nat × Nat)) (c : Char) : Bool :=
  runs.any fun (first, last) => first ≤ c.toNat && c.toNat ≤ last

end Foreign.Text
