namespace TypedRoutes

/-!
# Runs of code points

A class of characters is given by runs of code points, each by its first and its last.
-/

namespace Text

/-- Whether a code point lies in one of some runs. -/
def inRuns (runs : List (Nat × Nat)) (n : Nat) : Bool := runs.any fun run => run.1 ≤ n && n ≤ run.2

end Text
end TypedRoutes
