import TypedRoutes.Route.Basic

namespace TypedRoutes

/-!
# Full paths

The full path of a route joins the patterns along its lineage.  Routes without a pattern are
skipped, a run of `/` counts as one, and a `/` at the end is dropped unless it is all there is.
-/

namespace FullPath

/-- The text with every run of `/` written once. -/
def squeeze : Text → Text
  | [] => []
  | [c] => [c]
  | c :: d :: rest => if c = '/' ∧ d = '/' then squeeze (d :: rest) else c :: squeeze (d :: rest)

/-- The text without a `/` at its end; the text `/` alone is kept. -/
def dropTrailing (t : Text) : Text :=
  if 1 < t.length ∧ t.getLast? = some '/' then t.dropLast else t

def ofPatterns (patterns : List Text) : Text :=
  dropTrailing (squeeze (Text.glue '/' patterns))

/-- The full path of a lineage, the root first. -/
def ofLineage (lineage : List Route) : Text := ofPatterns (lineage.filterMap Route.segment?)

end FullPath
end TypedRoutes
