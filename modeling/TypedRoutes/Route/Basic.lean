import TypedRoutes.Text.Basic

namespace TypedRoutes

/-!
# Routes

A route as it is declared.  Its parent is named explicitly or read off its id: the id
`blog/layout/post` lies under `blog/layout`, and an id without a `/` lies under the root.
-/

structure Route where
  id : Text
  /-- The path pattern this route adds to its parent's. -/
  path : Option Text := none
  /-- The module file, relative to the application directory. -/
  file : Option Text := none
  /-- The parent, where it is not the one that the id names. -/
  parentId : Option Text := none
  index : Bool := false
deriving DecidableEq, Repr

namespace Route

/-- The path pattern of the route, where it is not empty. -/
def segment? (route : Route) : Option Text := route.path.filter (· ≠ [])

/-- The parent that an id names: the part before its last `/`, or the root where that part is
missing or empty. -/
def parentOfId (rootId id : Text) : Text :=
  match Text.cutLast? '/' id with
  | some (parent, _) => if parent = [] then rootId else parent
  | none => rootId

def parent (rootId : Text) (route : Route) : Text :=
  route.parentId.getD (parentOfId rootId route.id)

end Route
end TypedRoutes
