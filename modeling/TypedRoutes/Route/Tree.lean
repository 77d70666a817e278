import TypedRoutes.Route.FullPath
import TypedRoutes.Text.Table

namespace TypedRoutes

/-!
# Route trees

A list of routes and the id of its root form a tree when ids are distinct, the root is declared,
every parent is declared, and climbing from parent to parent always ends at the root.
`RouteTree.build` accepts exactly those lists.  It finds the position of each id and of each parent
once and stores the links between parents and children in both directions; what is asked of a tree
later follows the links.
-/

/-- Why a list of routes is no tree, or a question to a tree has no answer. -/
inductive TreeError where
  | unknownRoute (id : Text)
  | duplicateRoute (id : Text)
  | missingRoot (id : Text)
  | missingParent (id parent : Text)
  | parentCycle (id : Text)
deriving DecidableEq, Repr

namespace TreeError

def message : TreeError → Text
  | .unknownRoute id => "Route '" ++ id ++ "' is not in the route tree"
  | .duplicateRoute id => "Duplicate route id: " ++ id
  | .missingRoot id => "Root route '" ++ id ++ "' is missing from the route tree"
  | .missingParent id parent =>
      "Route '" ++ id ++ "' names parent '" ++ parent ++ "' which is not in the route tree"
  | .parentCycle id => "Route '" ++ id ++ "' is part of a parent cycle"

end TreeError

namespace RouteTree

/-! ## Positions and links -/

/-- Enter a route with its position.  No earlier route may have its id. -/
def enter (positions : Table Nat) (entry : Route × Nat) : Except TreeError (Table Nat) :=
  if (positions.lookup entry.1.id).isSome then .error (.duplicateRoute entry.1.id)
  else .ok (positions.insert entry.1.id entry.2)

/-- The position of each id. -/
def positionsOf (routes : List Route) : Except TreeError (Table Nat) :=
  routes.zipIdx.foldlM enter []

/-- Parents and children by position. -/
structure Links where
  /-- The position of each route's parent, if it has one. -/
  parents : List (Option Nat)
  /-- The positions of each route's children, in the order of declaration. -/
  children : List (List Nat)
deriving DecidableEq, Repr

namespace Links

/-- Routes without parents and children. -/
def unlinked (count : Nat) : Links := ⟨List.replicate count none, List.replicate count []⟩

def add (links : Links) (parent child : Nat) : Links where
  parents := links.parents.set child (some parent)
  children := links.children.modify parent (· ++ [child])

def parentAt? (links : Links) (position : Nat) : Option Nat := links.parents[position]?.join

def childrenAt (links : Links) (position : Nat) : List Nat := links.children[position]?.getD []

end Links

/-- Link a route with its parent, which must be declared.  The root gets none, whatever it names. -/
def link (rootId : Text) (positions : Table Nat) (links : Links) (entry : Route × Nat) :
    Except TreeError Links :=
  if entry.1.id = rootId then .ok links
  else
    let parent := entry.1.parent rootId
    match positions.lookup parent with
    | none => .error (.missingParent entry.1.id parent)
    | some position => .ok (links.add position entry.2)

/-- The links of all routes. -/
def linksOf (rootId : Text) (positions : Table Nat) (routes : List Route) : Except TreeError Links :=
  routes.zipIdx.foldlM (link rootId positions) (.unlinked routes.length)

end RouteTree

/-- Declared routes, in order, with the id of the root among them.  Positions and links are what is
found of these routes, and no others can be put in their place. -/
structure RouteTree where
  rootId : Text
  routes : List Route
  positions : Table Nat
  links : RouteTree.Links
  positioned : RouteTree.positionsOf routes = .ok positions
  linked : RouteTree.linksOf rootId positions routes = .ok links
deriving Repr

namespace RouteTree

/-- Trees with the same declarations are equal: the rest is found from these. -/
theorem eq_iff {tree other : RouteTree} :
    tree = other ↔ tree.rootId = other.rootId ∧ tree.routes = other.routes := by
  constructor
  · rintro rfl
    exact ⟨rfl, rfl⟩
  · rcases tree with ⟨rootId, routes, positions, links, positioned, linked⟩
    rcases other with ⟨_, _, _, _, positionedToo, linkedToo⟩
    rintro ⟨rfl, rfl⟩
    cases positioned.symm.trans positionedToo
    cases linked.symm.trans linkedToo
    rfl

/-- Trees are compared by their declarations. -/
instance : DecidableEq RouteTree := fun _ _ => decidable_of_iff _ eq_iff.symm

/-! ## Questions -/

def position? (tree : RouteTree) (id : Text) : Option Nat := tree.positions.lookup id

/-- The routes at some positions. -/
def routesAt (tree : RouteTree) (positions : List Nat) : List Route :=
  positions.filterMap (tree.routes[·]?)

def find? (tree : RouteTree) (id : Text) : Option Route :=
  (tree.position? id).bind (tree.routes[·]?)

/-- The parent of the route of an id; the root has none. -/
def parent? (tree : RouteTree) (id : Text) : Option Route := do
  let position ← tree.position? id
  let parent ← tree.links.parentAt? position
  tree.routes[parent]?

/-- The routes whose parent is the route of an id, in the order of declaration. -/
def children (tree : RouteTree) (id : Text) : List Route :=
  match tree.position? id with
  | none => []
  | some position => tree.routesAt (tree.links.childrenAt position)

/-- The positions from `position` up to the root, where at most `steps` links lead there. -/
def climb? (tree : RouteTree) : Nat → Nat → Option (List Nat)
  | 0, position => if tree.links.parentAt? position = none then some [position] else none
  | steps + 1, position =>
      match tree.links.parentAt? position with
      | none => some [position]
      | some parent => (tree.climb? steps parent).map (position :: ·)

/-- The positions from the root down to `position`.  A climb without repetition takes fewer steps
than there are routes. -/
def descent? (tree : RouteTree) (position : Nat) : Option (List Nat) :=
  (tree.climb? tree.routes.length position).map List.reverse

/-- The routes from the root down to the route of an id. -/
def lineage (tree : RouteTree) (id : Text) : Except TreeError (List Route) :=
  match tree.position? id with
  | none => .error (.unknownRoute id)
  | some position =>
      match tree.descent? position with
      | none => .error (.parentCycle id)
      | some positions => .ok (tree.routesAt positions)

def fullPath (tree : RouteTree) (id : Text) : Except TreeError Text :=
  (tree.lineage id).map FullPath.ofLineage

/-! ## Building -/

/-- The first route from which no climb ends at the root. -/
def firstUnrooted? (tree : RouteTree) : Option Text :=
  (tree.routes.zipIdx.find? fun entry => (tree.descent? entry.2).isNone).map (·.1.id)

/-- The tree of the declared routes.  Of several faults the first kind in this order is reported:
a repeated id, a missing root, a missing parent, a cycle; and of one kind the first declared. -/
def build (rootId : Text) (routes : List Route) : Except TreeError RouteTree :=
  match positioned : positionsOf routes with
  | .error error => .error error
  | .ok positions =>
      if (positions.lookup rootId).isNone then .error (.missingRoot rootId)
      else
        match linked : linksOf rootId positions routes with
        | .error error => .error error
        | .ok links =>
            let tree : RouteTree := { rootId, routes, positions, links, positioned, linked }
            match tree.firstUnrooted? with
            | some id => .error (.parentCycle id)
            | none => .ok tree

end RouteTree
end TypedRoutes
