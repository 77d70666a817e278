import TypedRoutes.Declaration.Basic

namespace TypedRoutes

/-!
# The register

One file maps every full path of the tree to its parameters.  A route contributes its full path when
it is the root or has a pattern of its own; routes without one only shape the paths below them.  Each
full path is registered once, where it is first met, and the empty one not at all.
-/

namespace Declaration

/-- The name of the register, directly below the output directory. -/
def registerName : Text := "+register.ts"

/-- Whether a route contributes its full path. -/
def contributes (tree : RouteTree) (route : Route) : Bool :=
  route.id = tree.rootId || route.segment?.isSome

/-- The full paths that routes contribute, in order of declaration, repetitions included. -/
def contributedPaths (tree : RouteTree) : Except TreeError (List Text) :=
  (tree.routes.filter (contributes tree)).mapM fun route => tree.fullPath route.id

def firstOccurrences : List Text → List Text
  | [] => []
  | t :: rest => t :: (firstOccurrences rest).filter (· ≠ t)

/-- The registered full paths with their parameters. -/
def registeredPaths (tree : RouteTree) : Except TreeError (List (Text × Params)) :=
  (contributedPaths tree).map fun paths =>
    (firstOccurrences (paths.filter (· ≠ []))).map fun path => (path, Params.ofPath path)

def registerMember (entry : Text × Params) : Text :=
  "  " ++ Text.quote entry.1 ++ ": " ++ paramsObject entry.2 1 ++ ";\n"

def registerMap (entries : List (Text × Params)) : Text :=
  if entries = [] then "type Params = \x7b\x7d;\n"
  else "type Params = \x7b\n" ++ entries.flatMap registerMember ++ "\x7d;\n"

/-- The text of the register for given entries. -/
def registerOf (frameworkModule : Text) (future : FutureFlags) (entries : List (Text × Params)) :
    Text :=
  let name := Text.quote frameworkModule
  header ++ "\n"
    ++ "import " ++ name ++ ";\n\n"
    ++ "declare module " ++ name ++ " \x7b\n"
    ++ "  interface Register \x7b\n"
    ++ "    params: Params;\n"
    ++ "  \x7d\n"
    ++ "\x7d\n\n"
    ++ registerMap entries
    ++ "\n"
    ++ futureBlock frameworkModule future

def register (frameworkModule : Text) (snapshot : Snapshot) : Except TreeError Text :=
  (registeredPaths snapshot.tree).map (registerOf frameworkModule snapshot.future)

end Declaration
end TypedRoutes
