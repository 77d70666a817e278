import TypedRoutes.Declaration.Basic
import TypedRoutes.Declaration.Placement
import TypedRoutes.Declaration.Specifier

namespace TypedRoutes

/-!
# The declaration file of a route

The file imports the declarations of the route's ancestors, the root first, declares what the route
is and which parameters its full path has, and repeats the parts that callers use under one
namespace.  The file of the root also declares the framework's capabilities.
-/

namespace Declaration

/-- The import of one ancestor, which is bound by its position. -/
def parentImport (position : Nat) (specifier : Text) : Text :=
  "import type \x7b Info as Parent" ++ Text.ofNat position ++ " \x7d from "
    ++ Text.quote specifier ++ ";\n"

/-- The imports of the ancestors from a position on. -/
def parentImports : Nat → List Text → Text
  | _, [] => []
  | position, specifier :: rest =>
      parentImport position specifier ++ parentImports (position + 1) rest

def parentNames (count : Nat) : Text :=
  Text.glueWith ", " ((List.range count).map fun i => "Parent" ++ Text.ofNat i)

def optionalLiteral : Option Text → Text
  | some t => Text.quote t
  | none => "undefined"

/-- The names that callers use. -/
def routeNamespace : Text :=
  "export namespace Route \x7b\n"
    ++ "  export type Params = Info[\"params\"];\n"
    ++ "  export type Parents = Info[\"parents\"];\n"
    ++ "  export type Fullpath = Info[\"fullpath\"];\n"
    ++ "\x7d\n"

def infoBlock (route : Route) (parents : Nat) (fullPath : Text) : Text :=
  "export type Info = \x7b\n"
    ++ "  parents: [" ++ parentNames parents ++ "];\n"
    ++ "  id: " ++ Text.quote route.id ++ ";\n"
    ++ "  file: " ++ optionalLiteral route.file ++ ";\n"
    ++ "  path: " ++ optionalLiteral route.path ++ ";\n"
    ++ "  fullpath: " ++ Text.quote fullPath ++ ";\n"
    ++ "  index: " ++ truth route.index ++ ";\n"
    ++ "  params: " ++ paramsObject (Params.ofPath fullPath) 1
    ++ " & \x7b [key: string]: string | undefined \x7d;\n"
    ++ "\x7d;\n\n"

/-- The specifiers by which a route's file names those of its ancestors. -/
def parentSpecifiers (snapshot : Snapshot) (route : Route) (ancestors : List Route) : List Text :=
  ancestors.map fun ancestor =>
    Specifier.relative (Placement.components snapshot.appDirectory route.id)
      (Placement.components snapshot.appDirectory ancestor.id)

/-- The imports with the blank line after them; a route without ancestors has neither. -/
def importBlock (specifiers : List Text) : Text :=
  if specifiers = [] then [] else parentImports 0 specifiers ++ ['\n']

/-- What only the file of the root declares: the capabilities of the framework. -/
def capabilities (frameworkModule : Text) (snapshot : Snapshot) (route : Route) : Text :=
  if route.id = snapshot.tree.rootId then '\n' :: futureBlock frameworkModule snapshot.future
  else []

/-- The file of a route with a given lineage, which ends in the route. -/
def routeFileOf (frameworkModule : Text) (snapshot : Snapshot) (route : Route)
    (lineage : List Route) : Text :=
  let specifiers := parentSpecifiers snapshot route lineage.dropLast
  header ++ "\n"
    ++ importBlock specifiers
    ++ infoBlock route specifiers.length (FullPath.ofLineage lineage)
    ++ routeNamespace
    ++ capabilities frameworkModule snapshot route

/-- The declaration file of a route of the snapshot's tree. -/
def routeFile (frameworkModule : Text) (snapshot : Snapshot) (route : Route) :
    Except TreeError Text :=
  (snapshot.tree.lineage route.id).map (routeFileOf frameworkModule snapshot route)

end Declaration
end TypedRoutes
