import TypedRoutes.Text.Literal
import TypedRoutes.Route.Params
import TypedRoutes.Route.Snapshot

namespace TypedRoutes

/-!
# Generated text

The pieces that several generated files share: the first line, lines at a nesting level, the object
type of a list of parameters, and the block that declares the framework's capabilities.
-/

namespace Declaration

def header : Text := "// Generated by route-typegen. Do not edit.\n"

def indentation (level : Nat) : Text := Text.times level "  "

/-- A literal of the generated language for a truth value. -/
def truth (b : Bool) : Text := if b then "true" else "false"

/-- The member of an object type that a parameter becomes. -/
def member (level : Nat) (param : Param) : Text :=
  indentation level ++ Text.quote param.name ++ (if param.required then [] else ['?'])
    ++ ": string;\n"

/-- The object type of a list of parameters, whose first line stands at a nesting level. -/
def paramsObject (params : Params) (level : Nat) : Text :=
  if params = [] then "\x7b\x7d"
  else "\x7b\n" ++ params.flatMap (member (level + 1)) ++ indentation level ++ "\x7d"

/-- The block that declares the capabilities of the framework as literal types. -/
def futureBlock (frameworkModule : Text) (future : FutureFlags) : Text :=
  "declare module " ++ Text.quote frameworkModule ++ " \x7b\n"
    ++ "  interface Future \x7b\n"
    ++ "    unstable_middleware: " ++ truth future.middleware ++ ";\n"
    ++ "  \x7d\n\x7d\n"

end Declaration
end TypedRoutes
