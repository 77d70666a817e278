import TypedRoutes.Declaration.Basic

namespace TypedRoutes

/-!
# The server build module

An ambient declaration of the virtual module under which a bundler exposes the server build.  It
depends on the framework's name alone.
-/

namespace Declaration

/-- The name of the file, directly below the output directory. -/
def serverBuildName : Text := "+server-build.d.ts"

def serverBuildModule : Text := "virtual:react-router/server-build"

def serverBuildExports : List Text :=
  ["assets", "assetsBuildDirectory", "basename", "entry", "future", "isSpaMode", "prerender",
    "publicPath", "routes", "ssr"]

def exportLine (name : Text) : Text :=
  "  export const " ++ name ++ ": ServerBuild[\"" ++ name ++ "\"];\n"

def serverBuild (frameworkModule : Text) : Text :=
  header ++ "\n"
    ++ "declare module " ++ Text.quote serverBuildModule ++ " \x7b\n"
    ++ "  import \x7b ServerBuild \x7d from " ++ Text.quote frameworkModule ++ ";\n"
    ++ serverBuildExports.flatMap exportLine
    ++ "\x7d\n"

end Declaration
end TypedRoutes
