import TypedRoutes.Text.Basic

namespace TypedRoutes

/-!
# Relative module specifiers

How one generated file names another in an import.  Both are given by their parts relative to the
output directory.  The specifier goes up from the directory of the importing file to the longest
common beginning and down from there, with the ending `.js` in place of `.ts`.
-/

namespace Specifier

/-- The number of leading parts that two lists share. -/
def common : List Text → List Text → Nat
  | a :: as, b :: bs => if a = b then common as bs + 1 else 0
  | _, _ => 0

/-- The steps from one file's directory to another file. -/
def steps (source target : List Text) : List Text :=
  let directory := source.dropLast
  let shared := common directory target
  List.replicate (directory.length - shared) ['.', '.'] ++ target.drop shared

def compiledName (t : Text) : Text :=
  match Text.stripEnding? ".ts" t with
  | some stem => stem ++ ".js"
  | none => t

/-- A path that starts upwards is relative as it stands; every other is marked with `./`. -/
def marked (t : Text) : Text := if ['.', '.'] <+: t then t else "./" ++ t

def relative (source target : List Text) : Text :=
  marked (compiledName (Text.glue '/' (steps source target)))

end Specifier
end TypedRoutes
