import TypedRoutes.Text.Basic

namespace TypedRoutes

/-!
# Path parameters

A path pattern such as `users/:id/files/*` declares parameters, one segment at a time.  Reading is
total: a segment that declares nothing contributes nothing.
-/

/-- A parameter of a path pattern: its name, and whether a matched path always supplies it. -/
structure Param where
  name : Text
  required : Bool
deriving DecidableEq, Repr

namespace Param

def splat : Text := ['*']

/-- What one segment declares: `*` the catch-all, `:name` a required parameter and `:name?` an
optional one.  A colon without a name declares nothing, and neither does static text. -/
def ofSegment? : Text → Option Param
  | ['*'] => some ⟨splat, true⟩
  | ':' :: marked =>
      let param : Param :=
        match Text.stripLast? '?' marked with
        | some name => ⟨name, false⟩
        | none => ⟨marked, true⟩
      if param.name = [] then none else some param
  | _ => none

end Param

/-- Parameters in the order of their first declaration. -/
abbrev Params := List Param

namespace Params

/-- Declare a parameter: a name that is already there keeps its place and takes the new flag. -/
def declare : Params → Param → Params
  | [], param => [param]
  | old :: rest, param =>
      if old.name = param.name then param :: rest else old :: declare rest param

def declareAll (params : Params) (more : List Param) : Params := more.foldl declare params

/-- What the segments of a path declare, in order, repetitions included. -/
def declarations (path : Text) : List Param :=
  (Text.pieces '/' path).filterMap Param.ofSegment?

def ofPath (path : Text) : Params := declareAll [] (declarations path)

end Params
end TypedRoutes
