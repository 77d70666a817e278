import TypedRoutes.CommandLine.Reading
import TypedRoutes.Path.Basic

namespace TypedRoutes

/-!
# Invocations

What a command line asks for, once it is read and what it leaves open is filled in.
-/

namespace CommandLine

inductive Command where
  | init (force : Bool)
  | typegen (mode : Text) (watch : Bool)
  | config
deriving DecidableEq, Repr

structure Invocation where
  /-- A settings file to use in place of the project's own. -/
  config : Option Path
  /-- The root of the project. -/
  root : Path
  command : Command
deriving DecidableEq, Repr

namespace Invocation

/-- The root of the project unless the command line names one. -/
def defaultRoot : Text := "."

/-- The mode unless the command line or the environment names one. -/
def defaultMode : Text := "production"

/-- The variable that names the mode where the command line does not. -/
def modeVariable : Text := "ROUTE_TYPEGEN_MODE"

/-- The command with the slots that were set behind it. -/
def commandOf (environment : List (Text × Text)) (slots : List (Slot × Text)) :
    CommandName → Command
  | .init => .init (slots.lookup .force).isSome
  | .typegen =>
      let mode := (slots.lookup .mode <|> environment.lookup modeVariable).getD defaultMode
      .typegen mode (slots.lookup .watch).isSome
  | .config => .config

/-- The invocation of the slots set in front of a command and behind it.  A settings file named
behind the command counts more. -/
def ofSlots (environment : List (Text × Text)) (outer inner : List (Slot × Text))
    (name : CommandName) : Invocation where
  config := (inner.lookup .config <|> outer.lookup .config).map Path.mk
  root := ⟨(inner.lookup .root).getD defaultRoot⟩
  command := commandOf environment inner name

def ofWords (environment : List (Text × Text)) (words : List Text) : Except Refusal Invocation := do
  let (outer, ending) ← readWords .outer {} words
  match ending with
  | none =>
      let outer ← outer.settle
      .error (if outer.set.isEmpty then .nothing else .noCommand)
  | some (name, rest) =>
      let (inner, _) ← readWords (.of name) {} rest
      let inner ← inner.settle
      let outer ← outer.settle
      return ofSlots environment outer.set inner.set name

end Invocation
end CommandLine
end TypedRoutes
