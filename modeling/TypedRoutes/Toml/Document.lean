import TypedRoutes.Toml.Statement

namespace TypedRoutes

/-!
# TOML documents

Reading a document takes its statements one after the other.  Entries belong to the table of the last
header before them, or to the top where there is none.
-/

namespace Toml

/-- A document in the course of reading: the table of the last header, and everything so far. -/
structure Draft where
  current : List Text := []
  items : Items := []

namespace Draft

def add (draft : Draft) : Statement → Option Draft
  | .entry path key value => do
      let items ← Item.descend false draft.current (Item.assign path key value) .defined draft.items
      return { draft with items }
  | .table path key => do
      return { current := path ++ [key], items := ← Item.define path key draft.items }
  | .element path key => do
      return { current := path ++ [key], items := ← Item.append path key draft.items }

def addAll : Draft → List Statement → Option Draft
  | draft, [] => some draft
  | draft, statement :: rest => do (← draft.add statement).addAll rest

end Draft

def dropMark : Text → Text
  | '\ufeff' :: rest => rest
  | t => t

/-- The entries of a document, or nothing where the text is no TOML. -/
def parse? (t : Text) : Option (List (Text × Value)) := do
  let t := dropMark t
  let draft ← Draft.addAll {} (← statements (t.length + 1) t)
  return Item.finishEntries draft.items

end Toml
end TypedRoutes
