import TypedRoutes.Path.Basic

namespace TypedRoutes

/-!
# File trees

A file tree is a file with its text or a directory of named trees.  Lookup is by location; of two
entries with one name the first counts, and every change keeps only one, so lookup after a change is
determined by lookup before it.
-/

inductive Node where
  | file (text : Text)
  | directory (entries : List (Text × Node))
deriving Repr

namespace Node

abbrev emptyDirectory : Node := .directory []

def isDirectory : Node → Bool
  | .directory _ => true
  | .file _ => false

def at? : Node → Location → Option Node
  | node, [] => some node
  | .file _, _ :: _ => none
  | .directory entries, name :: rest =>
      match entries.lookup name with
      | some child => child.at? rest
      | none => none

/-- The entries with a given one set: in its place if the name is there, else at the end. -/
def setEntry (entries : List (Text × Node)) (name : Text) (node : Node) : List (Text × Node) :=
  match entries with
  | [] => [(name, node)]
  | (other, old) :: rest =>
      if other = name then (name, node) :: rest.filter (·.1 ≠ name)
      else (other, old) :: setEntry rest name node

/-- The tree with a node put at a location.  Where a directory above it is missing, nothing
changes. -/
def put (node : Node) : Location → Node → Node
  | [], new => new
  | name :: rest, new =>
      match node with
      | .file text => .file text
      | .directory entries =>
          match entries.lookup name with
          | some child => .directory (setEntry entries name (child.put rest new))
          | none => if rest = [] then .directory (setEntry entries name new) else .directory entries

def erase (node : Node) : Location → Node
  | [] => emptyDirectory
  | name :: rest =>
      match node with
      | .file text => .file text
      | .directory entries =>
          match entries.lookup name with
          | none => .directory entries
          | some child =>
              if rest = [] then .directory (entries.filter (·.1 ≠ name))
              else .directory (setEntry entries name (child.erase rest))

mutual

/-- The files of a tree with their locations, and the directories that have no entries. -/
def leaves : Node → List (Location × Option Text)
  | .file text => [([], some text)]
  | .directory entries => if entries.isEmpty then [([], none)] else leavesOf entries

def leavesOf : List (Text × Node) → List (Location × Option Text)
  | [] => []
  | (name, node) :: rest =>
      node.leaves.map (fun leaf => (name :: leaf.1, leaf.2)) ++ leavesOf rest

end

end Node
end TypedRoutes
