import TypedRoutes.Text.Table
import TypedRoutes.Toml.Value

namespace TypedRoutes

/-!
# Layered values

Configuration comes in layers: files and the environment.  A value remembers the layer it came from,
so that a fault in it can be blamed.  Laying one value over another replaces it, except that tables
are combined name by name; so a layer that sets one entry of a table leaves the others to the layers
below.
-/

namespace Layer

inductive Origin where
  /-- A file, by the path under which messages show it. -/
  | file (shown : Text)
  | environment
deriving DecidableEq, Repr

/-- A value of a layer.  Whole numbers know whether they were read as numbers with a sign. -/
inductive Value where
  | text (origin : Origin) (t : Text)
  | flag (origin : Origin) (b : Bool)
  | signed (origin : Origin) (i : Int)
  | unsigned (origin : Origin) (n : Nat)
  | float (origin : Origin) (x : Binary64)
  | list (origin : Origin) (items : List Value)
  | table (origin : Origin) (entries : List (Text × Value))
deriving Repr

namespace Value

def origin : Value → Origin
  | .text o _ => o
  | .flag o _ => o
  | .signed o _ => o
  | .unsigned o _ => o
  | .float o _ => o
  | .list o _ => o
  | .table o _ => o

/-! ## Laying values over each other -/

mutual

/-- One value laid over another. -/
def overlay : Value → Value → Value
  | .table _ below, .table o above => .table o (overlayEntries below above)
  | _, above => above

/-- The entries of one table laid over those of another: each replaces or joins the entry of its
name, or stands by itself. -/
def overlayEntries : Table Value → Table Value → Table Value
  | [], above => above
  | (name, value) :: below, above =>
      let merged := match above.lookup name with
        | some upper => overlay value upper
        | none => value
      Table.insert name merged (overlayEntries below above)

end

end Value

/-! ## Values of TOML documents -/

mutual

/-- The layered value of a TOML value.  A date or a time is a table with one reserved name. -/
def Value.ofToml (origin : Origin) : Toml.Value → Value
  | .string t => .text origin t
  | .integer i => .signed origin i
  | .float x => .float origin x
  | .boolean b => .flag origin b
  | .datetime t => .table origin [("$__toml_private_datetime", .text origin t)]
  | .array items => .list origin (Value.ofTomlItems origin items)
  | .table entries => .table origin (Value.ofTomlEntries origin entries)

def Value.ofTomlItems (origin : Origin) : List Toml.Value → List Value
  | [] => []
  | item :: rest => Value.ofToml origin item :: Value.ofTomlItems origin rest

/-- The entries of a TOML table in the order of their names. -/
def Value.ofTomlEntries (origin : Origin) : List (Text × Toml.Value) → Table Value
  | [] => []
  | (name, value) :: rest =>
      Table.insert name (Value.ofToml origin value) (Value.ofTomlEntries origin rest)

end

end Layer
end TypedRoutes
