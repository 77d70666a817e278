import TypedRoutes.Layer.Value
import TypedRoutes.Number.Shortest
import TypedRoutes.Text.Lowercase
import TypedRoutes.Text.Visible

namespace TypedRoutes

/-!
# Reading layered values

A reader turns a layered value into a value of a type, or tells what it found in place of what it
expected, under which keys, and in which layer.  Nothing is converted: a text is no number, and a
number is no truth value.  A record is read from a table by the names of its fields, in the order of
the table, or from a list by their positions; entries that belong to no field are passed over.
-/

namespace Layer

inductive Expected where
  | string
  | boolean
  | path
  | sequence
  | map
  /-- A whole number without a sign, of so many bits. -/
  | unsigned (bits : Nat)
  | record (name : Text)
deriving DecidableEq, Repr

inductive Cause where
  | wrongType (found : Value) (expected : Expected)
  | outOfRange (found : Value) (expected : Expected)
  | missingField (name : Text)
  | tooShort (length : Nat) (record : Text) (fields : Nat)
deriving Repr

/-- A value that cannot be read, with the keys that lead to it. -/
structure ReadError where
  cause : Cause
  keys : List Text
  origin : Origin
deriving Repr

/-! ## Messages -/

def Expected.text : Expected → Text
  | .string => "a string"
  | .boolean => "a boolean"
  | .path => "path string"
  | .sequence => "a sequence"
  | .map => "a map"
  | .unsigned bits => 'u' :: Text.ofNat bits
  | .record name => "struct " ++ name

def Value.found : Value → Text
  | .text _ t => "string " ++ Text.visible t
  | .flag _ b => if b then "bool true" else "bool false"
  | .signed _ i => "signed int `" ++ Text.ofInt i ++ "`"
  | .unsigned _ n => "unsigned int `" ++ Text.ofNat n ++ "`"
  | .float _ x => "float `" ++ x.text ++ "`"
  | .list _ _ => "sequence"
  | .table _ _ => "map"

def Cause.message : Cause → Text
  | .wrongType found expected =>
      "invalid type: found " ++ found.found ++ ", expected " ++ expected.text
  | .outOfRange found expected =>
      "invalid value " ++ found.found ++ ", expected " ++ expected.text
  | .missingField name => "missing field `" ++ name ++ "`"
  | .tooShort length record fields =>
      "invalid length " ++ Text.ofNat length ++ ", expected struct " ++ record ++ " with "
        ++ Text.ofNat fields ++ " elements"

/-- Keys as their layer writes them. -/
def Origin.keyText : Origin → List Text → Text
  | .file _, keys => Text.glue '.' ("default" :: keys)
  | .environment, keys => Text.asciiUpper (Text.glue '.' keys)

def Origin.name : Origin → Text
  | .file shown => shown ++ " TOML file"
  | .environment => "`ROUTE_TYPEGEN_` environment variable(s)"

def ReadError.place (error : ReadError) : Text :=
  if error.keys = [] then []
  else " for key " ++ Text.visible (error.origin.keyText error.keys)

def ReadError.message (error : ReadError) : Text :=
  error.cause.message ++ error.place ++ " in " ++ error.origin.name

/-! ## Readers -/

abbrev Reads (α : Type) := Value → Except ReadError α

/-- Blame a value. -/
def Value.refuse {α : Type} (value : Value) (cause : Cause) : Except ReadError α :=
  .error ⟨cause, [], value.origin⟩

def ReadError.below (key : Text) (error : ReadError) : ReadError :=
  { error with keys := key :: error.keys }

def Reads.below {α : Type} (key : Text) (reads : Reads α) : Reads α := fun value =>
  (reads value).mapError (ReadError.below key)

def readText : Reads Text
  | .text _ t => .ok t
  | value => value.refuse (.wrongType value .string)

def readPath : Reads Text
  | .text _ t => .ok t
  | value => value.refuse (.wrongType value .path)

def readFlag : Reads Bool
  | .flag _ b => .ok b
  | value => value.refuse (.wrongType value .boolean)

/-- A whole number without a sign, below a power of two. -/
def readUnsigned (bits : Nat) : Reads Nat
  | .unsigned o n =>
      if n < Nat.pow 2 bits then .ok n
      else Value.refuse (.unsigned o n) (.outOfRange (.unsigned o n) (.unsigned bits))
  | .signed o i =>
      if 0 ≤ i ∧ i < (Nat.pow 2 bits : Nat) then .ok i.toNat
      else Value.refuse (.signed o i) (.outOfRange (.signed o i) (.unsigned bits))
  | value => value.refuse (.wrongType value (.unsigned bits))

/-- The items of a list, read one by one under their positions. -/
def readItems {α : Type} (reads : Reads α) : Nat → List Value → Except ReadError (List α)
  | _, [] => .ok []
  | position, item :: rest => do
      let first ← Reads.below (Text.ofNat position) reads item
      return first :: (← readItems reads (position + 1) rest)

def readList {α : Type} (reads : Reads α) : Reads (List α)
  | .list _ items => readItems reads 0 items
  | value => value.refuse (.wrongType value .sequence)

/-- The entries of a table, read one by one under their names. -/
def readEntries {α : Type} (reads : Reads α) :
    List (Text × Value) → Except ReadError (List (Text × α))
  | [] => .ok []
  | (name, value) :: rest => do
      let first ← Reads.below name reads value
      return (name, first) :: (← readEntries reads rest)

/-- A table with arbitrary names. -/
def readMap {α : Type} (reads : Reads α) : Reads (List (Text × α))
  | .table _ entries => readEntries reads entries
  | value => value.refuse (.wrongType value .map)

/-! ## Records -/

/-- A record type: its name, and each field with how its value changes a record. -/
structure Record (σ : Type) where
  name : Text
  fields : List (Text × (σ → Reads σ))

namespace Record

variable {σ : Type}

/-- Read the fields of a table, in the order of the table. -/
def readTable (record : Record σ) : σ → List (Text × Value) → Except ReadError σ
  | sofar, [] => .ok sofar
  | sofar, (name, value) :: rest => do
      match record.fields.lookup name with
      | some field => record.readTable (← Reads.below name (field sofar) value) rest
      | none => record.readTable sofar rest

/-- Read fields from a list, by position. -/
def readPositions : List (Text × (σ → Reads σ)) → Nat → σ → List Value → Except ReadError σ
  | (_, field) :: fields, position, sofar, value :: rest => do
      let next ← Reads.below (Text.ofNat position) (field sofar) value
      readPositions fields (position + 1) next rest
  | _, _, sofar, _ => .ok sofar

/-- Read a record, starting from the values that fields have when nothing is said about them. -/
def reads (record : Record σ) (start : σ) : Reads σ
  | .table _ entries => record.readTable start entries
  | .list _ items => readPositions record.fields 0 start items
  | value => value.refuse (.wrongType value (.record record.name))

end Record
end Layer
end TypedRoutes
