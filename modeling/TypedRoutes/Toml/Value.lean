import TypedRoutes.Number.Binary64
import TypedRoutes.Text.Basic

namespace TypedRoutes

/-!
# TOML values

What a TOML document says, once dotted keys and headers are resolved.  A table lists its entries in
the order of the document, each key once.
-/

namespace Toml

inductive Value where
  | string (text : Text)
  | integer (value : Int)
  | float (value : Binary64)
  | boolean (value : Bool)
  /-- A date, a time or both, in canonical form. -/
  | datetime (text : Text)
  | array (items : List Value)
  | table (entries : List (Text × Value))
deriving Repr

def minInteger : Int := -9223372036854775808

def maxInteger : Int := 9223372036854775807

end Toml
end TypedRoutes
