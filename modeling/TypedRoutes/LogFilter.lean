import TypedRoutes.Settings.Basic
import TypedRoutes.Text.Blank
import TypedRoutes.Text.Letter
import TypedRoutes.Text.Lowercase

namespace TypedRoutes

/-!
# Log filters

The settings name a log level for all modules and others for single ones.  A filter says the same in
one line: directives with commas between them, the level for all first.  Settings may hold any text,
so a directive may not read as one; such a directive is left out, with a warning.

A directive is a level, a module, or a module and a level with `=` between them.  Between module and
level there may be a span in brackets, with a field in braces.
-/

namespace LogFilter

def ofSettings (settings : Settings) : Text :=
  settings.defaultLevel
    ++ settings.moduleLevels.entries.flatMap fun entry => ',' :: entry.1 ++ '=' :: entry.2

/-! ## Reading directives -/

inductive Fault where
  | form
  | level
deriving DecidableEq, Repr

def Fault.message : Fault → Text
  | .form => "invalid filter directive"
  | .level =>
      "error parsing level filter: expected one of \"off\", \"error\", \"warn\", \"info\", \"debug\", "
        ++ "\"trace\", or a number 0-5"

def levelNames : List Text :=
  ["off", "error", "warn", "info", "debug", "trace"].map String.toList

/-- Whether a text is the numeral of a level, perhaps with a plus sign and zeros before it. -/
def isLevelNumeral (t : Text) : Bool :=
  let digits := match t with
    | '+' :: rest => rest
    | t => t
  digits != [] && digits.all Char.isDigit
    && (match digits.dropWhile (· = '0') with
      | [] => true
      | [d] => d ≤ '5'
      | _ => false)

/-- Whether a text is a level.  Nothing at all is one too. -/
def isLevel (t : Text) : Bool :=
  t = [] || isLevelNumeral t || levelNames.any fun name => Text.asciiUpper name = Text.asciiUpper t

/-- Whether a directive may open with a character, a bracket apart. -/
def opens (c : Char) : Bool :=
  c = '-' || c = ':' || c = '_' || Text.isLetterOrDigit c

/-- The text behind the first of some characters, with that character. -/
def seek (marks : List Char) (t : Text) : Option (Char × Text) :=
  match t.dropWhile (· ∉ marks) with
  | [] => none
  | mark :: rest => some (mark, rest)

/-- What is wrong behind the bracket that ends a span.  `level` is the level text behind a given
rest. -/
def faultAfterSpan (level : Text → Text) : Text → Option Fault
  | [] => none
  | '=' :: rest => if isLevel (level rest) then none else some .level
  | _ => some .form

/-- What is wrong with a span behind its opening bracket. -/
def faultInSpan (level : Text → Text) (t : Text) : Option Fault :=
  match seek [']', '\x7b'] t with
  | none => some .form
  | some (']', rest) => faultAfterSpan level rest
  | some (_, '\x7d' :: _) => some .form
  | some (_, fields) =>
      match seek ['\x7d'] fields with
      | some (_, ']' :: rest) => faultAfterSpan level rest
      | _ => some .form

/-- What is wrong with a directive.  Blanks around it do not matter for its form, but the level is
found by counting characters from the very start. -/
def fault? (directive : Text) : Option Fault :=
  let body := Text.trim directive
  let level (rest : Text) : Text := directive.drop (body.length - rest.length)
  match body with
  | [] => some .form
  | '[' :: rest => faultInSpan level rest
  | first :: rest =>
      if opens first then
        match seek ['=', '['] rest with
        | none => none
        | some ('=', rest) => if isLevel (level rest) then none else some .level
        | some (_, rest) => faultInSpan level rest
      else some .form

/-- The warnings about a filter, one for every directive that is left out. -/
def warnings (filter : Text) : List Text :=
  ((Text.pieces ',' filter).filter (· ≠ [])).filterMap fun directive =>
    (fault? directive).map fun fault =>
      "ignoring \x60" ++ directive ++ "\x60: " ++ fault.message

end LogFilter
end TypedRoutes
