import TypedRoutes.Toml.Quoted
import TypedRoutes.Toml.Scalar

namespace TypedRoutes

/-!
# TOML statements

A document is a list of statements, one a line: a key with its value, or the header of a table or of
one table of an array.  Values may nest, up to a limit, and so may keys.
-/

namespace Toml

/-- How deep arrays and inline tables may nest, and how many parts a dotted key may have: less than
this. -/
def nestingLimit : Nat := 80

/-- One statement of a document.  A key is a list of parts, its last one apart. -/
inductive Statement where
  | entry (path : List Text) (key : Text) (value : Value)
  | table (path : List Text) (key : Text)
  | element (path : List Text) (key : Text)
deriving Repr

/-! ## Keys -/

def keyPart (t : Text) : Option (Text × Text) :=
  match t with
  | [] => none
  | c :: _ =>
      if isBareKeyChar c then some (t.span isBareKeyChar)
      else quotedKey t

/-- The parts of a key behind its first part, with the blanks behind them. -/
def keyRest : Nat → Reader (List Text)
  | 0, _ => none
  | fuel + 1, t =>
      match t with
      | '.' :: rest => do
          let (part, rest) ← keyPart (skipBlanks rest)
          let (parts, rest) ← keyRest fuel (skipBlanks rest)
          return (part :: parts, rest)
      | t => some ([], t)

/-- A dotted key with the blanks around it: the parts before the last, and the last. -/
def key : Reader (List Text × Text) := fun t => do
  let (first, rest) ← keyPart (skipBlanks t)
  let (more, rest) ← keyRest nestingLimit (skipBlanks rest)
  if more.length + 1 < nestingLimit then
    return (((first :: more).dropLast, (first :: more).getLastD []), rest)
  else none

/-! ## Values -/

def word (letters : Text) (value : Value) : Reader Value := fun t =>
  (letters.isPrefixOf? t).map fun rest => (value, rest)

/-- How tables behave when later keys lead into them. -/
inductive TableForm where
  /-- Named by a header on the way to a deeper table; it may still get a header of its own. -/
  | implied
  /-- Made by dotted keys, and open to more of them. -/
  | dotted
  /-- Defined as a whole. -/
  | defined
deriving DecidableEq, Repr

/-- What a key stands for while a document is read. -/
inductive Item where
  | value (v : Value)
  | table (form : TableForm) (entries : List (Text × Item))
  | tables (elements : List (List (Text × Item)))

/-- The entries of a table that is still being read. -/
abbrev Items := List (Text × Item)

namespace Item

/-- Change what a key stands for; the change sees nothing where the key is new. -/
def update (key : Text) (change : Option Item → Option Item) : Items → Option Items
  | [] => (change none).map fun item => [(key, item)]
  | (other, old) :: rest =>
      if other = key then (change (some old)).map fun item => (other, item) :: rest
      else (update key change rest).map ((other, old) :: ·)

def updateLast (change : Items → Option Items) : List Items → Option (List Items)
  | [] => none
  | [last] => (change last).map fun last => [last]
  | first :: rest => (updateLast change rest).map (first :: ·)

/-- Change the table that a path leads to.  Dotted keys make tables of their own and may not reopen
one that a header has defined; headers may pass through any table, and through the last of an
array. -/
def descend (dotted : Bool) :
    List Text → (TableForm → Items → Option Items) → TableForm → Items → Option Items
  | [], change, form, items => change form items
  | key :: path, change, _, items =>
      update key (fun
        | none =>
            let form := if dotted then TableForm.dotted else .implied
            (descend dotted path change form []).map (.table form)
        | some (.value _) => none
        | some (.table form entries) =>
            if dotted ∧ form = .defined then none
            else (descend dotted path change form entries).map (.table form)
        | some (.tables elements) =>
            (updateLast (descend dotted path change .defined) elements).map .tables) items

/-- Give a key its value.  A key that is taken is refused, and so is a dotted key that leads into a
table which dotted keys did not make. -/
def assign (path : List Text) (key : Text) (v : Value) (form : TableForm) (items : Items) :
    Option Items :=
  descend true path (fun form items =>
    if path ≠ [] ∧ form ≠ .dotted then none
    else update key (fun
      | none => some (.value v)
      | some _ => none) items) form items

def define (path : List Text) (key : Text) (items : Items) : Option Items :=
  descend false path (fun _ => update key fun
    | none => some (.table .defined [])
    | some (.table .implied entries) => some (.table .defined entries)
    | some _ => none) .defined items

def append (path : List Text) (key : Text) (items : Items) : Option Items :=
  descend false path (fun _ => update key fun
    | none => some (.tables [[]])
    | some (.tables elements) => some (.tables (elements ++ [[]]))
    | some _ => none) .defined items

mutual

def finish : Item → Value
  | .value v => v
  | .table _ entries => .table (finishEntries entries)
  | .tables elements => .array (finishElements elements)

def finishEntries : Items → List (Text × Value)
  | [] => []
  | (key, item) :: rest => (key, item.finish) :: finishEntries rest

def finishElements : List Items → List Value
  | [] => []
  | entries :: rest => .table (finishEntries entries) :: finishElements rest

end

end Item

mutual

/-- A value.  `fuel` bounds the work and `depth` counts the arrays and inline tables around it. -/
def value : Nat → Nat → Reader Value
  | 0, _, _ => none
  | fuel + 1, depth, t =>
      match t with
      | '"' :: _ => (string t).map fun (s, rest) => (.string s, rest)
      | '\x27' :: _ => (string t).map fun (s, rest) => (.string s, rest)
      | '[' :: rest =>
          if depth + 1 < nestingLimit then
            (arrayItems fuel (depth + 1) rest).map fun (items, rest) => (.array items, rest)
          else none
      | '\x7b' :: rest =>
          if depth + 1 < nestingLimit then
            match skipBlanks rest with
            | '\x7d' :: rest => some (.table [], rest)
            | rest =>
                (inlineEntries fuel (depth + 1) [] rest).map fun (items, rest) =>
                  (.table (Item.finishEntries items), rest)
          else none
      | 't' :: _ => word "true" (.boolean true) t
      | 'f' :: _ => word "false" (.boolean false) t
      | t => scalar t

/-- The items of an array up to its end; a comma may follow the last. -/
def arrayItems : Nat → Nat → Reader (List Value)
  | 0, _, _ => none
  | fuel + 1, depth, t => do
      match ← skipGap .open t with
      | ']' :: rest => return ([], rest)
      | t =>
          let (first, rest) ← value fuel depth t
          match ← skipGap .open rest with
          | ',' :: rest => do
              let (items, rest) ← arrayItems fuel depth rest
              return (first :: items, rest)
          | ']' :: rest => return ([first], rest)
          | _ => none

/-- The entries of an inline table up to its end, added to those before. -/
def inlineEntries : Nat → Nat → Items → Reader Items
  | 0, _, _, _ => none
  | fuel + 1, depth, items, t => do
      let ((path, name), rest) ← key t
      match rest with
      | '=' :: rest =>
          let (v, rest) ← value fuel depth (skipBlanks rest)
          let items ← Item.assign path name v .defined items
          match skipBlanks rest with
          | ',' :: rest => inlineEntries fuel depth items rest
          | '\x7d' :: rest => return (items, rest)
          | _ => none
      | _ => none

end

/-! ## Statements -/

/-- A key with its value, up to the end of the line. -/
def entryStatement (t : Text) : Option (Statement × Text) := do
  let ((path, name), rest) ← key t
  let rest := skipBlanks (← expect '=' rest)
  let (v, rest) ← value (2 * rest.length + 2) 0 rest
  return (.entry path name v, ← endOfLine rest)

/-- A header behind its first bracket, up to the end of the line. -/
def headerStatement (t : Text) : Option (Statement × Text) :=
  match t with
  | '[' :: rest => do
      let ((path, name), rest) ← key rest
      let rest ← expect ']' (← expect ']' rest)
      return (.element path name, ← endOfLine rest)
  | rest => do
      let ((path, name), rest) ← key rest
      let rest ← expect ']' rest
      return (.table path name, ← endOfLine rest)

/-- The statements of a text, of which every step reads at least one character. -/
def statements : Nat → Text → Option (List Statement)
  | 0, t => if t = [] then some [] else none
  | fuel + 1, t =>
      match skipBlanks t with
      | [] => some []
      | '[' :: rest => do
          let (statement, rest) ← headerStatement rest
          return statement :: (← statements fuel rest)
      | '#' :: rest => do statements fuel (← endOfLine ('#' :: rest))
      | '\n' :: rest => statements fuel rest
      | '\r' :: rest => do statements fuel (← endOfLine ('\r' :: rest))
      | t => do
          let (statement, rest) ← entryStatement t
          return statement :: (← statements fuel rest)

end Toml
end TypedRoutes
