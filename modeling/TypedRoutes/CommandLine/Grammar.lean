import TypedRoutes.Text.Basic

namespace TypedRoutes

/-!
# The grammar of the command line

A command line names a command.  What else it may hold depends on where it stands: in front of the
command there is one level of grammar, and behind it the command's own.  A level lists the options it
knows, by long name and by letter, and the arguments that need no name, in order.
-/

namespace CommandLine

/-- The commands that do something. -/
inductive CommandName where
  | init
  | typegen
  | config
deriving DecidableEq, Repr

/-- What a command line can set. -/
inductive Slot where
  | config
  | root
  | mode
  | watch
  | force
deriving DecidableEq, Repr

/-- Whether a slot is set to a value; else naming it sets it. -/
def Slot.takesValue : Slot → Bool
  | .config | .root | .mode => true
  | .watch | .force => false

/-- Whether a slot holds a path, which cannot be empty. -/
def Slot.isPath : Slot → Bool
  | .config | .root => true
  | .mode | .watch | .force => false

/-- What an option asks for. -/
inductive Switch where
  | set (slot : Slot)
  | help
  | version
deriving DecidableEq, Repr

/-- What a command line may hold at one level. -/
structure Level where
  long : List (Text × Switch)
  short : List (Char × Switch)
  /-- The slots of arguments without a name. -/
  positional : List Slot := []
  /-- The names that end this level, if any do. -/
  commands : List (Text × CommandName) := []

namespace Level

/-- The word that asks for help on the commands that follow it. -/
def helpWord : Text := "help"

def everywhereLong : List (Text × Switch) := [("config", .set .config), ("help", .help)]

def everywhereShort : List (Char × Switch) := [('c', .set .config), ('h', .help)]

/-- In front of the command. -/
def outer : Level where
  long := ("version", .version) :: everywhereLong
  short := ('V', .version) :: everywhereShort
  commands := [("init", .init), ("typegen", .typegen), ("config", .config)]

def of : CommandName → Level
  | .init =>
      { long := ("force", .set .force) :: everywhereLong
        short := ('f', .set .force) :: everywhereShort
        positional := [.root] }
  | .typegen =>
      { long := ("mode", .set .mode) :: ("watch", .set .watch) :: everywhereLong
        short := ('w', .set .watch) :: everywhereShort
        positional := [.root] }
  | .config =>
      { long := everywhereLong, short := everywhereShort, positional := [.root] }

end Level

/-! ## Words -/

/-- What a word of a command line looks like. -/
inductive Shape where
  /-- The word that says that no options follow. -/
  | endOfOptions
  | long (name : Text) (value : Option Text)
  | letters (first : Char) (rest : Text)
  | plain
deriving DecidableEq, Repr

/-- The shape of a word.  A dash alone is a plain word. -/
def Shape.ofWord : Text → Shape
  | ['-', '-'] => .endOfOptions
  | '-' :: '-' :: rest =>
      match rest.span (· ≠ '=') with
      | (name, '=' :: value) => .long name (some value)
      | (name, _) => .long name none
  | '-' :: first :: rest => .letters first rest
  | _ => .plain

end CommandLine
end TypedRoutes
