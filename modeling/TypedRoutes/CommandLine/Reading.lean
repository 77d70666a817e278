import TypedRoutes.CommandLine.Grammar

namespace TypedRoutes

/-!
# Reading the words of a level

Words are read from left to right.  A value stays open until the next option, the next argument or
the end: only then is it checked that it is there, that its slot was not set before, and that it is
no empty path.  So of two mistakes the reader blames the one that it comes to first, and an unknown
option comes before what is wrong with an open value.
-/

namespace CommandLine

inductive Refusal where
  | help
  | version
  /-- The command line is empty. -/
  | nothing
  | noCommand
  | unknownCommand (word : Text)
  | unknownArgument (word : Text)
  | badValue (slot : Slot)
  | repeated (slot : Slot)
  | needlessValue (name : Text)
deriving DecidableEq, Repr

/-- What has been read at a level. -/
structure Progress where
  /-- The slots that are set; a slot without a value is set to nothing. -/
  set : List (Slot × Text) := []
  /-- A slot that was named last, with its value if that has come. -/
  pending : Option (Slot × Option Text) := none
  /-- Whether no options follow. -/
  argumentsOnly : Bool := false
  /-- The number of arguments without a name. -/
  arguments : Nat := 0
deriving DecidableEq, Repr

namespace Progress

/-- The slot that waits for the value that must come next. -/
def awaiting (progress : Progress) : Option Slot :=
  match progress.pending with
  | some (slot, none) => some slot
  | _ => none

def assign (progress : Progress) (slot : Slot) (value : Text) : Except Refusal Progress :=
  if (progress.set.lookup slot).isSome then .error (.repeated slot)
  else if slot.isPath && value.isEmpty then .error (.badValue slot)
  else .ok { progress with set := progress.set ++ [(slot, value)] }

/-- Set the slot that is still open. -/
def settle (progress : Progress) : Except Refusal Progress :=
  match progress.pending with
  | none => .ok progress
  | some (slot, none) => .error (.badValue slot)
  | some (slot, some value) => { progress with pending := none }.assign slot value

/-- Follow an option that has no value of its own attached. -/
def follow (progress : Progress) (switch : Switch) : Except Refusal Progress := do
  let settled ← progress.settle
  match switch with
  | .help => .error .help
  | .version => .error .version
  | .set slot =>
      if slot.takesValue then return { settled with pending := some (slot, none) }
      else settled.assign slot []

/-- Follow an option with a value attached. -/
def followWith (progress : Progress) (slot : Slot) (value : Text) : Except Refusal Progress := do
  let settled ← progress.settle
  settled.assign slot value

/-- The switch's slot, if it takes a value. -/
def valued? : Switch → Option Slot
  | .set slot => if slot.takesValue then some slot else none
  | _ => none

def readLong (level : Level) (progress : Progress) (name : Text) (value : Option Text) :
    Except Refusal Progress :=
  match level.long.lookup name with
  | none => .error (.unknownArgument name)
  | some switch =>
      match value with
      | none => progress.follow switch
      | some value =>
          match valued? switch with
          | some slot => progress.followWith slot value
          | none => .error (.needlessValue name)

/-- The value attached to a letter; a `=` before it does not count. -/
def attached : Text → Option Text
  | [] => none
  | '=' :: rest => some rest
  | rest => some rest

/-- Read options given by letters, of which the first that takes a value takes the rest. -/
def readLetters (level : Level) (progress : Progress) : List Char → Except Refusal Progress
  | [] => .ok progress
  | letter :: rest =>
      match level.short.lookup letter with
      | none => .error (.unknownArgument [letter])
      | some switch =>
          match valued? switch, attached rest with
          | some slot, some value => progress.followWith slot value
          | some _, none => progress.follow switch
          | none, _ =>
              match progress.follow switch with
              | .error refusal => .error refusal
              | .ok progress => readLetters level progress rest

/-- Read an argument without a name.  Where none is expected, what is wrong with an open value no
longer matters. -/
def readArgument (level : Level) (progress : Progress) (word : Text) : Except Refusal Progress :=
  match level.positional[progress.arguments]? with
  | some slot => do
      let settled ← progress.settle
      return { settled with
        pending := some (slot, some word), arguments := settled.arguments + 1 }
  | none =>
      if level.commands.isEmpty then .error (.unknownArgument word)
      else if progress.argumentsOnly
          && ((level.commands.lookup word).isSome || word = Level.helpWord) then
        .error (.unknownArgument word)
      else .error (.unknownCommand word)

/-- Read a word that is no option. -/
def readPlain (level : Level) (progress : Progress) (word : Text) : Except Refusal Progress :=
  match progress.awaiting with
  | some slot => .ok { progress with pending := some (slot, some word) }
  | none => progress.readArgument level word

def read (level : Level) (progress : Progress) (word : Text) : Except Refusal Progress :=
  if progress.argumentsOnly then progress.readArgument level word
  else
    match Shape.ofWord word with
    | .endOfOptions => .ok { progress with argumentsOnly := true }
    | .long name value => progress.readLong level name value
    | .letters first rest => progress.readLetters level (first :: rest)
    | .plain => progress.readPlain level word

end Progress

/-- How a level ends: the command that ends it and the words behind that. -/
abbrev Ending := Option (CommandName × List Text)

/-- What is answered to a plea for help on commands.  Commands have no commands of their own. -/
def helpOn (level : Level) : List Text → Refusal
  | [] => .help
  | word :: more =>
      if (level.commands.lookup word).isSome || word = Level.helpWord then
        match more with
        | [] => .help
        | next :: _ => .unknownCommand next
      else .unknownCommand word

/-- Whether a word is looked up among the commands. -/
def mayBeCommand (progress : Progress) : Bool :=
  !progress.argumentsOnly && progress.awaiting.isNone

/-- Read the words of a level, up to a command if the level has commands. -/
def readWords (level : Level) (progress : Progress) :
    List Text → Except Refusal (Progress × Ending)
  | [] => .ok (progress, none)
  | word :: rest =>
      match (if mayBeCommand progress then level.commands.lookup word else none) with
      | some command => .ok (progress, some (command, rest))
      | none =>
          if mayBeCommand progress && !level.commands.isEmpty && word = Level.helpWord then
            .error (helpOn level rest)
          else
            match progress.read level word with
            | .error refusal => .error refusal
            | .ok progress => readWords level progress rest

end CommandLine
end TypedRoutes
