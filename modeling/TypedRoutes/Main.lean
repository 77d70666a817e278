import Std.Time.Format
import TypedRoutes.CommandLine.Run
import TypedRoutes.Machine
import TypedRoutes.Watch.Debounce

/-!
# The program

The program runs its command line on the file system of the machine.  A watch goes on until the
program is interrupted: the route config is looked at again and again, and once it has changed and
been quiet, the change goes to the session.
-/

namespace TypedRoutes

/-- The variables that a block of `name=value` pieces sets. -/
def variablesOf (block : Text) : List (Text × Text) :=
  (Text.pieces '\x00' block).filterMap fun piece =>
    match piece.span (· ≠ '=') with
    | (name, '=' :: value) => some (name, value)
    | _ => none

def environmentVariables : IO (List (Text × Text)) := do
  let bytes ← IO.FS.readBinFile "/proc/self/environ"
  return variablesOf ((String.fromUTF8? bytes).getD "").toList

/-- Print a text without adding to it. -/
def printTo (stream : IO.FS.Stream) (text : Text) : IO Unit := do
  stream.putStr (String.ofList text)
  stream.flush

def printNotice (notice : Notice) : IO Unit := do
  let stream ← match notice.level with
    | .info => IO.getStdout
    | .error => IO.getStderr
  if notice.clear && (← stream.isTty) then printTo stream "\x1b[H\x1b[2J"
  let time ← Std.Time.PlainDateTime.now
  let stamp : Text := if notice.timestamp then time.format "HH:mm:ss " else ""
  printTo stream (stamp ++ notice.message ++ "\n")

/-- Print the notices of a session from a given one on. -/
def printNotices (session : Session) (printed : Nat) : IO Unit :=
  (session.log.drop printed).forM printNotice

/-- The text of the watched file, if there is one. -/
def watchedText (watch : CommandLine.Watch) : IO (Option Text) := do
  let text : Except Fault Text ← FileSystem.read watch.source.path
  return text.toOption

/-- Load the configuration again and let the session deal with what changed. -/
def reload (watch : CommandLine.Watch) : IO CommandLine.Watch := do
  let (change, source) ← watch.source.reload
  let session ← (watch.session.send change).settle
  printNotices session watch.session.log.length
  return { watch with session, source }

/-- Watch until the program is interrupted. -/
partial def watchOn (watch : CommandLine.Watch) (seen : Option Text) (debounce : Debounce) :
    IO Unit := do
  IO.sleep (.ofNat (debounce.pollInterval / Debounce.nanosPerMilli))
  let text ← watchedText watch
  let now ← IO.monoNanosNow
  let debounce := if text = seen then debounce else debounce.record now
  let (ready, debounce) := debounce.release now
  let watch ← if ready then reload watch else pure watch
  watchOn watch text debounce

/-- Carry out the end of a run. -/
def finish : CommandLine.Outcome → IO UInt32
  | .done report => do
      printTo (← IO.getStdout) report.output
      printTo (← IO.getStderr) report.errors
      return .ofNat report.code
  | .watching watch => do
      printNotices watch.session 0
      printTo (← IO.getStderr) watch.errors
      watchOn watch (← watchedText watch) (.ofMillis watch.quietMillis)
      return 0

end TypedRoutes

def main (words : List String) : IO UInt32 := do
  let environment ← TypedRoutes.environmentVariables
  let outcome ← TypedRoutes.CommandLine.run environment (words.map String.toList)
  TypedRoutes.finish outcome
