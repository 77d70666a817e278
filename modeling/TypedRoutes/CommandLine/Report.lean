import TypedRoutes.CommandLine.Reading

namespace TypedRoutes

/-!
# Reports

What a run prints and the code it exits with: 0 for success, 1 for a failure and 2 for a command line
that cannot be followed.  Help and the version are asked for, and so count as success.
-/

namespace CommandLine

structure Report where
  code : Nat := 0
  output : Text := []
  errors : Text := []
deriving DecidableEq, Repr

namespace Report

def failure (errors : Text) : Report := { code := 1, errors }

/-- The report with warnings in front of its errors. -/
def warning (warnings : Text) (report : Report) : Report :=
  { report with errors := warnings ++ report.errors }

end Report

namespace Refusal

def usage : Text :=
  "Usage: route-typegen [-c PATH] COMMAND\n\n"
    ++ "Commands:\n"
    ++ "  init [ROOT] [-f]                 Create typegen.toml and a starter route config\n"
    ++ "  typegen [ROOT] [--mode M] [-w]   Generate route type declarations\n"
    ++ "  config [ROOT]                    Display active settings\n"
    ++ "  help [COMMAND]                   Print this message\n\n"
    ++ "Options:\n"
    ++ "  -c, --config PATH   Path to a custom typegen.toml file\n"
    ++ "  -h, --help          Print help\n"
    ++ "  -V, --version       Print version\n"

def versionLine : Text := "route-typegen 0.3.2\n"

def slotName : Slot → Text
  | .config => "--config"
  | .root => "[ROOT]"
  | .mode => "--mode"
  | .watch => "--watch"
  | .force => "--force"

def complaint : Refusal → Text
  | .help | .version | .nothing => []
  | .noCommand => "a command is missing"
  | .unknownCommand word => "unrecognized command '" ++ word ++ "'"
  | .unknownArgument word => "unexpected argument '" ++ word ++ "'"
  | .badValue slot => "a value is required for '" ++ slotName slot ++ "'"
  | .repeated slot => "the argument '" ++ slotName slot ++ "' cannot be used multiple times"
  | .needlessValue name => "unexpected value for '--" ++ name ++ "'"

/-- The report on a command line that is not followed. -/
def report : Refusal → Report
  | .help => { output := usage }
  | .version => { output := versionLine }
  | .nothing => { code := 2, errors := usage }
  | refusal => { code := 2, errors := "error: " ++ complaint refusal ++ "\n\n" ++ usage }

end Refusal
end CommandLine
end TypedRoutes
