import TypedRoutes.Path.Basic

namespace TypedRoutes

/-!
# Faults of a file system

Why a request to a file system fails.  The wording, with its number, is the one that the system
gives to the user.
-/

/-- Why a request fails. -/
inductive Fault where
  | nulInName
  | notFound
  | busy
  | alreadyExists
  | notDirectory
  | isDirectory
  | invalidArgument
  | nameTooLong
  | notEmpty
  /-- Anything else that a machine reports, in its own words. -/
  | other (words : Text)
deriving DecidableEq, Repr

namespace Fault

def message : Fault → Text
  | .nulInName => "file name contained an unexpected NUL byte"
  | .notFound => "No such file or directory (os error 2)"
  | .busy => "Device or resource busy (os error 16)"
  | .alreadyExists => "File exists (os error 17)"
  | .notDirectory => "Not a directory (os error 20)"
  | .isDirectory => "Is a directory (os error 21)"
  | .invalidArgument => "Invalid argument (os error 22)"
  | .nameTooLong => "File name too long (os error 36)"
  | .notEmpty => "Directory not empty (os error 39)"
  | .other words => words

end Fault
end TypedRoutes
