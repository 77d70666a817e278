namespace TypedRoutes

/-!
# Quiet periods

One edit of a file often shows as several changes in a row.  A debounce collapses such a burst: it
releases once, when no change has come for a given time.  Times are nanoseconds on a clock that
never goes back, and the clock is the caller's.
-/

/-- A burst of changes that waits for quiet. -/
structure Debounce where
  /-- How long it must be quiet. -/
  quiet : Nat
  /-- The latest change that has not been released. -/
  latest : Option Nat := none
deriving DecidableEq, Repr

namespace Debounce

def nanosPerMilli : Nat := 1000000

/-- Quiet for a number of milliseconds, with no change yet. -/
def ofMillis (millis : Nat) : Debounce := { quiet := millis * nanosPerMilli }

/-- A change at some time starts the quiet period anew. -/
def record (now : Nat) (debounce : Debounce) : Debounce := { debounce with latest := some now }

/-- Whether there is a burst to release at some time, and the debounce without it. -/
def release (now : Nat) (debounce : Debounce) : Bool × Debounce :=
  match debounce.latest with
  | some latest =>
      if debounce.quiet ≤ now - latest then (true, { debounce with latest := none })
      else (false, debounce)
  | none => (false, debounce)

/-- How often to ask for a release: twice in a quiet period, but not more often than every ten
milliseconds. -/
def pollInterval (debounce : Debounce) : Nat := max (debounce.quiet / 2) (10 * nanosPerMilli)

end Debounce
end TypedRoutes
