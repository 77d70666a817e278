import TypedRoutes.Watch.Batch
import TypedRoutes.Watch.Notice

namespace TypedRoutes

/-!
# Sessions

A session keeps the output of a project in step with its configuration.  Changes are sent to its
queue.  In a turn the session does the next thing there is to do: with nothing in hand it takes all
that waits as one batch, adopts the batch's snapshot and, if output has to be made again, has a pass
in hand; with a pass in hand it runs it.  So passes never overlap, and changes that come during a
pass wait for its end.  A pass that failed leaves the output stale, and then the next snapshot is
worth a pass whatever changed.

A session ends when it is asked to close, leaving behind what waits, or when no more changes can come
and none waits.  Both count only between passes.  At the end the source of changes is closed.
-/

inductive Phase where
  | idle
  | generating
  | closed
deriving DecidableEq, Repr

structure Counters where
  /-- Changes taken. -/
  events : Nat := 0
  /-- Passes that succeeded, the first one included. -/
  passes : Nat := 0
  /-- Changes that were failures, and passes that failed. -/
  failures : Nat := 0
deriving DecidableEq, Repr

structure Session where
  target : Target
  /-- The snapshot adopted last. -/
  current : Snapshot
  /-- Whether the last pass failed. -/
  stale : Bool := false
  phase : Phase := .idle
  counters : Counters := {}
  /-- The changes that wait. -/
  queue : List Change := []
  /-- Whether no more changes can come. -/
  ended : Bool := false
  /-- Whether the session was asked to close. -/
  closing : Bool := false
  /-- How often the source of changes was closed. -/
  sourceCloses : Nat := 0
  /-- All notices, in order. -/
  log : List Notice := []

namespace Session

/-! ## What others do to a session -/

def accepts (session : Session) : Bool := !session.ended && session.phase != .closed

def send (change : Change) (session : Session) : Session :=
  if session.accepts then { session with queue := session.queue ++ [change] } else session

def endStream (session : Session) : Session := { session with ended := true }

def close (session : Session) : Session := { session with closing := true }

/-! ## What a session does -/

def passSucceeded (notice : Notice) (session : Session) : Session :=
  { session with
    stale := false
    phase := .idle
    counters := { session.counters with passes := session.counters.passes + 1 }
    log := session.log ++ [notice] }

def passFailed (error : PassError) (session : Session) : Session :=
  { session with
    stale := true
    phase := .idle
    counters := { session.counters with failures := session.counters.failures + 1 }
    log := session.log ++ [Notice.passFailed error] }

/-- Adopt a snapshot, and take a pass in hand if it is worth one. -/
def adopt (reload : Reload) (session : Session) : Session :=
  { session with
    current := reload.snapshot
    phase := if reload.isRelevant || session.stale then .generating else .idle }

/-- Count a batch and report its failures. -/
def acknowledge (batch : List Change) (session : Session) : Session :=
  { session with
    counters :=
      { session.counters with
        events := session.counters.events + batch.length
        failures := session.counters.failures + (Batch.failures batch).length }
    log := session.log ++ (Batch.failures batch).map Notice.reloadFailed }

/-- Take all that waits as one batch. -/
def drain (session : Session) : Session :=
  let taken := { session with queue := [] }.acknowledge session.queue
  match Batch.reload session.queue with
  | some reload => taken.adopt reload
  | none => taken

def stop (session : Session) : Session :=
  { session with phase := .closed, sourceCloses := session.sourceCloses + 1 }

variable {m : Type → Type} [Monad m] [FileSystem m]

def pass (session : Session) : m Session := do
  match ← Pass.run session.target session.current with
  | .ok summary => return session.passSucceeded (.regenerated summary)
  | .error error => return session.passFailed error

/-- Do the next thing there is to do. -/
def turn (session : Session) : m Session := do
  match session.phase with
  | .closed => return session
  | .generating => session.pass
  | .idle =>
      if session.closing then return session.stop
      else if session.queue.isEmpty then
        if session.ended then return session.stop else return session
      else return session.drain

/-- Do all there is to do: at most, take a batch, run its pass, and end. -/
def settle (session : Session) : m Session := do
  let session ← session.turn
  let session ← session.turn
  session.turn

/-! ## Starting -/

/-- Why there is no session, and how often the source of changes was closed on the way. -/
structure StartFailure where
  error : WatchError
  sourceCloses : Nat

/-- Start a session from the first load of the configuration and the outcome of subscribing to its
changes.  The first pass must succeed; if it does not, the subscription is closed again. -/
def start (target : Target) (loaded : Except LoadError Snapshot)
    (subscribed : Except WatchError Unit) : m (Except StartFailure Session) := do
  match loaded with
  | .error error => return .error ⟨.config error, 0⟩
  | .ok snapshot =>
      match subscribed with
      | .error error => return .error ⟨error, 0⟩
      | .ok () =>
          match ← Pass.run target snapshot with
          | .error error => return .error ⟨.pass error, 1⟩
          | .ok summary =>
              let session : Session := { target, current := snapshot }
              return .ok (session.passSucceeded (.generated summary))

end Session
end TypedRoutes
