import TypedRoutes.Proofs.Disk.Program
import TypedRoutes.Watch.Session

namespace TypedRoutes

/-!
# Turns of a session

What a session can do in one turn, case by case, on any file system; and what taking a batch and making
a pass change about it.
-/

namespace Session

variable {session : Session}

/-! ## Taking a batch -/

@[simp] theorem target_drain : session.drain.target = session.target := by
  unfold drain
  cases Batch.reload session.queue <;> rfl

@[simp] theorem queue_drain : session.drain.queue = [] := by
  unfold drain
  cases Batch.reload session.queue <;> rfl

@[simp] theorem stale_drain : session.drain.stale = session.stale := by
  unfold drain
  cases Batch.reload session.queue <;> rfl

@[simp] theorem ended_drain : session.drain.ended = session.ended := by
  unfold drain
  cases Batch.reload session.queue <;> rfl

@[simp] theorem sourceCloses_drain : session.drain.sourceCloses = session.sourceCloses := by
  unfold drain
  cases Batch.reload session.queue <;> rfl

theorem counters_drain : session.drain.counters = (session.acknowledge session.queue).counters := by
  unfold drain
  cases Batch.reload session.queue <;> rfl

theorem log_drain : session.drain.log = (session.acknowledge session.queue).log := by
  unfold drain
  cases Batch.reload session.queue <;> rfl

theorem current_drain_of_none (none : Batch.reload session.queue = none) :
    session.drain.current = session.current := by
  simp only [drain, none]
  rfl

theorem current_drain_of_some {reload : Reload} (some : Batch.reload session.queue = some reload) :
    session.drain.current = reload.snapshot := by
  simp only [drain, some]
  rfl

/-- A batch ends with a pass in hand, unless nothing that it brought is worth one. -/
theorem phase_drain_of_some {reload : Reload} (some : Batch.reload session.queue = some reload) :
    session.drain.phase =
      if reload.isRelevant || session.stale then .generating else .idle := by
  simp only [drain, some]
  rfl

theorem phase_drain_ne_closed (idle : session.phase = .idle) : session.drain.phase ≠ .closed := by
  cases reload : Batch.reload session.queue with
  | none =>
      simp only [drain, reload]
      exact idle ▸ by decide
  | some reload =>
      rw [phase_drain_of_some reload]
      split <;> decide

theorem accepts_drain (idle : session.phase = .idle) : session.drain.accepts = session.accepts := by
  rw [accepts, accepts, ended_drain, bne_iff_ne.2 (phase_drain_ne_closed idle), idle]
  rfl

/-! ## After a pass -/

/-- The session after a pass that ended in an answer. -/
def passed (session : Session) : Except PassError Pass.Summary → Session
  | .ok summary => session.passSucceeded (.regenerated summary)
  | .error error => session.passFailed error

section Passed

variable (session : Session) (answer : Except PassError Pass.Summary)

@[simp] theorem target_passed : (session.passed answer).target = session.target := by
  cases answer <;> rfl

@[simp] theorem current_passed : (session.passed answer).current = session.current := by
  cases answer <;> rfl

@[simp] theorem phase_passed : (session.passed answer).phase = .idle := by
  cases answer <;> rfl

@[simp] theorem queue_passed : (session.passed answer).queue = session.queue := by
  cases answer <;> rfl

@[simp] theorem closing_passed : (session.passed answer).closing = session.closing := by
  cases answer <;> rfl

@[simp] theorem sourceCloses_passed : (session.passed answer).sourceCloses = session.sourceCloses := by
  cases answer <;> rfl

end Passed

/-! ## Turns -/

section Turn

variable {σ : Type} [FileSystem (StateM σ)] (state : σ)

/-- A session with nothing in hand is over when it was asked to close, or when nothing waits and
nothing can come. -/
def IsOver (session : Session) : Prop :=
  session.closing = true ∨ session.queue = [] ∧ session.ended = true

/-- A session has nothing to do once it is closed, and while it waits for a change. -/
def Rests (session : Session) : Prop :=
  session.phase = .closed ∨ session.phase = .idle ∧ session.closing = false ∧
    session.queue = [] ∧ session.ended = false

theorem turn_of_rests (rests : session.Rests) :
    session.turn (m := StateM σ) state = (session, state) := by
  unfold turn
  rcases rests with closed | ⟨idle, unasked, empty, goesOn⟩
  · simp only [closed]
    rfl
  · simp only [idle, unasked, empty, goesOn, List.isEmpty_nil, if_true, Bool.false_eq_true, if_false]
    rfl

theorem turn_of_over (idle : session.phase = .idle) (isOver : session.IsOver) :
    session.turn (m := StateM σ) state = (session.stop, state) := by
  unfold turn
  simp only [idle]
  cases asked : session.closing with
  | true => rfl
  | false =>
      rcases isOver with closing | ⟨empty, ended⟩
      · rw [asked] at closing
        cases closing
      · simp only [empty, ended, List.isEmpty_nil, if_true, Bool.false_eq_true, if_false]
        rfl

theorem turn_of_waiting (idle : session.phase = .idle)
    (unasked : session.closing = false) (waiting : session.queue ≠ []) :
    session.turn (m := StateM σ) state = (session.drain, state) := by
  unfold turn
  simp only [idle, unasked, List.isEmpty_eq_false_iff.2 waiting, Bool.false_eq_true, if_false]
  rfl

theorem turn_of_generating (generating : session.phase = .generating) :
    session.turn (m := StateM σ) state =
      (session.passed (Pass.run (m := StateM σ) session.target session.current state).1,
        (Pass.run (m := StateM σ) session.target session.current state).2) := by
  unfold turn
  simp only [generating]
  rw [pass, FileSystem.bind_run]
  rcases Pass.run (m := StateM σ) session.target session.current state with ⟨answer, after⟩
  cases answer <;> rfl

end Turn

/-- What a session does in a turn. -/
inductive Turned {σ : Type} [FileSystem (StateM σ)] (session : Session) (state : σ) :
    Session × σ → Prop where
  | waits (resting : session.phase ≠ .generating) : Turned session state (session, state)
  | stops (idle : session.phase = .idle) : Turned session state (session.stop, state)
  | drains (idle : session.phase = .idle) : Turned session state (session.drain, state)
  | succeeds (generating : session.phase = .generating) {summary : Pass.Summary} {after : σ}
      (passed : Pass.run (m := StateM σ) session.target session.current state =
        (.ok summary, after)) :
      Turned session state (session.passSucceeded (.regenerated summary), after)
  | fails (generating : session.phase = .generating) {error : PassError} {after : σ}
      (failed : Pass.run (m := StateM σ) session.target session.current state =
        (.error error, after)) :
      Turned session state (session.passFailed error, after)

theorem turned {σ : Type} [FileSystem (StateM σ)] (session : Session) (state : σ) :
    Turned session state (session.turn (m := StateM σ) state) := by
  unfold turn
  cases phase : session.phase with
  | closed => exact .waits (by rw [phase]; decide)
  | generating =>
      simp only
      rw [pass, FileSystem.bind_run]
      generalize passed : Pass.run (m := StateM σ) session.target session.current state = result
      rcases result with ⟨answer, after⟩
      cases answer with
      | ok summary => exact .succeeds phase passed
      | error error => exact .fails phase passed
  | idle =>
      simp only
      split
      · exact .stops phase
      · split
        · split
          · exact .stops phase
          · exact .waits (by rw [phase]; decide)
        · exact .drains phase

/-! ## Starting -/

/-- A session that has started has loaded a configuration and has made a first pass. -/
theorem start_eq_ok {σ : Type} [FileSystem (StateM σ)] {target : Target}
    {loaded : Except LoadError Snapshot} {subscribed : Except WatchError Unit} {before after : σ}
    (started : start (m := StateM σ) target loaded subscribed before = (.ok session, after)) :
    ∃ snapshot summary, loaded = .ok snapshot ∧
      Pass.run (m := StateM σ) target snapshot before = (.ok summary, after) ∧
      session = passSucceeded (.generated summary) { target, current := snapshot } := by
  unfold start at started
  cases loaded with
  | error error => cases started
  | ok snapshot =>
      cases subscribed with
      | error error => cases started
      | ok _ =>
          simp only [FileSystem.bind_run] at started
          generalize passed : Pass.run (m := StateM σ) target snapshot before = result at started
          rcases result with ⟨answer, last⟩
          cases answer with
          | error error => cases started
          | ok summary =>
              cases started
              exact ⟨snapshot, summary, rfl, passed, rfl⟩

end Session
end TypedRoutes
