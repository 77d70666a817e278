import TypedRoutes.Proofs.Output.Plan
import TypedRoutes.Proofs.Watch.Gathering

namespace TypedRoutes

/-!
# Traces of a session

A session, the others who act on it and those who change the file system all go on at once.  What
happens is written down in order as a trace: the changes that the queue accepted, the batches that were
taken, the passes that were made and how they ended, and the end of the session.  The steps of a run
take a batch change by change, and they are exactly what the program can do, which drains its queue at
once.  A property of the trace and the session holds all along as soon as it survives each thing that
can happen.
-/

namespace Session

variable {σ : Type} [FileSystem (StateM σ)] {session : Session} {state : σ}

/-! ## Traces -/

inductive Event where
  /-- The queue has accepted a change. -/
  | sent (change : Change)
  /-- The session has taken a batch. -/
  | batch (changes : List Change)
  /-- The session has made a pass. -/
  | pass (answer : Except PassError Pass.Summary)
  /-- The session has ended. -/
  | stopped
  /-- Others have changed the file system. -/
  | elsewhere

namespace Event

@[simp] def sent? : Event → Option Change
  | sent change => some change
  | _ => none

@[simp] def taken : Event → List Change
  | batch changes => changes
  | _ => []

@[simp] def answer? : Event → Option (Except PassError Pass.Summary)
  | pass answer => some answer
  | _ => none

@[simp] def isEnd : Event → Bool
  | stopped => true
  | _ => false

/-- Whether it is the session that has done something. -/
@[simp] def isWork : Event → Bool
  | batch _ | pass _ | stopped => true
  | sent _ | elsewhere => false

end Event

namespace Trace

/-- The changes that the queue has accepted. -/
def accepted (trace : List Event) : List Change := trace.filterMap Event.sent?

/-- The changes that were taken. -/
def consumed (trace : List Event) : List Change := trace.flatMap Event.taken

/-- How the passes ended. -/
def answers (trace : List Event) : List (Except PassError Pass.Summary) :=
  trace.filterMap Event.answer?

/-- What the session has done. -/
def work (trace : List Event) : List Event := trace.filter Event.isWork

variable (trace more : List Event) (event : Event) (changes : List Change)

@[simp] theorem accepted_append : accepted (trace ++ more) = accepted trace ++ accepted more :=
  List.filterMap_append

@[simp] theorem consumed_append : consumed (trace ++ more) = consumed trace ++ consumed more :=
  List.flatMap_append

@[simp] theorem answers_append : answers (trace ++ more) = answers trace ++ answers more :=
  List.filterMap_append

@[simp] theorem work_append : work (trace ++ more) = work trace ++ work more :=
  List.filter_append trace more

@[simp] theorem accepted_sent : accepted (changes.map .sent) = changes := by
  simp [accepted, Function.comp_def]

@[simp] theorem consumed_sent : consumed (changes.map .sent) = [] := by
  simp [consumed]

@[simp] theorem answers_sent : answers (changes.map .sent) = [] := by
  simp [answers]

@[simp] theorem work_sent : work (changes.map .sent) = [] := by
  simp [work]

@[simp] theorem accepted_singleton : accepted [event] = event.sent?.toList := by
  cases event <;> rfl

@[simp] theorem consumed_singleton : consumed [event] = event.taken :=
  List.append_nil _

@[simp] theorem answers_singleton : answers [event] = event.answer?.toList := by
  cases event <;> rfl

@[simp] theorem work_singleton : work [event] = if event.isWork then [event] else [] := by
  cases event <;> rfl

end Trace

/-! ## Steps -/

/-- One step of a session and its surroundings, with what it adds to the trace. -/
inductive Step : Session × σ → List Event → Session × σ → Prop where
  | act (session : Session) (state : σ) (act : Act) :
      Step (session, state) ((session.accepted act).map .sent) (session.undergo act, state)
  | elsewhere (session : Session) (state other : σ) :
      Step (session, state) [.elsewhere] (session, other)
  /-- The session takes a batch, while others act on it. -/
  | gathers {session later : Session} (state : σ) {acts : List Act} {changes : List Change}
      (idle : session.phase = .idle) (unasked : session.closing = false)
      (waiting : session.queue ≠ []) (gathers : Gathers session none acts changes later) :
      Step (session, state) ((session.acceptedAll acts).map .sent ++ [.batch changes]) (later, state)
  | passes {session : Session} (state : σ) (generating : session.phase = .generating) :
      Step (session, state)
        [.pass (Pass.run (m := StateM σ) session.target session.current state).1]
        (session.turn (m := StateM σ) state)
  | stops {session : Session} (state : σ) (idle : session.phase = .idle) (isOver : session.IsOver) :
      Step (session, state) [.stopped] (session.turn (m := StateM σ) state)
  | rests {session : Session} (state : σ) (rests : session.Rests) :
      Step (session, state) [] (session.turn (m := StateM σ) state)

/-- The steps from a start, with their trace. -/
inductive Run (start : Session × σ) : List Event → Session × σ → Prop where
  | start : Run start [] start
  | step {events more : List Event} {now later : Session × σ} (run : Run start events now)
      (step : Step now more later) : Run start (events ++ more) later

namespace Run

variable {start : Session × σ} {events : List Event}

theorem act (run : Run start events (session, state)) (act : Act) :
    Run start (events ++ (session.accepted act).map .sent) (session.undergo act, state) :=
  run.step (.act session state act)

/-- The session takes its queue as a batch. -/
theorem drain (run : Run start events (session, state)) (idle : session.phase = .idle)
    (unasked : session.closing = false) (waiting : session.queue ≠ []) :
    Run start (events ++ [.batch session.queue]) (session.drain, state) :=
  run.step (.gathers state idle unasked waiting (gathers_drain session))

/-- A run goes on with what is a run from where it has come to. -/
theorem append {more : List Event} {now later : Session × σ} (run : Run start events now)
    (goesOn : Run now more later) : Run start (events ++ more) later := by
  induction goesOn with
  | start => simpa using run
  | step _ step ih =>
      rw [← List.append_assoc]
      exact ih.step step

end Run

/-! ## The program -/

/-- What a turn adds to the trace. -/
def deeds (session : Session) (state : σ) : List Event :=
  match session.phase with
  | .closed => []
  | .generating => [.pass (Pass.run (m := StateM σ) session.target session.current state).1]
  | .idle =>
      if session.closing then [.stopped]
      else if session.queue.isEmpty then if session.ended then [.stopped] else []
      else [.batch session.queue]

/-- What can happen next where the program is at work, with what it adds to the trace. -/
inductive Move (now : Session × σ) : List Event → Session × σ → Prop where
  | act (act : Act) : Move now ((now.1.accepted act).map .sent) (now.1.undergo act, now.2)
  | elsewhere (other : σ) : Move now [.elsewhere] (now.1, other)
  | turn : Move now (now.1.deeds now.2) (now.1.turn (m := StateM σ) now.2)
  /-- Others act during a turn that takes a batch, and what they send goes with the batch. -/
  | drain (acts : List Act) (idle : now.1.phase = .idle) (unasked : now.1.closing = false)
      (waiting : now.1.queue ≠ []) :
      Move now ((now.1.acceptedAll acts).map .sent ++ [.batch (acts.foldl undergo now.1).queue])
        ((acts.foldl undergo now.1).drain, now.2)

theorem deeds_of_generating (state : σ) (generating : session.phase = .generating) :
    session.deeds state =
      [.pass (Pass.run (m := StateM σ) session.target session.current state).1] := by
  simp only [deeds, generating]

theorem deeds_of_over (state : σ) (idle : session.phase = .idle) (isOver : session.IsOver) :
    session.deeds state = [.stopped] := by
  rcases isOver with asked | ⟨nothing, ended⟩
  · simp [deeds, idle, asked]
  · simp [deeds, idle, nothing, ended]

theorem deeds_of_rests (state : σ) (rests : session.Rests) : session.deeds state = [] := by
  rcases rests with closed | ⟨idle, unasked, nothing, goesOn⟩
  · simp only [deeds, closed]
  · simp [deeds, idle, unasked, nothing, goesOn]

theorem deeds_of_waiting (state : σ) (idle : session.phase = .idle)
    (unasked : session.closing = false) (waiting : session.queue ≠ []) :
    session.deeds state = [.batch session.queue] := by
  simp [deeds, idle, unasked, waiting]

/-- Whatever a session does in a turn is a step. -/
theorem step_turn (session : Session) (state : σ) :
    Step (session, state) (session.deeds state) (session.turn (m := StateM σ) state) := by
  cases phase : session.phase with
  | closed =>
      rw [deeds_of_rests state (.inl phase)]
      exact .rests state (.inl phase)
  | generating =>
      rw [deeds_of_generating state phase]
      exact .passes state phase
  | idle =>
      by_cases isOver : session.IsOver
      · rw [deeds_of_over state phase isOver]
        exact .stops state phase isOver
      · rw [IsOver, not_or, Bool.not_eq_true, not_and, Bool.not_eq_true] at isOver
        rcases isOver with ⟨unasked, goesOn⟩
        by_cases waiting : session.queue = []
        · have rests : session.Rests := .inr ⟨phase, unasked, waiting, goesOn waiting⟩
          rw [deeds_of_rests state rests]
          exact .rests state rests
        · rw [deeds_of_waiting state phase unasked waiting,
            turn_of_waiting state phase unasked waiting]
          exact .gathers state phase unasked waiting (gathers_drain session)

/-- The steps are the moves of the program: a batch that is taken change by change is one that is
drained at once. -/
theorem step_iff_move {now next : Session × σ} {events : List Event} :
    Step now events next ↔ Move now events next := by
  constructor
  · intro step
    cases step with
    | act session state act => exact .act act
    | elsewhere session state other => exact .elsewhere other
    | gathers state idle unasked waiting gathers =>
        rcases gathers.eq_drain with ⟨rfl, rfl⟩
        exact .drain _ idle unasked waiting
    | @passes session state generating =>
        rw [← deeds_of_generating state generating]
        exact .turn
    | @stops session state idle isOver =>
        rw [← deeds_of_over state idle isOver]
        exact .turn
    | @rests session state rests =>
        rw [← deeds_of_rests state rests]
        exact .turn
  · intro move
    cases move with
    | act act => exact .act now.1 now.2 act
    | elsewhere other => exact .elsewhere now.1 now.2 other
    | turn => exact step_turn now.1 now.2
    | drain acts idle unasked waiting =>
        exact .gathers now.2 idle unasked waiting (gathers_foldl_undergo now.1 acts)

/-- Where a run has come to, the program is at work: it can take its next turn, and whatever can come
next is one of its moves. -/
structure IsAtWork (start : Session × σ) (trace : List Event) (now : Session × σ) : Prop where
  turn : Run start (trace ++ now.1.deeds now.2) (now.1.turn (m := StateM σ) now.2)
  moves : ∀ {events next}, Step now events next ↔ Move now events next

theorem Run.isAtWork {start now : Session × σ} {trace : List Event} (run : Run start trace now) :
    IsAtWork start trace now :=
  ⟨run.step (step_turn now.1 now.2), step_iff_move⟩

/-! ## Invariants -/

/-- A property of the trace, the session and the file system that survives whatever happens. -/
structure Invariant (Holds : List Event → Session → σ → Prop) : Prop where
  act : ∀ {events : List Event} {session : Session} {state : σ}, Holds events session state →
    ∀ act, Holds (events ++ (session.accepted act).map .sent) (session.undergo act) state
  elsewhere : ∀ {events : List Event} {session : Session} {state : σ}, Holds events session state →
    ∀ other, Holds (events ++ [.elsewhere]) session other
  drain : ∀ {events : List Event} {session : Session} {state : σ}, Holds events session state →
    session.phase = .idle → Holds (events ++ [.batch session.queue]) session.drain state
  pass : ∀ {events : List Event} {session : Session} {state : σ}, Holds events session state →
    session.phase = .generating → ∀ {answer after},
    Pass.run (m := StateM σ) session.target session.current state = (answer, after) →
    Holds (events ++ [.pass answer]) (session.passed answer) after
  stop : ∀ {events : List Event} {session : Session} {state : σ}, Holds events session state →
    session.phase = .idle → session.IsOver → Holds (events ++ [.stopped]) session.stop state

namespace Invariant

variable {Holds : List Event → Session → σ → Prop} {events more : List Event}
  {start now later : Session × σ}

theorem acts (invariant : Invariant Holds) (holds : Holds events session state) (acts : List Act) :
    Holds (events ++ (session.acceptedAll acts).map .sent) (acts.foldl undergo session) state := by
  induction acts generalizing events session with
  | nil => simpa [acceptedAll] using holds
  | cons act acts ih =>
      rw [acceptedAll, List.map_append, ← List.append_assoc]
      exact ih (invariant.act holds act)

theorem step (invariant : Invariant Holds) (holds : Holds events now.1 now.2)
    (step : Step now more later) : Holds (events ++ more) later.1 later.2 := by
  cases step with
  | act session state act => exact invariant.act holds act
  | elsewhere session state other => exact invariant.elsewhere holds other
  | @gathers session later state acts changes idle unasked waiting gathers =>
      rcases gathers.eq_drain with ⟨rfl, rfl⟩
      rcases foldl_undergo_eq session acts with ⟨_, _, same, -⟩
      rw [← List.append_assoc]
      exact invariant.drain (invariant.acts holds acts) (by rw [same, idle])
  | passes state generating =>
      rw [turn_of_generating state generating]
      exact invariant.pass holds generating rfl
  | stops state idle isOver =>
      rw [turn_of_over state idle isOver]
      exact invariant.stop holds idle isOver
  | rests state rests =>
      rw [turn_of_rests state rests, List.append_nil]
      exact holds

/-- What holds at the start and survives every step holds all along. -/
theorem run (invariant : Invariant Holds) (run : Run start events now)
    (initially : Holds [] start.1 start.2) : Holds events now.1 now.2 := by
  induction run with
  | start => exact initially
  | step _ step ih => exact invariant.step ih step

end Invariant

/-! ## A small session -/

/-- The session of the small project right after its start. -/
def small (summary : Pass.Summary) : Session :=
  passSucceeded (.generated summary) { target := .small, current := .rootOnly ['a'] }

theorem exists_start_small :
    ∃ summary after, start (m := StateM Disk) .small (.ok (.rootOnly ['a'])) (.ok ()) .small =
      (.ok (small summary), after) :=
  ⟨_, _, rfl⟩

end Session
end TypedRoutes
