import TypedRoutes.Proofs.Watch.Trace

namespace TypedRoutes

/-!
# The account of a session

What a session says about itself is what has happened: its counters count the changes that were taken
and the passes that were made, and its notices tell of them one by one.  The work of a session falls
into rounds, a batch and then at most one pass; of a round the failures of the batch are told first,
in their order, and how the pass ended comes last.
-/

/-- The notice that tells how a pass of a session ended. -/
def Notice.ofAnswer : Except PassError Pass.Summary → Notice
  | .ok summary => .regenerated summary
  | .error error => .passFailed error

namespace Session

variable {session later : Session} {trace more : List Event}

/-! ## What a batch and a pass add -/

theorem log_passed (session : Session) (answer : Except PassError Pass.Summary) :
    (session.passed answer).log = session.log ++ [Notice.ofAnswer answer] := by
  cases answer <;> rfl

theorem counters_passed (session : Session) (answer : Except PassError Pass.Summary) :
    (session.passed answer).counters =
      { session.counters with
        passes := session.counters.passes + if answer.isOk then 1 else 0
        failures := session.counters.failures + if answer.isOk then 0 else 1 } := by
  cases answer <;> rfl

/-! ## Counters -/

/-- The counters and the notices of a session count what is in its trace. -/
structure Tallies (trace : List Event) (session : Session) : Prop where
  /-- The changes that were taken are the first that were accepted, and the others wait. -/
  consumed : Trace.accepted trace = Trace.consumed trace ++ session.queue
  events : session.counters.events = (Trace.consumed trace).length
  /-- The first pass is not in the trace. -/
  passes : session.counters.passes = 1 + (Trace.answers trace).countP (·.isOk)
  failures : session.counters.failures =
    (Batch.failures (Trace.consumed trace)).length + (Trace.answers trace).countP (!·.isOk)
  infos : session.log.countP (·.level = .info) = session.counters.passes
  errors : session.log.countP (·.level = .error) = session.counters.failures

/-- The failures of a batch are told as errors. -/
theorem countP_reloadFailed (level : Level) (reasons : List Text) :
    (reasons.map Notice.reloadFailed).countP (·.level = level) =
      if level = .error then reasons.length else 0 := by
  rw [List.countP_map]
  cases level with
  | info => exact List.countP_eq_zero.2 fun _ _ => by simp [Notice.reloadFailed]
  | error => exact List.countP_eq_length.2 fun _ _ => by simp [Notice.reloadFailed]

/-- What neither takes a change nor makes a pass leaves the account as it is. -/
theorem Tallies.append (tallies : Tallies trace session) (consumed : Trace.consumed more = [])
    (answers : Trace.answers more = []) (queue : later.queue = session.queue ++ Trace.accepted more)
    (counters : later.counters = session.counters) (log : later.log = session.log) :
    Tallies (trace ++ more) later := by
  refine ⟨?_, ?_, ?_, ?_, ?_, ?_⟩
  · simp [consumed, queue, tallies.consumed]
  · simp [consumed, counters, tallies.events]
  · simp [answers, counters, tallies.passes]
  · simp [consumed, answers, counters, tallies.failures]
  · rw [log, counters, tallies.infos]
  · rw [log, counters, tallies.errors]

variable {σ : Type} [FileSystem (StateM σ)]

theorem tallies_invariant : Invariant (σ := σ) fun trace session _ => Tallies trace session where
  act {trace session state} tallies act := by
    rcases undergo_eq session act with ⟨ended, closing, same, -⟩
    rw [same]
    exact tallies.append (by simp) (by simp) (by simp) rfl rfl
  elsewhere tallies _ := tallies.append rfl rfl (by simp) rfl rfl
  drain {trace session state} tallies idle := by
    refine ⟨?_, ?_, ?_, ?_, ?_, ?_⟩
    · simp [tallies.consumed]
    · simp [counters_drain, acknowledge, tallies.events]
    · simp [counters_drain, acknowledge, tallies.passes]
    · simp [counters_drain, acknowledge, tallies.failures, Batch.failures_append]
      omega
    · rw [counters_drain, log_drain]
      simp only [acknowledge, List.countP_append, countP_reloadFailed, tallies.infos]
      rfl
    · rw [counters_drain, log_drain]
      simp only [acknowledge, List.countP_append, countP_reloadFailed, tallies.errors]
      rfl
  pass {trace session state} tallies generating answer after passed := by
    refine ⟨?_, ?_, ?_, ?_, ?_, ?_⟩
    · simp [queue_passed, tallies.consumed]
    · simp [counters_passed, tallies.events]
    · simp [counters_passed, tallies.passes, List.countP_singleton, Nat.add_assoc]
    · cases answer <;> simp [counters_passed, tallies.failures, Except.isOk, Except.toBool, Nat.add_assoc]
    · rw [log_passed, counters_passed, List.countP_append, tallies.infos]
      cases answer <;> rfl
    · rw [log_passed, counters_passed, List.countP_append, tallies.errors]
      cases answer <;> rfl
  stop tallies _ _ := tallies.append rfl rfl (by simp [stop]) rfl rfl

variable {target : Target} {loaded : Except LoadError Snapshot}
  {subscribed : Except WatchError Unit} {before after : σ}

theorem tallies_of_run {now : Session × σ}
    (started : start (m := StateM σ) target loaded subscribed before = (.ok session, after))
    (run : Run (session, after) trace now) : Tallies trace now.1 := by
  rcases start_eq_ok started with ⟨snapshot, summary, -, -, rfl⟩
  exact tallies_invariant.run run ⟨rfl, rfl, rfl, rfl, rfl, rfl⟩

/-! ## Rounds -/

/-- A batch that a session took, and the pass that it made for it. -/
structure Round where
  changes : List Change
  /-- How the pass ended, if one was made. -/
  answer : Option (Except PassError Pass.Summary) := none

namespace Round

def events (round : Round) : List Event :=
  .batch round.changes :: round.answer.toList.map .pass

/-- What a round is told by: the failures of the batch in their order, and then how the pass
ended. -/
def notices (round : Round) : List Notice :=
  (Batch.failures round.changes).map .reloadFailed ++ round.answer.toList.map .ofAnswer

end Round

/-- The work of a session in rounds, and its notices, of which the first tells of the pass at the
start. -/
structure InRounds (first : Notice) (trace : List Event) (session : Session) (rounds : List Round) :
    Prop where
  work : Trace.work trace =
    rounds.flatMap Round.events ++ if session.phase = .closed then [.stopped] else []
  /-- With a pass in hand the last round has none yet. -/
  unfinished : session.phase = .generating → ∃ earlier changes, rounds = earlier ++ [{ changes := changes }]
  log : session.log = first :: rounds.flatMap Round.notices

theorem inRounds_invariant (first : Notice) :
    Invariant (σ := σ) fun trace session _ => ∃ rounds, InRounds first trace session rounds where
  act {trace session state} inRounds act := by
    rcases inRounds with ⟨rounds, inRounds⟩
    rcases undergo_eq session act with ⟨ended, closing, same, -⟩
    rw [same]
    exact ⟨rounds, by simp [inRounds.work], inRounds.unfinished, inRounds.log⟩
  elsewhere {trace session state} inRounds other := by
    rcases inRounds with ⟨rounds, inRounds⟩
    exact ⟨rounds, by simp [inRounds.work], inRounds.unfinished, inRounds.log⟩
  drain {trace session state} inRounds idle := by
    rcases inRounds with ⟨rounds, inRounds⟩
    refine ⟨rounds ++ [{ changes := session.queue }], ?_, fun _ => ⟨rounds, session.queue, rfl⟩, ?_⟩
    · simp [inRounds.work, idle, phase_drain_ne_closed idle, Round.events]
    · simp [log_drain, acknowledge, inRounds.log, Round.notices]
  pass {trace session state} inRounds generating answer after passed := by
    rcases inRounds with ⟨rounds, inRounds⟩
    rcases inRounds.unfinished generating with ⟨earlier, changes, rfl⟩
    -- The round that had no pass yet is the one that has it now.
    refine ⟨earlier ++ [{ changes, answer := some answer }], ?_, fun generatingStill => ?_, ?_⟩
    · simp [inRounds.work, generating, phase_passed, Round.events]
    · rw [phase_passed] at generatingStill
      cases generatingStill
    · simp [log_passed, inRounds.log, Round.notices]
  stop {trace session state} inRounds idle isOver := by
    rcases inRounds with ⟨rounds, inRounds⟩
    refine ⟨rounds, ?_, fun generating => ?_, inRounds.log⟩
    · simp [inRounds.work, idle, stop]
    · cases generating

theorem inRounds_of_run {now : Session × σ}
    (started : start (m := StateM σ) target loaded subscribed before = (.ok session, after))
    (run : Run (session, after) trace now) :
    ∃ summary rounds, Pass.run (m := StateM σ) target session.current before = (.ok summary, after) ∧
      InRounds (.generated summary) trace now.1 rounds := by
  rcases start_eq_ok started with ⟨snapshot, summary, -, passed, rfl⟩
  have inRounds := (inRounds_invariant (.generated summary)).run run
    ⟨[], rfl, (fun generating => by cases generating), rfl⟩
  rcases inRounds with ⟨rounds, inRounds⟩
  exact ⟨summary, rounds, passed, inRounds⟩

/-! ## Whole runs -/

/-- A session of the program gives account of all that happens from its start on: no change is lost or
taken twice, every counter and every notice stands for something that has happened, and notices come
in its order. -/
theorem accounts_of_run {state : σ}
    (started : start (m := StateM σ) target loaded subscribed before = (.ok session, after))
    (run : Run (session, after) trace (later, state)) :
    IsAtWork (session, after) trace (later, state) ∧ Tallies trace later ∧ ∃ summary rounds,
      Pass.run (m := StateM σ) target session.current before = (.ok summary, after) ∧
        InRounds (.generated summary) trace later rounds :=
  ⟨run.isAtWork, tallies_of_run started run, inRounds_of_run started run⟩

/-- The small project, of which one reload has failed and the next has renamed its application
directory. -/
theorem accounts_of_run_small :
    ∃ session after trace later state,
      start (m := StateM Disk) .small (.ok (.rootOnly ['a'])) (.ok ()) .small =
          (.ok session, after) ∧
        Run (session, after) trace (later, state) ∧
        Trace.consumed trace =
          [.failed ['x'], .between (.rootOnly ['a']) (.rootOnly ['b'])] ∧
        IsAtWork (session, after) trace (later, state) ∧ Tallies trace later ∧ ∃ summary rounds,
          Pass.run (m := StateM Disk) .small session.current .small = (.ok summary, after) ∧
            InRounds (.generated summary) trace later rounds := by
  rcases exists_start_small with ⟨summary, after, started⟩
  have begun : Run (small summary, after) [] (small summary, after) := .start
  have sent := (begun.act (.send (.failed ['x']))).act
    (.send (.between (.rootOnly ['a']) (.rootOnly ['b'])))
  have taken := sent.drain rfl rfl (List.cons_ne_nil _ _)
  have made := taken.step (.passes after rfl)
  exact ⟨_, _, _, _, _, started, made, rfl, accounts_of_run started made⟩

end Session
end TypedRoutes
