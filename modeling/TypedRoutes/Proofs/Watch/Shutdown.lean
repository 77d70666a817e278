import TypedRoutes.Proofs.Watch.Account
import TypedRoutes.Proofs.Watch.Due

namespace TypedRoutes

/-!
# The end of a session

A session ends once, and the source of changes is closed then and only then.  A session that was asked
to close has little left to do: it finishes the pass in hand, and then it ends, whatever waits in its
queue.  If it was not asked, it ends when all that was accepted has been taken and every pass that was
due is made.  Once closed, it does nothing more.
-/

namespace Session

/-! ## What is left to do -/

/-- What a session that was asked to close still does.  How the pass in hand ends is not known
before. -/
def remaining (answer : Except PassError Pass.Summary) : Phase → List Event
  | .generating => [.pass answer, .stopped]
  | .idle => [.stopped]
  | .closed => []

/-- How far a session has come that was asked to close, or that is closed. -/
structure WindsDown (asked : Session) (since : List Event) (session : Session) : Prop where
  closing : session.closing = true ∨ session.phase = .closed
  /-- What was done and what remains are what there was to do. -/
  work : ∃ answer, Trace.work since ++ remaining answer session.phase = remaining answer asked.phase
  queue : session.queue = asked.queue ++ Trace.accepted since
  counters : session.counters = ((Trace.answers since).foldl passed asked).counters
  log : session.log = ((Trace.answers since).foldl passed asked).log

variable {σ : Type} [FileSystem (StateM σ)] {now next : Session × σ} {asked session : Session}
  {since more trace : List Event}

/-- With the pass still in hand, nothing was done. -/
theorem eq_of_remaining_generating {answer : Except PassError Pass.Summary} {phase : Phase}
    {work : List Event} (split : work ++ remaining answer .generating = remaining answer phase) :
    phase = .generating ∧ work = [] := by
  have lengths := congrArg List.length split
  cases phase with
  | generating => exact ⟨rfl, by simpa [remaining] using split⟩
  | idle => simp [remaining] at lengths
  | closed => simp [remaining] at lengths

theorem WindsDown.step (winds : WindsDown asked since now.1) (step : Step now more next) :
    WindsDown asked (since ++ more) next.1 := by
  cases step with
  | act session state act =>
      replace winds : WindsDown asked since session := winds
      rcases undergo_eq session act with ⟨ended, closing, same, -, keepsRequest⟩
      rw [same]
      refine ⟨winds.closing.imp_left keepsRequest, ?_, ?_, ?_, ?_⟩
      · simpa using winds.work
      · simp [winds.queue]
      · simpa using winds.counters
      · simpa using winds.log
  | elsewhere session state other =>
      refine ⟨winds.closing, ?_, ?_, ?_, ?_⟩
      · simpa using winds.work
      · simpa using winds.queue
      · simpa using winds.counters
      · simpa using winds.log
  | gathers state idle unasked =>
      -- A session that was asked to close takes no batch.
      rcases winds.closing with closing | closed
      · rw [unasked] at closing
        cases closing
      · rw [idle] at closed
        cases closed
  | @passes session state generating =>
      replace winds : WindsDown asked since session := winds
      rw [turn_of_generating state generating]
      generalize (Pass.run (m := StateM σ) session.target session.current state).1 = answer
      rcases winds.work with ⟨other, split⟩
      rw [generating] at split
      rcases eq_of_remaining_generating split with ⟨wasInHand, nothing⟩
      refine ⟨.inl ?_, ⟨answer, ?_⟩, ?_, ?_, ?_⟩
      · rcases winds.closing with closing | closed
        · cases answer <;> exact closing
        · rw [generating] at closed
          cases closed
      · simp [nothing, wasInHand, remaining]
      · simp [winds.queue]
      · simp [counters_passed, winds.counters]
      · simp [log_passed, winds.log]
  | @stops session state idle isOver =>
      rw [turn_of_over state idle isOver]
      rcases winds.work with ⟨answer, split⟩
      refine ⟨.inr rfl, ⟨answer, ?_⟩, ?_, ?_, ?_⟩
      · simpa [idle, remaining, stop] using split
      · simpa [stop] using winds.queue
      · simpa [stop] using winds.counters
      · simpa [stop] using winds.log
  | rests state rests =>
      rw [turn_of_rests state rests, List.append_nil]
      exact winds

theorem winds_of_run (closing : now.1.closing = true ∨ now.1.phase = .closed)
    (run : Run now since next) : WindsDown now.1 since next.1 := by
  induction run with
  | start =>
      exact ⟨closing, ⟨(Pass.run (m := StateM σ) now.1.target now.1.current now.2).1, rfl⟩,
        (List.append_nil _).symm, rfl, rfl⟩
  | step _ step ih => exact ih.step step

theorem WindsDown.noBatch (winds : WindsDown asked since session) (changes : List Change) :
    .batch changes ∉ since := by
  intro taken
  rcases winds.work with ⟨answer, split⟩
  have isWork : .batch changes ∈ Trace.work since := List.mem_filter.2 ⟨taken, rfl⟩
  have remains : .batch changes ∈ remaining answer asked.phase :=
    split ▸ List.mem_append_left _ isWork
  cases phase : asked.phase <;> simp [phase, remaining] at remains

theorem WindsDown.consumed (winds : WindsDown asked since session) : Trace.consumed since = [] := by
  apply List.flatMap_eq_nil_iff.2
  intro event member
  cases event with
  | batch changes => exact (winds.noBatch changes member).elim
  | _ => rfl

theorem WindsDown.phase_of_closed (winds : WindsDown asked since session)
    (closed : asked.phase = .closed) : session.phase = .closed := by
  rcases winds.work with ⟨answer, split⟩
  rw [closed] at split
  cases phase : session.phase <;> simp [phase, remaining] at split ⊢

/-! ## Closing the source -/

/-- The source is closed at the end, and the end comes once. -/
structure ClosesOnce (trace : List Event) (session : Session) : Prop where
  source : session.sourceCloses = if session.phase = .closed then 1 else 0
  stopped : trace.countP Event.isEnd = session.sourceCloses

theorem closesOnce_invariant : Invariant (σ := σ) fun trace session _ => ClosesOnce trace session where
  act {trace session state} closes act := by
    rcases undergo_eq session act with ⟨ended, closing, same, -⟩
    rw [same]
    refine ⟨closes.source, ?_⟩
    simpa [List.countP_append, List.countP_map, Function.comp_def] using closes.stopped
  elsewhere {trace session state} closes other := ⟨closes.source, by simpa using closes.stopped⟩
  drain {trace session state} closes idle := by
    have source := closes.source
    rw [idle] at source
    exact ⟨by simpa [phase_drain_ne_closed idle] using source, by simpa using closes.stopped⟩
  pass {trace session state} closes generating answer after passed := by
    have source := closes.source
    rw [generating] at source
    exact ⟨by simpa using source, by simpa using closes.stopped⟩
  stop {trace session state} closes idle isOver := by
    have source := closes.source
    rw [idle] at source
    exact ⟨by simpa [stop] using source, by simpa [stop] using closes.stopped⟩

variable {target : Target} {loaded : Except LoadError Snapshot} {subscribed : Except WatchError Unit}
  {before after : σ} {first : Session}

theorem closesOnce_of_run
    (started : start (m := StateM σ) target loaded subscribed before = (.ok first, after))
    (run : Run (first, after) trace now) : ClosesOnce trace now.1 := by
  rcases start_eq_ok started with ⟨snapshot, summary, -, -, rfl⟩
  exact closesOnce_invariant.run run ⟨rfl, rfl⟩

theorem Step.of_stopped {events : List Event} (step : Step now events next)
    (stopped : .stopped ∈ events) : now.1.phase = .idle ∧ now.1.IsOver := by
  cases step with
  | act => simp at stopped
  | elsewhere => simp at stopped
  | gathers => simp at stopped
  | passes => simp at stopped
  | stops _ idle isOver => exact ⟨idle, isOver⟩
  | rests => simp at stopped

/-! ## Orderly ends -/

/-- From a moment of a run on, its end is in order. -/
structure EndsOrderly (trace : List Event) (now : Session × σ) : Prop where
  once : ClosesOnce trace now.1
  /-- After the end there is nothing. -/
  closed : now.1.phase = .closed → ∀ {since later}, Run now since later →
    later.1.phase = .closed ∧ Trace.consumed since = [] ∧
      later.1.counters = now.1.counters ∧ later.1.log = now.1.log ∧
        later.1.sourceCloses = now.1.sourceCloses ∧ (.elsewhere ∉ since → later.2 = now.2)
  /-- An end that was not asked for comes when all that was accepted is taken, what failed is told, and
  every pass that was due is made. -/
  exhausted : now.1.closing = false → ∀ {events next}, Step now events next → .stopped ∈ events →
    now.1.ended = true ∧ Trace.consumed trace = Trace.accepted trace ∧
      (∃ first rounds, InRounds first trace now.1 rounds) ∧
        ∀ {earlier changes since}, trace = earlier ++ .batch changes :: since →
          IsDue earlier changes → ∃ answer, (Trace.work since).head? = some (.pass answer)
  /-- With nothing in hand, a request for the end leaves behind what waits. -/
  abandons : now.1.closing = true → now.1.phase = .idle →
    now.1.turn (m := StateM σ) now.2 = (now.1.stop, now.2) ∧
      ∀ {since later}, Run now since later →
        Trace.consumed since = [] ∧ Trace.answers since = [] ∧
          later.1.queue = now.1.queue ++ Trace.accepted since
  /-- With a pass in hand, it comes first; its outcome is recorded, and nothing more is taken. -/
  finishes : now.1.closing = true → now.1.phase = .generating →
    (∃ answer there, Pass.run (m := StateM σ) now.1.target now.1.current now.2 = (answer, there) ∧
      now.1.turn (m := StateM σ) now.2 = (now.1.passed answer, there) ∧
        (now.1.passed answer).turn (m := StateM σ) there = ((now.1.passed answer).stop, there)) ∧
      ∀ {since later}, Run now since later →
        Trace.consumed since = [] ∧ later.1.queue = now.1.queue ++ Trace.accepted since ∧
          (later.1.phase = .generating ∨ ∃ answer before there, Trace.answers since = [answer] ∧
            Pass.run (m := StateM σ) now.1.target now.1.current before = (answer, there) ∧
              later.1.counters = (now.1.passed answer).counters ∧
                later.1.log = (now.1.passed answer).log)

theorem endsOrderly_of_run
    (started : start (m := StateM σ) target loaded subscribed before = (.ok first, after))
    (run : Run (first, after) trace now) : EndsOrderly trace now where
  once := closesOnce_of_run started run
  closed := by
    intro closed since later goesOn
    have winds := winds_of_run (.inr closed) goesOn
    rcases (pursues_of_run goesOn winds.noBatch).passes with ⟨none, alone⟩ | ⟨generating, -⟩
    · have stays := winds.phase_of_closed closed
      have counters := winds.counters
      have log := winds.log
      rw [none] at counters log
      refine ⟨stays, winds.consumed, counters, log, ?_, alone⟩
      rw [(closesOnce_of_run started (run.append goesOn)).source,
        (closesOnce_of_run started run).source, closed, stays]
    · rw [closed] at generating
      cases generating
  exhausted := by
    intro unasked events next step isEnd
    rcases step.of_stopped isEnd with ⟨idle, closing | ⟨empty, ended⟩⟩
    · rw [unasked] at closing
      cases closing
    · have account := (tallies_of_run started run).consumed
      rw [empty, List.append_nil] at account
      rcases inRounds_of_run started run with ⟨summary, rounds, -, inRounds⟩
      refine ⟨ended, account.symm, ⟨_, rounds, inRounds⟩, fun split due => ?_⟩
      rcases ((serves_of_run started run).served split).1 due with made | ⟨-, generating⟩
      · exact made
      · rw [idle] at generating
        cases generating
  abandons := by
    intro closing idle
    refine ⟨turn_of_over _ idle (.inl closing), fun goesOn => ?_⟩
    have winds := winds_of_run (.inl closing) goesOn
    rcases (pursues_of_run goesOn winds.noBatch).passes with ⟨none, -⟩ | ⟨generating, -⟩
    · exact ⟨winds.consumed, none, winds.queue⟩
    · rw [idle] at generating
      cases generating
  finishes := by
    intro closing generating
    refine ⟨⟨_, _, rfl, turn_of_generating _ generating,
      turn_of_over _ (phase_passed _ _) (.inl ?_)⟩, fun goesOn => ?_⟩
    · rw [closing_passed, closing]
    · have winds := winds_of_run (.inl closing) goesOn
      have pursues := pursues_of_run goesOn winds.noBatch
      refine ⟨winds.consumed, winds.queue, ?_⟩
      rcases pursues.passes with ⟨none, -⟩ | ⟨-, answer, before, there, one, made, -⟩
      · exact .inl (pursues.inHand.2 ⟨generating, none⟩)
      · have counters := winds.counters
        have log := winds.log
        rw [one] at counters log
        exact .inr ⟨answer, before, there, one, made, counters, log⟩

/-- What a start that failed leaves behind. -/
structure FailsOrderly (loaded : Except LoadError Snapshot) (subscribed : Except WatchError Unit)
    (before after : σ) (failure : StartFailure) : Prop where
  /-- Without a subscription nothing is touched. -/
  unsubscribed : (∀ snapshot, loaded = .ok snapshot → subscribed ≠ .ok ()) →
    after = before ∧ failure.sourceCloses = 0
  /-- A subscription is closed again. -/
  subscribed : ∀ {snapshot}, loaded = .ok snapshot → subscribed = .ok () → failure.sourceCloses = 1

theorem failsOrderly_of_start {failure : StartFailure}
    (failed : start (m := StateM σ) target loaded subscribed before = (.error failure, after)) :
    FailsOrderly loaded subscribed before after failure := by
  unfold start at failed
  cases loaded with
  | error error =>
      cases failed
      exact ⟨fun _ => ⟨rfl, rfl⟩, fun loads => by cases loads⟩
  | ok snapshot =>
      cases subscribed with
      | error error =>
          cases failed
          exact ⟨fun _ => ⟨rfl, rfl⟩, fun _ subscribes => by cases subscribes⟩
      | ok _ =>
          simp only [FileSystem.bind_run] at failed
          generalize Pass.run (m := StateM σ) target snapshot before = result at failed
          rcases result with ⟨answer, last⟩
          cases answer with
          | ok summary => cases failed
          | error error =>
              cases failed
              exact ⟨fun none => (none snapshot rfl rfl).elim, fun _ _ => rfl⟩

/-- Every session of the program ends in order, and so does a start that fails. -/
theorem ends_in_order (target : Target) (loaded : Except LoadError Snapshot)
    (subscribed : Except WatchError Unit) (before : σ) :
    (∀ {failure after},
      start (m := StateM σ) target loaded subscribed before = (.error failure, after) →
        FailsOrderly loaded subscribed before after failure) ∧
      ∀ {first after},
        start (m := StateM σ) target loaded subscribed before = (.ok first, after) →
          ∀ {trace now}, Run (first, after) trace now →
            IsAtWork (first, after) trace now ∧ EndsOrderly trace now :=
  ⟨failsOrderly_of_start, fun started _ _ run => ⟨run.isAtWork, endsOrderly_of_run started run⟩⟩

/-- The small project: with no subscription, with an output directory that must not be cleared, and
asked to close during a pass while another change waits. -/
theorem ends_in_order_small :
    (∃ failure, start (m := StateM Disk) .small (.ok (.rootOnly ['a'])) (.error (.subscription ['x']))
        .small = (.error failure, .small) ∧
      FailsOrderly (.ok (.rootOnly ['a'])) (.error (.subscription ['x'])) Disk.small Disk.small failure) ∧
    (∃ failure after, start (m := StateM Disk) (.new ⟨['p']⟩ ⟨[]⟩ ['m']) (.ok (.rootOnly ['a'])) (.ok ())
        .small = (.error failure, after) ∧
      FailsOrderly (.ok (.rootOnly ['a'])) (.ok ()) Disk.small after failure) ∧
    ∃ first after trace now,
      start (m := StateM Disk) .small (.ok (.rootOnly ['a'])) (.ok ()) .small = (.ok first, after) ∧
        Run (first, after) trace now ∧ now.1.phase = .closed ∧ now.1.queue = [.failed ['x']] ∧
          IsAtWork (first, after) trace now ∧ EndsOrderly trace now := by
  have covers : ∃ failure after, start (m := StateM Disk) (.new ⟨['p']⟩ ⟨[]⟩ ['m'])
      (.ok (.rootOnly ['a'])) (.ok ()) .small = (.error failure, after) := ⟨_, _, rfl⟩
  rcases covers with ⟨failure, last, failed⟩
  refine ⟨⟨_, rfl, (ends_in_order .small _ _ _).1 rfl⟩,
    ⟨failure, last, failed, (ends_in_order _ _ _ _).1 failed⟩, ?_⟩
  rcases exists_start_small with ⟨summary, after, started⟩
  have begun : Run (small summary, after) [] (small summary, after) := .start
  have sent := begun.act (.send (.between (.rootOnly ['a']) (.rootOnly ['b'])))
  have taken := sent.drain rfl rfl (List.cons_ne_nil _ _)
  have asked := (taken.act .close).act (.send (.failed ['x']))
  have made := asked.step (.passes after rfl)
  rw [turn_of_generating _ rfl] at made
  generalize Pass.run (m := StateM Disk) _ _ after = result at made
  have closed := made.step (.stops _ (phase_passed _ _) (.inl (closing_passed _ _)))
  rw [turn_of_over _ (phase_passed _ _) (.inl (closing_passed _ _))] at closed
  exact ⟨_, _, _, _, started, closed, rfl, queue_passed _ _,
    (ends_in_order _ _ _ _).2 started closed⟩

end Session
end TypedRoutes
