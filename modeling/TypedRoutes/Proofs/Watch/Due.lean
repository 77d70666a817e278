import Mathlib.Data.List.Induction
import TypedRoutes.Proofs.Watch.Trace

namespace TypedRoutes

/-!
# When a pass is due

A batch calls for a pass when a reload in it has succeeded and there is a reason to make output again:
one of those that succeeded says so, even if a later one took its place, or the last pass has failed.
The session makes such a pass once, of the latest snapshot, before it does anything else; and without
a reason it leaves the file system alone.
-/

namespace Batch

variable (changes : List Change) (change : Change) (snapshot : Snapshot)

/-- Some change of a batch has succeeded. -/
def Succeeds (changes : List Change) : Prop :=
  ∃ change ∈ changes, ∃ snapshot, change.result = .ok snapshot

/-- A batch leads to the snapshot of its last change that has succeeded. -/
def LeadsTo (changes : List Change) (snapshot : Snapshot) : Prop :=
  ∃ earlier last later, changes = earlier ++ last :: later ∧ last.result = .ok snapshot ∧
    ¬ Succeeds later

/-- A change that has succeeded asks for new output, whether or not a later one took its place. -/
def BringsNews (changes : List Change) : Prop :=
  ∃ change ∈ changes, (∃ snapshot, change.result = .ok snapshot) ∧ change.isRelevant = true

theorem succeeds_concat :
    Succeeds (changes ++ [change]) ↔ Succeeds changes ∨ ∃ snapshot, change.result = .ok snapshot := by
  simp [Succeeds, or_and_right, exists_or]

theorem leadsTo_concat :
    LeadsTo (changes ++ [change]) snapshot ↔
      change.result = .ok snapshot ∨
        (∃ reason, change.result = .error reason) ∧ LeadsTo changes snapshot := by
  constructor
  · rintro ⟨earlier, last, later, split, loaded, failed⟩
    rcases List.eq_nil_or_concat' later with rfl | ⟨between, final, rfl⟩
    · rcases List.append_inj' split rfl with ⟨-, same⟩
      cases same
      exact .inl loaded
    · rw [← List.cons_append, ← List.append_assoc] at split
      rcases List.append_inj' split rfl with ⟨isBefore, same⟩
      cases same
      rw [succeeds_concat, not_or] at failed
      cases result : change.result with
      | ok other => exact (failed.2 ⟨other, result⟩).elim
      | error reason => exact .inr ⟨⟨reason, rfl⟩, earlier, last, between, isBefore, loaded, failed.1⟩
  · rintro (loaded | ⟨⟨reason, result⟩, earlier, last, later, rfl, loaded, failed⟩)
    · exact ⟨changes, change, [], rfl, loaded, by simp [Succeeds]⟩
    · refine ⟨earlier, last, later ++ [change], by simp, loaded, ?_⟩
      rw [succeeds_concat, result]
      simpa using failed

theorem reload_concat : reload (changes ++ [change]) = Reload.followedBy (reload changes) change :=
  List.foldl_concat _ _ _ _

variable {changes snapshot}

theorem succeeds_iff : Succeeds changes ↔ ∃ reload, Batch.reload changes = some reload := by
  induction changes using List.reverseRecOn with
  | nil => simp [Succeeds, reload]
  | append_singleton changes change ih =>
      rw [succeeds_concat, reload_concat, Reload.followedBy]
      cases change.result <;> simp [ih]

theorem reload_of_not_succeeds (failed : ¬ Succeeds changes) : reload changes = none := by
  rw [succeeds_iff] at failed
  exact Option.eq_none_iff_forall_ne_some.2 fun _ loads => failed ⟨_, loads⟩

theorem leadsTo_iff :
    LeadsTo changes snapshot ↔
      ∃ reload, Batch.reload changes = some reload ∧ reload.snapshot = snapshot := by
  induction changes using List.reverseRecOn with
  | nil => simp [LeadsTo, reload]
  | append_singleton changes change ih =>
      rw [leadsTo_concat, reload_concat, Reload.followedBy]
      cases change.result <;> simp [ih]

theorem bringsNews_iff :
    BringsNews changes ↔ ∃ reload, Batch.reload changes = some reload ∧ reload.isRelevant = true := by
  induction changes using List.reverseRecOn with
  | nil => simp [BringsNews, reload]
  | append_singleton changes change ih =>
      have split : BringsNews (changes ++ [change]) ↔ BringsNews changes ∨
          (∃ snapshot, change.result = .ok snapshot) ∧ change.isRelevant = true := by
        simp [BringsNews, or_and_right, exists_or]
      rw [split, reload_concat, Reload.followedBy, ih]
      cases change.result with
      | error reason => simp
      | ok snapshot =>
          cases reload changes <;> simp [Reload.isRelevant, Change.isRelevant, or_assoc, or_left_comm]

end Batch

namespace Session

/-- The last pass has failed.  The first pass is not in the trace: a session starts with one that has
succeeded. -/
def LastPassFailed (trace : List Event) : Prop :=
  ∃ error, (Trace.answers trace).getLast? = some (.error error)

/-- After what is in a trace, a batch calls for a pass. -/
def IsDue (trace : List Event) (changes : List Change) : Prop :=
  Batch.Succeeds changes ∧ (Batch.BringsNews changes ∨ LastPassFailed trace)

variable {session later : Session} {changes : List Change} {trace earlier rest more : List Event}

/-! ## Taking a batch -/

/-- Taking a batch puts a pass in hand exactly if it calls for one. -/
theorem phase_drain_iff (idle : session.phase = .idle) :
    session.drain.phase = .generating ↔
      Batch.Succeeds session.queue ∧ (Batch.BringsNews session.queue ∨ session.stale = true) := by
  rw [Batch.succeeds_iff, Batch.bringsNews_iff]
  cases loads : Batch.reload session.queue with
  | none => simp [drain, loads, acknowledge, idle]
  | some reload =>
      cases relevant : reload.isRelevant <;> simp [phase_drain_of_some loads, relevant]

variable {σ : Type} [FileSystem (StateM σ)] {now next : Session × σ}

/-- Others do not come in the way: a batch is taken at once, after all that they have done. -/
theorem Step.of_batch {events : List Event} (step : Step now events next)
    (taken : .batch changes ∈ events) :
    next.2 = now.2 ∧ ∃ session : Session, session.phase = .idle ∧ session.target = now.1.target ∧
      session.current = now.1.current ∧ session.stale = now.1.stale ∧ session.queue = changes ∧
        next.1 = session.drain := by
  cases step with
  | act _ _ act => simp at taken
  | elsewhere => simp at taken
  | @gathers session _ _ acts _ idle unasked waiting gathers =>
      simp only [List.mem_append, List.mem_map, reduceCtorEq, and_false, exists_false,
        List.mem_singleton, Event.batch.injEq, false_or] at taken
      cases taken
      rcases foldl_undergo_eq session acts with ⟨_, _, same, -⟩
      refine ⟨rfl, acts.foldl undergo session, ?_, ?_, ?_, ?_, gathers.eq_drain.1.symm,
        gathers.eq_drain.2⟩
      · rw [same, idle]
      · rw [same]
      · rw [same]
      · rw [same]
  | passes => simp at taken
  | stops => simp at taken
  | rests => simp at taken

/-! ## Every batch of a run -/

/-- What a session has done since a batch begins with a pass, or it has that pass in hand. -/
def IsServed (since : List Event) (session : Session) : Prop :=
  (∃ answer, (Trace.work since).head? = some (.pass answer)) ∨
    Trace.work since = [] ∧ session.phase = .generating

/-- Passes are made for the batches that call for one and for no other. -/
structure Serves (trace : List Event) (session : Session) : Prop where
  stale : session.stale = true ↔ LastPassFailed trace
  served : ∀ {earlier changes since}, trace = earlier ++ .batch changes :: since →
    (IsDue earlier changes ↔ IsServed since session)

theorem lastPassFailed_append (none : Trace.answers more = []) :
    LastPassFailed (trace ++ more) ↔ LastPassFailed trace := by
  rw [LastPassFailed, Trace.answers_append, none, List.append_nil]
  rfl

theorem lastPassFailed_concat (answer : Except PassError Pass.Summary) :
    LastPassFailed (trace ++ [.pass answer]) ↔ ∃ error, answer = .error error := by
  simp [LastPassFailed]

/-- A batch in a longer trace was there before, or it is among what was added. -/
theorem split_append (split : trace ++ more = earlier ++ .batch changes :: rest) :
    (∃ since, rest = since ++ more ∧ trace = earlier ++ .batch changes :: since) ∨
      ∃ before, more = before ++ .batch changes :: rest ∧ earlier = trace ++ before := by
  rcases List.append_eq_append_iff.1 split with
    ⟨before, isEarlier, isMore⟩ | ⟨between, isTrace, isRest⟩
  · exact .inr ⟨before, isMore, isEarlier⟩
  · cases between with
    | nil => exact .inr ⟨[], isRest.symm, by simpa using isTrace.symm⟩
    | cons event since =>
        cases isRest
        exact .inl ⟨since, rfl, isTrace⟩

/-- Batches stay served as long as no other is taken. -/
theorem Serves.append (serves : Serves trace session) (noBatch : ∀ changes, .batch changes ∉ more)
    (stale : later.stale = true ↔ LastPassFailed (trace ++ more))
    (same : ∀ since, IsServed (since ++ more) later ↔ IsServed since session) :
    Serves (trace ++ more) later := by
  refine ⟨stale, fun split => ?_⟩
  rcases split_append split with ⟨since, rfl, isTrace⟩ | ⟨before, isMore, -⟩
  · rw [same]
    exact serves.served isTrace
  · exact (noBatch _ (isMore ▸ List.mem_append_right _ List.mem_cons_self)).elim

theorem serves_invariant : Invariant (σ := σ) fun trace session _ => Serves trace session where
  act {trace session state} serves act := by
    rcases undergo_eq session act with ⟨ended, closing, same, -⟩
    apply serves.append (by simp)
    · rw [lastPassFailed_append (Trace.answers_sent _), same]
      exact serves.stale
    · intro since
      simp [IsServed, same]
  elsewhere {trace session state} serves other := by
    apply serves.append (by simp)
    · rw [lastPassFailed_append rfl]
      exact serves.stale
    · intro since
      simp [IsServed]
  drain {trace session state} serves idle := by
    have stale : session.drain.stale = true ↔ LastPassFailed trace := by
      rw [stale_drain]
      exact serves.stale
    refine ⟨stale.trans (lastPassFailed_append rfl).symm, fun split => ?_⟩
    rcases split_append split with ⟨since, rfl, isTrace⟩ | ⟨before, isLast, rfl⟩
    · -- The session was idle, so that a pass for an earlier batch was made before.
      rw [serves.served isTrace]
      cases done : Trace.work since <;> simp [IsServed, done, idle]
    · cases before with
      | cons event before => simp at isLast
      | nil =>
          cases isLast
          rw [IsDue, List.append_nil, ← serves.stale, ← phase_drain_iff idle]
          simp [IsServed, Trace.work]
  pass {trace session state} serves generating answer after passed := by
    apply serves.append (by simp)
    · rw [lastPassFailed_concat]
      cases answer <;> simp [Session.passed, passSucceeded, passFailed]
    · intro since
      cases done : Trace.work since <;> simp [IsServed, done, generating, phase_passed]
  stop {trace session state} serves idle isOver := by
    apply serves.append (by simp)
    · rw [lastPassFailed_append rfl]
      exact serves.stale
    · intro since
      cases done : Trace.work since <;> simp [IsServed, done, idle, stop]

variable {target : Target} {loaded : Except LoadError Snapshot}
  {subscribed : Except WatchError Unit} {before after : σ} {first : Session}

theorem serves_of_run
    (started : start (m := StateM σ) target loaded subscribed before = (.ok first, after))
    (run : Run (first, after) trace now) : Serves trace now.1 := by
  rcases start_eq_ok started with ⟨snapshot, summary, -, -, rfl⟩
  exact serves_invariant.run run
    ⟨by simp [passSucceeded, LastPassFailed, Trace.answers], fun split => by simp at split⟩

/-! ## Until the next batch -/

/-- How far a session has come with a batch that it took.  A pass in hand is made once, of the snapshot
that the batch led to, and nothing else touches the file system but others. -/
structure Pursues (taken : Session) (after : σ) (since : List Event) (session : Session) (state : σ) :
    Prop where
  target : session.target = taken.target
  current : session.current = taken.current
  inHand : session.phase = .generating ↔ taken.phase = .generating ∧ Trace.answers since = []
  passes :
    (Trace.answers since = [] ∧ (.elsewhere ∉ since → state = after)) ∨
      taken.phase = .generating ∧ ∃ answer before there, Trace.answers since = [answer] ∧
        Pass.run (m := StateM σ) taken.target taken.current before = (answer, there) ∧
          (.elsewhere ∉ since → before = after ∧ state = there)

theorem pursues_invariant (taken : Session) (after : σ) :
    Invariant (σ := σ) fun since session state =>
      (∀ changes, .batch changes ∉ since) → Pursues taken after since session state where
  act {since session state} pursues act noBatch := by
    have pursues := pursues fun changes member => noBatch changes (List.mem_append_left _ member)
    rcases undergo_eq session act with ⟨ended, closing, same, -⟩
    rw [same]
    refine ⟨pursues.target, pursues.current, ?_, ?_⟩
    · simpa using pursues.inHand
    · simpa using pursues.passes
  elsewhere {since session state} pursues other noBatch := by
    have pursues := pursues fun changes member => noBatch changes (List.mem_append_left _ member)
    refine ⟨pursues.target, pursues.current, ?_, ?_⟩
    · simpa using pursues.inHand
    · rcases pursues.passes with ⟨none, -⟩ | ⟨generating, answer, before, there, one, made, -⟩
      · exact .inl ⟨by simpa using none, by simp⟩
      · exact .inr ⟨generating, answer, before, there, by simpa using one, made, by simp⟩
  drain _ _ noBatch := (noBatch _ (List.mem_append_right _ List.mem_cons_self)).elim
  pass {since session state} pursues generating answer there made noBatch := by
    have pursues := pursues fun changes member => noBatch changes (List.mem_append_left _ member)
    rcases pursues.inHand.1 generating with ⟨wasInHand, none⟩
    refine ⟨by simpa using pursues.target, by simpa using pursues.current, by simp [none], ?_⟩
    rcases pursues.passes with ⟨-, same⟩ | ⟨-, other, -, -, one, -⟩
    · rw [pursues.target, pursues.current] at made
      exact .inr ⟨wasInHand, answer, state, there, by simp [none], made,
        fun alone => ⟨same (by simpa using alone), rfl⟩⟩
    · rw [none] at one
      cases one
  stop {since session state} pursues idle isOver noBatch := by
    have pursues := pursues fun changes member => noBatch changes (List.mem_append_left _ member)
    refine ⟨pursues.target, pursues.current, ?_, ?_⟩
    · simpa [stop, idle] using pursues.inHand
    · simpa using pursues.passes

theorem pursues_of_run {since : List Event} {later : Session × σ} (run : Run next since later)
    (noBatch : ∀ changes, .batch changes ∉ since) :
    Pursues next.1 next.2 since later.1 later.2 :=
  (pursues_invariant next.1 next.2).run run
    (fun _ => ⟨rfl, rfl, by simp [Trace.answers], .inl ⟨rfl, fun _ => rfl⟩⟩) noBatch

/-! ## What becomes of a batch -/

/-- A session has taken a batch and goes on with it. -/
structure Handles (target : Target) (trace : List Event) (changes : List Change)
    (now next : Session × σ) : Prop where
  untouched : next.2 = now.2
  adopts : Batch.Succeeds changes → Batch.LeadsTo changes next.1.current
  keeps : ¬ Batch.Succeeds changes → next.1.current = now.1.current
  stale : next.1.stale = now.1.stale
  /-- Before another batch is taken, the pass that is due comes next, or it is the only one that was
  made. -/
  due : IsDue trace changes → ∀ {since later}, Run next since later →
    (∀ other, .batch other ∉ since) →
      (Trace.answers since = [] ∧ ∃ answer there,
        Pass.run (m := StateM σ) target next.1.current later.2 = (answer, there) ∧
          later.1.turn (m := StateM σ) later.2 = (later.1.passed answer, there)) ∨
      ∃ answer before there, Trace.answers since = [answer] ∧
        Pass.run (m := StateM σ) target next.1.current before = (answer, there) ∧
          (.elsewhere ∉ since → before = now.2 ∧ later.2 = there)
  notDue : ¬ IsDue trace changes → ∀ {since later}, Run next since later →
    (∀ other, .batch other ∉ since) →
      Trace.answers since = [] ∧ (.elsewhere ∉ since → later.2 = now.2)

theorem handles_of_step {events : List Event}
    (sameTarget : now.1.target = target) (stale : now.1.stale = true ↔ LastPassFailed trace)
    (step : Step now events next) (taken : .batch changes ∈ events) :
    Handles target trace changes now next := by
  rcases step.of_batch taken with
    ⟨untouched, session, idle, same, sameCurrent, sameStale, rfl, isNext⟩
  have inHand : next.1.phase = .generating ↔ IsDue trace session.queue := by
    rw [isNext, phase_drain_iff idle, sameStale, stale, IsDue]
  have nextTarget : next.1.target = target := by rw [isNext, target_drain, same, sameTarget]
  refine ⟨untouched, fun succeeds => ?_, fun failed => ?_, ?_, fun due since later run noBatch => ?_,
    fun notDue since later run noBatch => ?_⟩
  · rcases Batch.succeeds_iff.1 succeeds with ⟨reload, loads⟩
    rw [isNext, current_drain_of_some loads]
    exact Batch.leadsTo_iff.2 ⟨reload, loads, rfl⟩
  · rw [isNext, current_drain_of_none (Batch.reload_of_not_succeeds failed), sameCurrent]
  · rw [isNext, stale_drain, sameStale]
  · have pursues := pursues_of_run run noBatch
    rcases pursues.passes with ⟨none, -⟩ | ⟨-, answer, before, there, one, made, alone⟩
    · have generating := pursues.inHand.2 ⟨inHand.2 due, none⟩
      rw [turn_of_generating _ generating, pursues.target, pursues.current, nextTarget]
      exact .inl ⟨none, _, _, rfl, rfl⟩
    · rw [nextTarget] at made
      rw [untouched] at alone
      exact .inr ⟨answer, before, there, one, made, alone⟩
  · rcases (pursues_of_run run noBatch).passes with ⟨none, alone⟩ | ⟨generating, -⟩
    · rw [untouched] at alone
      exact ⟨none, alone⟩
    · exact (notDue (inHand.1 generating)).elim

theorem target_invariant (target : Target) :
    Invariant (σ := σ) fun _ session _ => session.target = target where
  act {_ session _} same act := by
    rcases undergo_eq session act with ⟨_, _, sameSession, -⟩
    rw [sameSession]
    exact same
  elsewhere same _ := same
  drain same _ := by rw [target_drain, same]
  pass same _ _ _ _ := by rw [target_passed, same]
  stop same _ _ := same

/-- A session of the program makes a pass exactly when a batch calls for one. -/
theorem passes_when_due
    (started : start (m := StateM σ) target loaded subscribed before = (.ok first, after))
    (run : Run (first, after) trace now) :
    IsAtWork (first, after) trace now ∧ Serves trace now.1 ∧ ∀ {events changes next}, Step now events next → .batch changes ∈ events →
      Handles target trace changes now next := by
  have serves := serves_of_run started run
  rcases start_eq_ok started with ⟨snapshot, summary, -, -, rfl⟩
  have sameTarget := (target_invariant target).run run rfl
  exact ⟨run.isAtWork, serves, fun step taken => handles_of_step sameTarget serves.stale step taken⟩

/-- The small project, where a reload has failed and the next has renamed the application
directory. -/
theorem passes_when_due_small :
    ∃ first after trace now next,
      start (m := StateM Disk) .small (.ok (.rootOnly ['a'])) (.ok ()) .small = (.ok first, after) ∧
        Run (first, after) trace now ∧
        IsDue trace [.failed ['x'], .between (.rootOnly ['a']) (.rootOnly ['b'])] ∧
        IsAtWork (first, after) trace now ∧ Serves trace now.1 ∧
        Handles .small trace [.failed ['x'], .between (.rootOnly ['a']) (.rootOnly ['b'])] now next := by
  rcases exists_start_small with ⟨summary, after, started⟩
  have begun : Run (small summary, after) [] (small summary, after) := .start
  have sent := (begun.act (.send (.failed ['x']))).act
    (.send (.between (.rootOnly ['a']) (.rootOnly ['b'])))
  rcases passes_when_due started sent with ⟨isAtWork, serves, handles⟩
  refine ⟨_, _, _, _, _, started, sent, ⟨?_, .inl ?_⟩, isAtWork, serves,
    handles (.gathers after rfl rfl (List.cons_ne_nil _ _) (gathers_drain _)) (.head _)⟩
  · exact ⟨_, .tail _ (.head _), _, rfl⟩
  · exact ⟨_, .tail _ (.head _), ⟨_, rfl⟩, by decide⟩

end Session
end TypedRoutes
