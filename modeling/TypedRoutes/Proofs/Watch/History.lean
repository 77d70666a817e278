import TypedRoutes.Proofs.Output.Replacement
import TypedRoutes.Proofs.Watch.Changes
import TypedRoutes.Proofs.Watch.Turn
import Mathlib.Logic.Relation

namespace TypedRoutes

/-!
# Histories of a watched project

What happens to a watched project comes in any order: its route config is loaded again, its session
takes a turn, the stream of changes ends, the session is asked to close, and others change the disk
outside of the output directory.  Along every such history the session never loses sight of its
configuration: whenever no pass is in hand, the last one failed, or the output on disk is what a single
pass of the last loaded snapshot leaves.
-/

open Session (StartFailure)

/-- A project with everything that belongs to watching it. -/
structure Project where
  source : ConfigSource
  session : Session
  disk : FaultyDisk
  /-- The changes that the session has accepted, in order. -/
  accepted : List Change
  /-- How the last pass ended. -/
  answer : Except PassError Pass.Summary

namespace Project

/-! ## What happens to a project -/

/-- The project at the start of its session, if there is one. -/
def start (target : Target) (source : ConfigSource) (loaded : Except LoadError Snapshot)
    (subscribed : Except WatchError Unit) (before : FaultyDisk) : Except StartFailure Project :=
  match Session.start (m := StateM FaultyDisk) target loaded subscribed before with
  | (.error failure, _) => .error failure
  | (.ok session, disk) =>
      .ok
        { source := source.remember loaded
          session, disk
          accepted := []
          answer := (Pass.run (m := StateM FaultyDisk) target session.current before).1 }

/-- The source has loaded the route config again and sends what that means. -/
def reload (loaded : Except LoadError Snapshot) (project : Project) : Project :=
  let change := project.source.classify loaded
  { project with
    source := project.source.remember loaded
    session := project.session.send change
    accepted :=
      if project.session.accepts then project.accepted ++ [change] else project.accepted }

/-- The session does the next thing there is to do. -/
def turn (project : Project) : Project :=
  let result := project.session.turn (m := StateM FaultyDisk) project.disk
  { project with
    session := result.1
    disk := result.2
    answer :=
      if project.session.phase = .generating then
        (Pass.run (m := StateM FaultyDisk) project.session.target project.session.current
          project.disk).1
      else project.answer }

/-- One thing that happens to a project. -/
inductive Step : Project → Project → Prop where
  | reload (project : Project) (loaded : Except LoadError Snapshot) :
      Step project (project.reload loaded)
  | turn (project : Project) : Step project project.turn
  | endStream (project : Project) :
      Step project { project with session := project.session.endStream }
  | close (project : Project) : Step project { project with session := project.session.close }
  /-- Others change the disk, but nothing at the output directory or below it. -/
  | change (project : Project) (disk : FaultyDisk)
      (elsewhere : Disk.AgreeBelow
        (project.session.target.output.location project.disk.disk.working)
        project.disk.disk disk.disk) :
      Step project { project with disk }

/-! ## What every history keeps -/

/-- Below the output directory a disk shows what a pass of a snapshot has left. -/
def LeftBy (target : Target) (snapshot : Snapshot) (disk : Disk) : Prop :=
  ∃ before after summary,
    Pass.run (m := StateM FaultyDisk) target snapshot before = (.ok summary, after) ∧
      Disk.AgreeBelow (target.output.location after.disk.working) after.disk disk

theorem LeftBy.of_run {target : Target} {snapshot : Snapshot} {summary : Pass.Summary}
    {before after : FaultyDisk}
    (succeeded : Pass.run (m := StateM FaultyDisk) target snapshot before = (.ok summary, after)) :
    LeftBy target snapshot after.disk :=
  ⟨before, after, summary, succeeded, .refl _ _⟩

theorem LeftBy.of_agree {target : Target} {snapshot : Snapshot} {disk other : Disk}
    (left : LeftBy target snapshot disk)
    (agree : Disk.AgreeBelow (target.output.location disk.working) disk other) :
    LeftBy target snapshot other := by
  rcases left with ⟨before, after, summary, succeeded, agreeBefore⟩
  rw [agreeBefore.working] at agree
  exact ⟨before, after, summary, succeeded, agreeBefore.trans agree⟩

/-- What ties the session of a project to its source and to its disk. -/
structure Consistent (target : Target) (first : Snapshot) (project : Project) : Prop where
  sameTarget : project.session.target = target
  /-- What was taken has led to the current snapshot; the rest of what was accepted waits. -/
  current : ∃ taken, project.accepted = taken ++ project.session.queue ∧
    project.session.current = lastLoaded first taken
  /-- What waits goes on from the current snapshot. -/
  queue : Produced project.session.current project.session.queue
  /-- What comes next goes on from what waits. -/
  source : project.session.accepts = true →
    project.source.last = some (lastLoaded project.session.current project.session.queue)
  stale : project.session.stale = true → ∃ error, project.answer = .error error
  output : project.session.phase ≠ .generating → project.session.stale = false →
    LeftBy target project.session.current project.disk.disk

variable {target : Target} {first : Snapshot} {project later : Project}

/-! ## Each step keeps it -/

theorem consistent_start {source : ConfigSource} {loaded : Except LoadError Snapshot}
    {subscribed : Except WatchError Unit} {before : FaultyDisk}
    (started : start target source loaded subscribed before = .ok project) :
    Consistent target project.session.current project := by
  unfold start at started
  generalize starts : Session.start (m := StateM FaultyDisk) target loaded subscribed before = result
    at started
  rcases result with ⟨answer, disk⟩
  cases answer with
  | error failure => cases started
  | ok session =>
      cases started
      rcases Session.start_eq_ok starts with ⟨snapshot, summary, rfl, passed, rfl⟩
      refine ⟨rfl, ⟨[], rfl, rfl⟩, .nil _, fun _ => rfl, fun stale => ?_, fun _ _ => .of_run passed⟩
      cases stale

theorem Consistent.reload (consistent : Consistent target first project)
    (loaded : Except LoadError Snapshot) : Consistent target first (project.reload loaded) := by
  cases accepts : project.session.accepts with
  | false =>
      have same : project.reload loaded =
          { project with source := project.source.remember loaded } := by
        simp [Project.reload, Session.send, accepts]
      rw [same]
      refine ⟨consistent.sameTarget, consistent.current, consistent.queue, fun accepting => ?_,
        consistent.stale, consistent.output⟩
      rw [accepts] at accepting
      cases accepting
  | true =>
      have last := consistent.source accepts
      have same : project.reload loaded =
          { project with
            source := project.source.remember loaded
            session :=
              { project.session with
                queue := project.session.queue ++ [project.source.classify loaded] }
            accepted := project.accepted ++ [project.source.classify loaded] } := by
        simp [Project.reload, Session.send, accepts]
      rw [same]
      rcases consistent.current with ⟨taken, split, current⟩
      refine ⟨consistent.sameTarget, ⟨taken, ?_, current⟩, consistent.queue.concat last loaded,
        fun _ => ?_, consistent.stale, consistent.output⟩
      · simp only [split, List.append_assoc]
      · rw [ConfigSource.last_remember last, lastLoaded_append]
        rfl

/-- Taking a batch: the current snapshot is the one the batch led to, and without a pass in hand it is
the one from before. -/
theorem Consistent.drain (consistent : Consistent target first project)
    (idle : project.session.phase = .idle) :
    Consistent target first { project with session := project.session.drain } := by
  rcases consistent.current with ⟨taken, split, current⟩
  have tracks := Batch.reload_tracks consistent.queue
  have led : project.session.drain.current =
      lastLoaded project.session.current project.session.queue := by
    cases reload : Batch.reload project.session.queue with
    | none =>
        rw [reload] at tracks
        rw [Session.current_drain_of_none reload]
        exact tracks.symm
    | some reload' =>
        rw [reload] at tracks
        rw [Session.current_drain_of_some reload]
        exact tracks.1
  refine ⟨?_, ⟨taken ++ project.session.queue, ?_, ?_⟩, ?_, fun accepts => ?_, fun stale => ?_,
    fun resting fresh => ?_⟩
  · rw [Session.target_drain, consistent.sameTarget]
  · rw [Session.queue_drain, List.append_nil, split]
  · rw [led, lastLoaded_append, current]
  · rw [Session.queue_drain]
    exact .nil _
  · rw [Session.accepts_drain idle] at accepts
    rw [consistent.source accepts, led, Session.queue_drain]
    rfl
  · rw [Session.stale_drain] at stale
    exact consistent.stale stale
  · rw [Session.stale_drain] at fresh
    have output := consistent.output (by rw [idle]; decide) fresh
    -- A batch without a pass has led back to where it started.
    have back : project.session.drain.current = project.session.current := by
      cases reload : Batch.reload project.session.queue with
      | none => exact Session.current_drain_of_none reload
      | some reload' =>
          rw [reload] at tracks
          rw [Session.phase_drain_of_some reload, fresh, Bool.or_false] at resting
          rw [led]
          apply tracks.2
          by_contra relevant
          rw [Bool.not_eq_false] at relevant
          rw [relevant, if_pos rfl] at resting
          exact resting rfl
    rw [back]
    exact output

theorem Consistent.turn (consistent : Consistent target first project) :
    Consistent target first project.turn := by
  have turned := Session.turned project.session project.disk
  unfold Project.turn
  generalize project.session.turn (m := StateM FaultyDisk) project.disk = result at turned ⊢
  cases turned with
  | waits resting =>
      rw [if_neg resting]
      exact consistent
  | stops idle =>
      rw [idle, if_neg (by decide)]
      refine ⟨consistent.sameTarget, consistent.current, consistent.queue, fun accepts => ?_,
        consistent.stale, fun _ => consistent.output (by rw [idle]; decide)⟩
      simp [Session.accepts, Session.stop] at accepts
  | drains idle =>
      rw [idle, if_neg (by decide)]
      exact consistent.drain idle
  | succeeds generating passed =>
      rw [if_pos generating]
      refine ⟨consistent.sameTarget, consistent.current, consistent.queue, fun accepts => ?_,
        fun stale => ?_, fun _ _ => ?_⟩
      · apply consistent.source
        simpa [Session.accepts, Session.passSucceeded, generating] using accepts
      · cases stale
      · rw [← consistent.sameTarget]
        exact .of_run passed
  | fails generating failed =>
      rw [if_pos generating]
      refine ⟨consistent.sameTarget, consistent.current, consistent.queue, fun accepts => ?_,
        fun _ => ?_, fun _ fresh => ?_⟩
      · apply consistent.source
        simpa [Session.accepts, Session.passFailed, generating] using accepts
      · exact ⟨_, by rw [failed]⟩
      · cases fresh

theorem Consistent.step (consistent : Consistent target first project) (step : Step project later) :
    Consistent target first later := by
  cases step with
  | reload loaded => exact consistent.reload loaded
  | turn => exact consistent.turn
  | endStream =>
      refine ⟨consistent.sameTarget, consistent.current, consistent.queue, fun accepts => ?_,
        consistent.stale, consistent.output⟩
      simp [Session.accepts, Session.endStream] at accepts
  | close =>
      exact ⟨consistent.sameTarget, consistent.current, consistent.queue, consistent.source,
        consistent.stale, consistent.output⟩
  | change disk elsewhere =>
      refine ⟨consistent.sameTarget, consistent.current, consistent.queue, consistent.source,
        consistent.stale, fun resting fresh => ?_⟩
      rw [consistent.sameTarget] at elsewhere
      exact (consistent.output resting fresh).of_agree elsewhere

/-- A history keeps what ties a project together. -/
theorem Consistent.history (consistent : Consistent target first project)
    (history : Relation.ReflTransGen Step project later) : Consistent target first later := by
  induction history with
  | refl => exact consistent
  | tail _ step ih => exact ih.step step

/-! ## The output along a history -/

/-- The files below the output directory are those that every pass of a snapshot leaves, and such a
pass here and now would succeed and change nothing. -/
def Agrees (target : Target) (snapshot : Snapshot) (disk : Disk) : Prop :=
  (∀ fresh after summary,
      Pass.run (m := StateM FaultyDisk) target snapshot fresh = (.ok summary, after) →
      ∀ below, disk.textAt? (target.output.location disk.working ++ below) =
        after.disk.textAt? (target.output.location after.disk.working ++ below)) ∧
    ∃ summary again, Pass.run (m := StateM Disk) target snapshot disk = (.ok summary, again) ∧
      again.Alike disk

theorem LeftBy.agrees {snapshot : Snapshot} {disk : Disk} (rooted : target.root.text ≠ [])
    (plain : target.output.IsPlain) (left : LeftBy target snapshot disk) :
    Agrees target snapshot disk := by
  rcases left with ⟨before, after, summary, succeeded, agree⟩
  refine ⟨fun fresh other _ succeedsFresh below => ?_, summary, ?_⟩
  · have holds := (Pass.replaces_of_run rooted plain succeeded).holds.of_agree agree
    have holdsFresh := (Pass.replaces_of_run rooted plain succeedsFresh).holds
    exact holds.textAt?_eq holdsFresh below
  · exact Pass.run_again rooted plain succeeded agree

/-- Watching agrees with generating once.  Whenever no pass is in hand, the last pass failed, or the
files below the output directory are those of the last snapshot that loaded among the changes taken
so far. -/
theorem output_agrees {source : ConfigSource} {loaded : Except LoadError Snapshot}
    {subscribed : Except WatchError Unit} {before : FaultyDisk} (rooted : target.root.text ≠ [])
    (plain : target.output.IsPlain)
    (started : start target source loaded subscribed before = .ok project)
    (history : Relation.ReflTransGen Step project later)
    (resting : later.session.phase ≠ .generating) :
    ∃ taken, later.accepted = taken ++ later.session.queue ∧
      ((∃ error, later.answer = .error error) ∨
        Agrees target (lastLoaded project.session.current taken) later.disk.disk) := by
  have consistent := (consistent_start started).history history
  rcases consistent.current with ⟨taken, split, current⟩
  refine ⟨taken, split, ?_⟩
  cases stale : later.session.stale with
  | true => exact .inl (consistent.stale stale)
  | false =>
      right
      rw [← current]
      exact (consistent.output resting stale).agrees rooted plain

/-- The small project after its application directory has changed and the next pass is done. -/
theorem output_agrees_after_reload :
    ∃ project, start .small { path := ⟨['c']⟩, mode := [] } (.ok (.rootOnly ['a'])) (.ok ())
        ⟨.small, []⟩ = .ok project ∧
      let later := (project.reload (.ok (.rootOnly ['b']))).turn.turn
      ∃ taken, later.accepted = taken ++ later.session.queue ∧
        ((∃ error, later.answer = .error error) ∨
          Agrees .small (lastLoaded project.session.current taken) later.disk.disk) := by
  have begins : ∃ project,
      start .small { path := ⟨['c']⟩, mode := [] } (.ok (.rootOnly ['a'])) (.ok ()) ⟨.small, []⟩ =
        .ok project ∧
      (project.reload (.ok (.rootOnly ['b']))).turn.turn.session.phase ≠ .generating :=
    ⟨_, rfl, by decide +kernel⟩
  rcases begins with ⟨project, started, resting⟩
  have history : Relation.ReflTransGen Step project
      (project.reload (.ok (.rootOnly ['b']))).turn.turn :=
    .tail (.tail (.single (.reload _ _)) (.turn _)) (.turn _)
  exact ⟨project, started,
    output_agrees (by decide) ⟨by decide, by decide⟩ started history resting⟩

end Project
end TypedRoutes
