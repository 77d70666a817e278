import TypedRoutes.Watch.Batch

namespace TypedRoutes

/-!
# Runs of changes

A source compares every snapshot with the last one that loaded, so its changes form a chain.  Of such
a chain a batch may take any part: folding it gives the snapshot that the chain has led to, and where
the fold reports no change at all, that is the snapshot it started from, however many reloads failed,
came and went in between.
-/

/-- The snapshot that counts after a change. -/
def Change.next (current : Snapshot) (change : Change) : Snapshot :=
  match change.result with
  | .ok new => new
  | .error _ => current

/-- The last snapshot that loaded, after a run of changes. -/
def lastLoaded (first : Snapshot) (changes : List Change) : Snapshot :=
  changes.foldl Change.next first

theorem lastLoaded_append (first : Snapshot) (changes more : List Change) :
    lastLoaded first (changes ++ more) = lastLoaded (lastLoaded first changes) more :=
  List.foldl_append

/-- The runs of changes that a source produces from the last snapshot that loaded. -/
inductive Produced : Snapshot → List Change → Prop where
  | nil (current : Snapshot) : Produced current []
  | failed {current : Snapshot} (message : Text) {rest : List Change} (later : Produced current rest) :
      Produced current (.failed message :: rest)
  | between (current : Snapshot) {new : Snapshot} {rest : List Change} (later : Produced new rest) :
      Produced current (.between current new :: rest)

namespace Produced

variable {current : Snapshot} {changes : List Change}

/-- A run goes on with what its source produces next. -/
theorem concat (produced : Produced current changes) {source : ConfigSource}
    (last : source.last = some (lastLoaded current changes)) (loaded : Except LoadError Snapshot) :
    Produced current (changes ++ [source.classify loaded]) := by
  induction produced with
  | nil current =>
      cases loaded with
      | error error => exact .failed _ (.nil current)
      | ok new =>
          rw [ConfigSource.classify]
          simp only [last]
          exact .between current (.nil new)
  | failed message _ ih => exact .failed message (ih last)
  | between current _ ih => exact .between current (ih last)

end Produced

/-- What a source remembers is the last snapshot that loaded. -/
theorem ConfigSource.last_remember {source : ConfigSource} {current : Snapshot}
    (last : source.last = some current) (loaded : Except LoadError Snapshot) :
    (source.remember loaded).last = some (Change.next current (source.classify loaded)) := by
  cases loaded with
  | error error => exact last
  | ok new =>
      rw [classify]
      simp only [last]
      rfl

/-! ## Folding a run -/

/-- Snapshots that differ nowhere are equal. -/
theorem Snapshot.eq_of_not_differ {old new : Snapshot} (general : old.generalDiffer new = false)
    (routes : old.routesDiffer new = false) : old = new := by
  cases old
  cases new
  simp only [generalDiffer, routesDiffer, Bool.or_eq_false_iff, decide_eq_false_iff_not,
    ne_eq, Decidable.not_not] at general routes
  rcases general with ⟨⟨rfl, rfl⟩, rfl⟩
  rw [routes]

/-- What a batch asks for so far: the snapshot it has led to, and if it calls for no new output, that
is the snapshot it started from. -/
def Reload.Tracks (start current : Snapshot) : Option Reload → Prop
  | none => current = start
  | some reload => reload.snapshot = current ∧ (reload.isRelevant = false → current = start)

namespace Reload

variable {start current : Snapshot} {earlier : Option Reload}

theorem tracks_failed (tracks : Tracks start current earlier) (message : Text) :
    Tracks start current (followedBy earlier (.failed message)) := tracks

/-- One more reload: flags of the earlier ones are kept, so nothing is lost. -/
theorem tracks_between (tracks : Tracks start current earlier) (new : Snapshot) :
    Tracks start new (followedBy earlier (.between current new)) := by
  constructor
  · rfl
  · intro irrelevant
    simp only [isRelevant, Change.between, Bool.or_eq_false_iff] at irrelevant
    rcases irrelevant with ⟨⟨earlierGeneral, general⟩, earlierRoutes, routes⟩
    have same := Snapshot.eq_of_not_differ general routes
    cases earlier with
    | none => exact same.symm.trans tracks
    | some reload =>
        refine same.symm.trans (tracks.2 ?_)
        have noGeneral : reload.generalChanged = false := by simpa using earlierGeneral
        have noRoutes : reload.routesChanged = false := by simpa using earlierRoutes
        rw [isRelevant, noGeneral, noRoutes]
        rfl

theorem tracks_foldl (tracks : Tracks start current earlier) {changes : List Change}
    (produced : Produced current changes) :
    Tracks start (lastLoaded current changes) (changes.foldl followedBy earlier) := by
  induction produced generalizing earlier with
  | nil current => exact tracks
  | failed message _ ih => exact ih (tracks_failed tracks message)
  | between current _ ih => exact ih (tracks_between tracks _)

end Reload

/-- A batch of a run asks for what the run led to. -/
theorem Batch.reload_tracks {current : Snapshot} {changes : List Change}
    (produced : Produced current changes) :
    Reload.Tracks current (lastLoaded current changes) (Batch.reload changes) :=
  Reload.tracks_foldl (show Reload.Tracks current current none from rfl) produced

end TypedRoutes
