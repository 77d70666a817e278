import TypedRoutes.Proofs.Output.Built
import TypedRoutes.Proofs.Output.Creation

namespace TypedRoutes

/-!
# Routes that share a declaration file

Placement sees no more of an id than its key, and from the place the key can be read back: so two routes
share a file exactly if their ids have one key, in whatever application directory.  Making the texts goes
through the routes with a table of the places that are taken.  It stops at the first route whose key
was used before, and the table names the one route before it that has this key.  Nothing has been asked
of the file system by then.
-/

namespace Placement

variable {appDirectory first second : Text}

/-- A file below the application directory has the key written on it. -/
theorem file_eq_iff : file first = file second ↔ key first = key second := by
  rcases exists_key_eq_concat first with ⟨directories, last, isKey, -, isFile⟩
  rcases exists_key_eq_concat second with ⟨others, other, isKeySecond, -, isFileSecond⟩
  rw [isFile, isFileSecond, isKey, isKeySecond]
  constructor
  · intro same
    rcases List.append_inj' same rfl with ⟨rfl, names⟩
    rw [List.append_cancel_right (List.cons.inj (List.cons.inj names).2).1]
  · intro same
    rcases List.append_inj' same rfl with ⟨rfl, names⟩
    rw [(List.cons.inj names).1]

/-- Two ids have one place exactly if they have one key. -/
theorem path_eq_iff : path appDirectory first = path appDirectory second ↔ key first = key second := by
  rw [← file_eq_iff, ← List.append_cancel_left_eq (appParts appDirectory),
    ← components_eq_append_file, ← components_eq_append_file]
  exact ⟨components_eq_of_path_eq, congrArg (Text.glue '/')⟩

end Placement

theorem Pass.nodup_places_iff {appDirectory : Text} {routes : List Route} :
    (routes.map fun route => Placement.path appDirectory route.id).Nodup ↔
      (routes.map fun route => Placement.key route.id).Nodup := by
  rw [List.Nodup, List.Nodup, List.pairwise_map, List.pairwise_map]
  simp only [ne_eq, Placement.path_eq_iff]

/-! ## The first repetition -/

/-- A list that repeats a key has a first item whose key was used before. -/
theorem exists_first_repeated {α β : Type} {key : α → β} {items : List α}
    (repeated : ¬ (items.map key).Nodup) :
    ∃ before item after, items = before ++ item :: after ∧ (before.map key).Nodup ∧
      ∃ earlier ∈ before, key earlier = key item := by
  induction items using List.reverseRecOn with
  | nil => exact absurd List.nodup_nil repeated
  | append_singleton items last ih =>
      by_cases distinct : (items.map key).Nodup
      · have again : key last ∈ items.map key := by
          by_contra new
          rw [List.map_append, List.map_singleton, List.nodup_append_comm, List.singleton_append,
            List.nodup_cons] at repeated
          exact repeated ⟨new, distinct⟩
        exact ⟨items, last, [], rfl, distinct, List.mem_map.1 again⟩
      · rcases ih distinct with ⟨before, item, after, rfl, distinctBefore, again⟩
        exact ⟨before, item, after ++ [last], by simp, distinctBefore, again⟩

namespace Pass

variable {target : Target} {snapshot : Snapshot} {owners : List (Text × Text)}
  {earlier before after : List Route} {route first second : Route}

/-! ## The table of places -/

/-- A table of places gives the owner of every place that is taken, and nothing for a free one. -/
structure Owned (snapshot : Snapshot) (owners : List (Text × Text)) (earlier : List Route) :
    Prop where
  taken : ∀ route ∈ earlier,
    owners.lookup (Placement.path snapshot.appDirectory route.id) = some route.id
  free : ∀ id, Placement.key id ∉ earlier.map (fun route => Placement.key route.id) →
    owners.lookup (Placement.path snapshot.appDirectory id) = none

theorem owned_nil (snapshot : Snapshot) : Owned snapshot [] [] where
  taken _ member := absurd member List.not_mem_nil
  free _ _ := rfl

/-- A route with a new key takes its place, and leaves all others as they are. -/
theorem Owned.next (owned : Owned snapshot owners earlier)
    (new : Placement.key route.id ∉ earlier.map fun route => Placement.key route.id) :
    Owned snapshot ((Placement.path snapshot.appDirectory route.id, route.id) :: owners)
      (earlier ++ [route]) := by
  have other : ∀ id, Placement.key id ≠ Placement.key route.id →
      ((Placement.path snapshot.appDirectory route.id, route.id) :: owners).lookup
        (Placement.path snapshot.appDirectory id) =
      owners.lookup (Placement.path snapshot.appDirectory id) := by
    intro id apart
    rw [List.lookup_cons, beq_eq_false_iff_ne.2 (mt Placement.path_eq_iff.1 apart)]
  constructor
  · intro taken member
    rcases List.mem_append.1 member with isEarlier | isLast
    · rw [other, owned.taken taken isEarlier]
      exact fun same => new (List.mem_map.2 ⟨taken, isEarlier, same⟩)
    · rw [List.mem_singleton.1 isLast, List.lookup_cons_self]
  · intro id free
    rw [List.map_append, List.mem_append, not_or, List.map_singleton, List.mem_singleton] at free
    rw [other id free.2, owned.free id free.1]

/-- The files of routes are refused at the first key that was used before. -/
theorem routeFiles_of_repeated (owned : Owned snapshot owners earlier)
    (made : ∀ route ∈ before, ∃ text,
      Declaration.routeFile target.frameworkModule snapshot route = .ok text)
    (distinct : ((earlier ++ before).map fun route => Placement.key route.id).Nodup)
    (isEarlier : first ∈ earlier ++ before)
    (same : Placement.key first.id = Placement.key second.id) :
    routeFiles target snapshot owners (before ++ second :: after) =
      .error (.placeTaken (Placement.path snapshot.appDirectory second.id) first.id second.id) := by
  induction before generalizing owners earlier with
  | nil =>
      rw [List.append_nil] at isEarlier
      have taken := owned.taken first isEarlier
      rw [Placement.path_eq_iff.2 same] at taken
      rw [List.nil_append, routeFiles]
      simp only [taken]
  | cons route before ih =>
      have new : Placement.key route.id ∉ earlier.map fun route => Placement.key route.id := by
        rw [List.map_append, List.map_cons, List.nodup_middle, List.nodup_cons, List.mem_append,
          not_or] at distinct
        exact distinct.1.1
      rcases made route List.mem_cons_self with ⟨text, makes⟩
      have refused := ih (owned.next new)
        (fun other member => made other (List.mem_cons_of_mem _ member))
        (by rwa [List.append_assoc]) (by rwa [List.append_assoc])
      rw [List.cons_append, routeFiles]
      simp only [owned.free route.id new, makes, refused]
      rfl

/-! ## Passes -/

/-- The first route in the order of declaration whose key was used before, and the one route
before it that has this key. -/
structure FirstShared (snapshot : Snapshot) (first second : Route) : Prop where
  split : ∃ before after, snapshot.routes = before ++ second :: after ∧
    (before.map fun route => Placement.key route.id).Nodup ∧ first ∈ before ∧
    ∀ route ∈ before, Placement.key route.id = Placement.key second.id ↔ route = first
  place : Placement.path snapshot.appDirectory first.id =
    Placement.path snapshot.appDirectory second.id

variable {rootId : Text} {routes : List Route} {working : Location}

theorem plan_of_shared (built : RouteTree.build rootId routes = .ok snapshot.tree)
    (accepted : target.firstCovered? working = none)
    (repeated : ¬ (snapshot.routes.map fun route => Placement.key route.id).Nodup) :
    ∃ first second, FirstShared snapshot first second ∧
      plan working target snapshot = .error (.placeTaken
        (Placement.path snapshot.appDirectory second.id) first.id second.id) := by
  rcases exists_first_repeated repeated with
    ⟨before, second, after, shape, distinct, first, isEarlier, same⟩
  have refused : routeFiles target snapshot [] snapshot.routes = .error (.placeTaken
      (Placement.path snapshot.appDirectory second.id) first.id second.id) := by
    rw [shape]
    refine routeFiles_of_repeated (owned_nil snapshot) (fun route member => ?_) distinct isEarlier same
    exact Declaration.exists_routeFile built _ (by rw [shape]; exact List.mem_append_left _ member)
  refine ⟨first, second, ⟨⟨before, after, shape, distinct, isEarlier, fun route member => ?_⟩,
    Placement.path_eq_iff.2 same⟩, ?_⟩
  · rw [← same]
    exact ⟨fun sameKey => List.inj_on_of_nodup_map distinct member isEarlier sameKey,
      fun isFirst => by rw [isFirst]⟩
  · rw [plan, accepted]
    simp only [outputFiles, refused]
    rfl

/-- No route is declared twice, so a key is used twice exactly if two routes have one key. -/
theorem repeated_iff (snapshot : Snapshot) :
    ¬ (snapshot.routes.map fun route => Placement.key route.id).Nodup ↔
      ∃ first ∈ snapshot.routes, ∃ second ∈ snapshot.routes, first ≠ second ∧
        Placement.key first.id = Placement.key second.id := by
  rw [List.nodup_map_iff_inj_on (snapshot.tree.distinct.of_map _)]
  constructor
  · intro repeated
    push Not at repeated
    rcases repeated with ⟨first, isFirst, second, isSecond, same, apart⟩
    exact ⟨first, isFirst, second, isSecond, apart, same⟩
  · rintro ⟨first, isFirst, second, isSecond, apart, same⟩ unique
    exact apart (unique first isFirst second isSecond same)

/-- What a pass of a built tree into an accepted directory does about routes that share a file.  It is
refused exactly if two routes have one key, whatever the application directory and whatever trouble is
ahead; the first route whose key was used before is blamed, with the one before it that has
this key; and nothing is changed. -/
theorem run_refuses_shared (start : FaultyDisk)
    (built : RouteTree.build rootId routes = .ok snapshot.tree)
    (accepted : target.firstCovered? start.disk.working = none) :
    ((∃ place firstId secondId, (run (m := StateM FaultyDisk) target snapshot start).1 =
        .error (.placeTaken place firstId secondId)) ↔
      ∃ first ∈ snapshot.routes, ∃ second ∈ snapshot.routes, first ≠ second ∧
        Placement.key first.id = Placement.key second.id) ∧
    ∀ place firstId secondId, (run (m := StateM FaultyDisk) target snapshot start).1 =
        .error (.placeTaken place firstId secondId) →
      (run (m := StateM FaultyDisk) target snapshot start).2 = start ∧
        ∃ first second, FirstShared snapshot first second ∧ firstId = first.id ∧
          secondId = second.id ∧ place = Placement.path snapshot.appDirectory second.id := by
  rw [← repeated_iff snapshot, run_faulty]
  by_cases distinct : (snapshot.routes.map fun route => Placement.key route.id).Nodup
  · -- The texts are made, and after that only clearing and writing can fail.
    have places : (snapshot.routes.map fun route =>
        Placement.path snapshot.appDirectory route.id).Nodup :=
      nodup_places_iff.2 distinct
    rcases exists_contents built target.frameworkModule with ⟨all, made⟩
    rw [plan_of_distinct accepted made places]
    have never : ∀ place firstId secondId,
        (replace target snapshot (all.map (fileOf target.output)) start).1 ≠
          .error (.placeTaken place firstId secondId) := by
      intro place firstId secondId failed
      rcases replace_eq_error (Prod.ext failed rfl) with ⟨fault, other⟩ | ⟨path, fault, other⟩
      · cases other
      · cases other
    refine ⟨iff_of_false ?_ (not_not_intro distinct), fun _ _ _ failed => absurd failed (never _ _ _)⟩
    rintro ⟨place, firstId, secondId, failed⟩
    exact never _ _ _ failed
  · rcases plan_of_shared built accepted distinct with ⟨first, second, shared, refused⟩
    rw [refused]
    refine ⟨iff_of_true ⟨_, _, _, rfl⟩ distinct, fun place firstId secondId failed => ⟨rfl, ?_⟩⟩
    cases failed
    exact ⟨first, second, shared, rfl, rfl, rfl⟩

end Pass

/-- Two pairs of routes with one key each; the second pair is complete first. -/
def Snapshot.colliding : Snapshot :=
  { appDirectory := ['a']
    mode := []
    future := {}
    tree := ⟨['r'], [{ id := ['r'] }, { id := ['x'] }, { id := ['_'] }, { id := ['.'] },
      { id := ['x', '/'] }], _, _, rfl, rfl⟩ }

/-- In the small project, the pair that is complete first is reported before the trouble ahead is
met. -/
theorem Pass.run_refuses_shared_colliding :
    RouteTree.build ['r'] Snapshot.colliding.routes = .ok Snapshot.colliding.tree ∧
      Target.small.firstCovered? Disk.small.working = none ∧
      (∃ first ∈ Snapshot.colliding.routes, ∃ second ∈ Snapshot.colliding.routes, first ≠ second ∧
        Placement.key first.id = Placement.key second.id) ∧
      run (m := StateM FaultyDisk) .small .colliding ⟨.small, [some ⟨['!'], [], none⟩]⟩ =
        (.error (.placeTaken "a/+types/_.ts" ['_'] ['.']), ⟨.small, [some ⟨['!'], [], none⟩]⟩) ∧
      ∃ first second, FirstShared .colliding first second ∧ ['_'] = first.id ∧
        ['.'] = second.id := by
  have built : RouteTree.build ['r'] Snapshot.colliding.routes = .ok Snapshot.colliding.tree := by
    rfl
  have accepted : Target.small.firstCovered? Disk.small.working = none := by decide
  have answer : (run (m := StateM FaultyDisk) .small .colliding
      ⟨.small, [some ⟨['!'], [], none⟩]⟩).1 =
        .error (.placeTaken "a/+types/_.ts" ['_'] ['.']) := by rfl
  rcases run_refuses_shared ⟨.small, [some ⟨['!'], [], none⟩]⟩ built accepted with
    ⟨refused_iff, refused⟩
  rcases refused _ _ _ answer with ⟨unchanged, first, second, shared, isFirst, isSecond, -⟩
  exact ⟨built, accepted, refused_iff.1 ⟨_, _, _, answer⟩, Prod.ext answer unchanged, first, second,
    shared, isFirst, isSecond⟩

end TypedRoutes
