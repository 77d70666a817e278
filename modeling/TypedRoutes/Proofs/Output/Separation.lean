import TypedRoutes.Proofs.Output.Plan
import TypedRoutes.Proofs.Path.Beginnings

namespace TypedRoutes

/-!
# Files that can stand side by side

Two files of one directory need different places, and neither place may lead through the other: a
file is no directory.  A pass asks only whether places are different.  What is left to ask is stated
here on ids and the application directory, and it is not void: an id may name the declaration file
of another route as one of its directories, and the application directory may have the name of a
file that belongs to no single route.
-/

namespace Placement

variable {appDirectory id first second name : Text}

/-- Where the declaration file of an id lies below the application directory. -/
def file (id : Text) : Location :=
  (key id).dropLast ++ [typesDirectory, (key id).getLastD ['_'] ++ ".ts"]

/-- The directories that the file's own directory `+types` lies in. -/
def directories (appDirectory id : Text) : Location := appParts appDirectory ++ (key id).dropLast

theorem components_eq_append_file : components appDirectory id = appParts appDirectory ++ file id := by
  simp only [components, file, List.append_assoc]

/-- A key ends in the name that the file takes. -/
theorem exists_key_eq_concat (id : Text) :
    ∃ directories last, key id = directories ++ [last] ∧ Path.IsName last ∧
      file id = directories ++ [typesDirectory, last ++ (".ts" : Text)] := by
  rcases (List.eq_nil_or_concat (key id)).resolve_left (key_ne_nil id) with ⟨directories, last, eq⟩
  rw [List.concat_eq_append] at eq
  have member : last ∈ key id := by
    rw [eq]
    simp
  exact ⟨directories, last, eq, isName_of_mem_key member, by rw [file, eq]; simp⟩

theorem append_ts_ne_typesDirectory (part : Text) : part ++ (".ts" : Text) ≠ typesDirectory := by
  intro same
  have ends : (".ts" : Text) <:+ typesDirectory := ⟨part, same⟩
  exact absurd ends (by decide)

/-- A declaration file is met on the way to another one only among the directories of its id. -/
theorem file_prefix_file_iff :
    file first <+: file second ↔ file first = file second ∨ file first <+: (key second).dropLast := by
  have shape : file second = (key second).dropLast ++ [typesDirectory]
      ++ [(key second).getLastD ['_'] ++ ".ts"] := by simp [file]
  have notTypes : file first ≠ (key second).dropLast ++ [typesDirectory] := by
    intro same
    have lasts := congrArg List.getLast? same
    rw [List.getLast?_concat, file, List.append_cons, List.getLast?_concat] at lasts
    exact append_ts_ne_typesDirectory _ (Option.some.inj lasts)
  rw [shape, List.prefix_concat_iff, List.prefix_concat_iff, or_iff_right notTypes]

/-- A name that is not `+types` opens a place where it opens its directories. -/
theorem singleton_prefix_components_iff (notTypes : name ≠ typesDirectory) :
    [name] <+: components appDirectory id ↔ (directories appDirectory id).head? = some name := by
  rw [show components appDirectory id = directories appDirectory id
    ++ [typesDirectory, (key id).getLastD ['_'] ++ ".ts"] from rfl]
  cases directories appDirectory id with
  | nil => simp [notTypes]
  | cons part parts => simp [eq_comm]

theorem length_directories_lt : (key id).dropLast.length < (file id).length := by
  simp only [file, List.length_append, List.length_cons, List.length_nil]
  omega

end Placement

namespace Declaration

/-- The names of the files that belong to no single route. -/
def sharedNames : List Text := [registerName, serverBuildName]

theorem isName_of_mem_sharedNames {name : Text} (member : name ∈ sharedNames) :
    Path.IsName name := by
  simp only [sharedNames, List.mem_cons, List.not_mem_nil, or_false] at member
  rcases member with rfl | rfl
  · exact isName_registerName
  · exact isName_serverBuildName

theorem sharedName_ne_typesDirectory {name : Text} (member : name ∈ sharedNames) :
    name ≠ Placement.typesDirectory := by
  have each : ∀ name ∈ sharedNames, name ≠ Placement.typesDirectory := by decide
  exact each name member

end Declaration

namespace Snapshot

variable {snapshot : Snapshot}

/-- The places of all files of an output directory, in the order of writing. -/
def places (snapshot : Snapshot) : List Location :=
  (snapshot.routes.map fun route => Placement.components snapshot.appDirectory route.id)
    ++ Declaration.sharedNames.map fun name => [name]

/-- What keeps the files of an output directory out of each other's way, where no two routes have
the same place. -/
structure Separate (snapshot : Snapshot) : Prop where
  /-- No id names a declaration file as one of its directories. -/
  own : ∀ first ∈ snapshot.routes, ∀ second ∈ snapshot.routes,
    ¬ Placement.file first.id <+: (Placement.key second.id).dropLast
  /-- No declaration file lies in a directory with the name of a shared file. -/
  shared : ∀ route ∈ snapshot.routes, ∀ name ∈ Declaration.sharedNames,
    (Placement.directories snapshot.appDirectory route.id).head? ≠ some name

theorem mem_places {place : Location} :
    place ∈ snapshot.places ↔
      (∃ route ∈ snapshot.routes,
        Placement.components snapshot.appDirectory route.id = place) ∨
      ∃ name ∈ Declaration.sharedNames, [name] = place := by
  simp only [places, List.mem_append, List.mem_map]

/-- An output directory whose files fit fits itself. -/
theorem fits_of_places {output : Path} (nonempty : output.text ≠ [])
    (fits : ∀ place ∈ snapshot.places, (output.join (Path.ofNames place)).Fits) : output.Fits := by
  have isPlace : [Declaration.registerName] ∈ snapshot.places :=
    mem_places.2 (.inr ⟨_, List.mem_cons_self, rfl⟩)
  have relative : (Path.ofNames [Declaration.registerName]).isAbsolute = false := by decide
  exact Path.fits_of_join nonempty relative (fits _ isPlace)

/-- Places differ where those of the routes do. -/
theorem nodup_places (distinct : (snapshot.routes.map fun route =>
    Placement.path snapshot.appDirectory route.id).Nodup) : snapshot.places.Nodup := by
  apply Pass.nodup_append_shared
  · refine List.Nodup.of_map (Text.glue '/') ?_
    rw [List.map_map]
    exact distinct
  · intro place isOwn name
    rcases List.mem_map.1 isOwn with ⟨route, -, rfl⟩
    exact Placement.components_ne_singleton _ _ _

/-- No place leads through another one exactly if the ids and the application directory are
separate. -/
theorem prefix_free_iff :
    (∀ place ∈ snapshot.places, ∀ other ∈ snapshot.places, place <+: other → place = other) ↔
      snapshot.Separate := by
  constructor
  · intro free
    constructor
    · intro first isFirst second isSecond leads
      have same := free _ (mem_places.2 (.inl ⟨first, isFirst, rfl⟩))
        _ (mem_places.2 (.inl ⟨second, isSecond, rfl⟩))
      simp only [Placement.components_eq_append_file, List.prefix_append_right_inj,
        List.append_cancel_left_eq] at same
      have bound := leads.length_le
      rw [same (Placement.file_prefix_file_iff.2 (.inr leads))] at bound
      exact absurd Placement.length_directories_lt (Nat.not_lt.2 bound)
    · intro route isRoute name isName opens
      have leads := (Placement.singleton_prefix_components_iff
        (Declaration.sharedName_ne_typesDirectory isName)).2 opens
      exact Placement.components_ne_singleton _ _ _
        (free _ (mem_places.2 (.inr ⟨name, isName, rfl⟩))
          _ (mem_places.2 (.inl ⟨route, isRoute, rfl⟩)) leads).symm
  · intro separate place isPlace other isOther leads
    rcases mem_places.1 isPlace with ⟨first, isFirst, rfl⟩ | ⟨name, isName, rfl⟩
    · rcases mem_places.1 isOther with ⟨second, isSecond, rfl⟩ | ⟨name, -, rfl⟩
      · simp only [Placement.components_eq_append_file, List.prefix_append_right_inj] at leads ⊢
        rcases Placement.file_prefix_file_iff.1 leads with same | through
        · rw [same]
        · exact absurd through (separate.own first isFirst second isSecond)
      · have long := Placement.two_le_length_components snapshot.appDirectory first.id
        have bound := leads.length_le
        rw [List.length_singleton] at bound
        omega
    · rcases mem_places.1 isOther with ⟨second, isSecond, rfl⟩ | ⟨otherName, -, rfl⟩
      · have opens := (Placement.singleton_prefix_components_iff
          (Declaration.sharedName_ne_typesDirectory isName)).1 leads
        exact absurd opens (separate.shared second isSecond name isName)
      · exact leads.eq_of_length rfl

end Snapshot

/-- The contents of an output directory are at its places. -/
theorem Pass.places_of_contents {frameworkModule : Text} {snapshot : Snapshot}
    {all : List (Location × Text)} (made : contents frameworkModule snapshot = .ok all) :
    all.map (·.1) = snapshot.places := by
  rcases contents_eq_ok_iff.1 made with ⟨own, register, each, -, rfl⟩
  rw [List.map_append, places_of_routeContent each]
  rfl

end TypedRoutes
