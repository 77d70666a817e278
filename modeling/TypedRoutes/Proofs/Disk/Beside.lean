import TypedRoutes.Proofs.Disk.Opening
import TypedRoutes.Proofs.Disk.Writing

namespace TypedRoutes

/-!
# Files of one directory

Files that a path has behind it as single names stand beside each other: whether a request gets to one
of them depends on the places that the path comes by, and on the name only for its length.  Writing
one may make directories at those places and nowhere else.  So the others are not touched, unless the
path comes by one of them on a detour through `..`.
-/

namespace Path

variable {base : Path} {name other : Text}

/-! ## A name behind a path -/

section Name

variable (base) (isName : IsName name)

include isName

theorem isAbsolute_ofName : (ofNames [name]).isAbsolute = false :=
  isAbsolute_ofNames fun _ member => List.mem_singleton.1 member ▸ isName

theorem text_join_name_ne_nil : (base.join (ofNames [name])).text ≠ [] := by
  rcases exists_text_join base with ⟨front, text⟩
  rw [text _ (isAbsolute_ofName isName)]
  exact fun none => isName.nonempty (List.append_eq_nil_iff.1 none).2

theorem endsInSlash_join_name : (base.join (ofNames [name])).endsInSlash = false := by
  rcases exists_text_join base with ⟨front, text⟩
  have last : name.getLast isName.nonempty ≠ '/' := by
    intro slash
    exact isName.slash_free (slash ▸ List.getLast_mem isName.nonempty)
  rw [endsInSlash, text _ (isAbsolute_ofName isName)]
  change decide ((front ++ name).getLast? = some '/') = false
  rw [List.getLast?_append, List.getLast?_eq_some_getLast isName.nonempty, Option.some_or]
  simpa using last

theorem steps_join_name : (base.join (ofNames [name])).steps = base.steps ++ [.name name] := by
  have areNames : ∀ part ∈ [name], IsName part := fun _ member => List.mem_singleton.1 member ▸ isName
  by_cases empty : base.text = []
  · rw [join_of_empty empty, steps_ofNames (List.cons_ne_nil _ _) areNames]
    rcases base with ⟨text⟩
    subst empty
    rfl
  · exact steps_join_ofNames empty (List.cons_ne_nil _ _) areNames

theorem start_join_name (working : Location) :
    (base.join (ofNames [name])).start working = base.start working := by
  by_cases empty : base.text = []
  · rw [join_of_empty empty, start, isAbsolute_ofName isName]
    rcases base with ⟨text⟩
    subst empty
    rfl
  · rw [start, start, isAbsolute_join empty (isAbsolute_ofName isName)]

theorem location_join_name (working : Location) :
    (base.join (ofNames [name])).location working = base.location working ++ [name] :=
  location_join_ofNames base (List.cons_ne_nil _ _)
    (fun _ member => List.mem_singleton.1 member ▸ isName) working

/-- A file system that accepts a name behind a path accepts a shorter one. -/
theorem Fits.beside (fits : (base.join (ofNames [name])).Fits) (isOther : IsName other)
    (nulFree : '\x00' ∉ other) (shorter : Text.utf8Length other ≤ Text.utf8Length name) :
    (base.join (ofNames [other])).Fits := by
  rcases exists_text_join base with ⟨front, text⟩
  have fitsNul := fits.nul_free
  have fitsShort := fits.short
  have fitsNames := fits.names_short
  rw [text _ (isAbsolute_ofName isName)] at fitsNul fitsShort
  change '\x00' ∉ front ++ name at fitsNul
  change Text.utf8Length (front ++ name) ≤ _ at fitsShort
  rw [List.mem_append, not_or] at fitsNul
  rw [Text.utf8Length_append] at fitsShort
  rw [steps_join_name base isName, names_append] at fitsNames
  refine ⟨?_, ?_, ?_⟩
  · rw [text _ (isAbsolute_ofName isOther), List.mem_append, not_or]
    exact ⟨fitsNul.1, nulFree⟩
  · rw [text _ (isAbsolute_ofName isOther), Text.utf8Length_append]
    change _ + Text.utf8Length other ≤ _
    omega
  · rw [steps_join_name base isOther, names_append]
    intro part member
    rcases List.mem_append.1 member with inBase | isLast
    · exact fitsNames part (List.mem_append_left _ inBase)
    · have bound := fitsNames name (List.mem_append_right _ List.mem_cons_self)
      rw [List.mem_singleton.1 isLast]
      omega

end Name

/-! ## Detours -/

/-- The places that a path comes by lie above its location, or are directories. -/
def Firm (path : Path) (disk : Disk) : Prop :=
  ∀ place ∈ trail (path.start disk.working) path.steps,
    place <+: path.location disk.working ∨ disk.entryAt? place = some .directory

/-- A path that never goes up is firm on every disk. -/
theorem firm_of_straight {path : Path} (straight : .up ∉ path.steps) (disk : Disk) :
    path.Firm disk := by
  intro place passed
  left
  rw [location_eq_start_append straight]
  exact prefix_of_mem_trail straight passed

/-- A firm path does not come by a missing place or a file in its directory. -/
theorem Firm.not_mem_trail {path : Path} {disk : Disk} (firm : path.Firm disk)
    (noDirectory : disk.entryAt? (path.location disk.working ++ [name]) ≠ some .directory) :
    path.location disk.working ++ [name] ∉ trail (path.start disk.working) path.steps := by
  intro passed
  rcases firm _ passed with above | directory
  · exact Disk.not_prefix_above (List.cons_ne_nil _ _) above
  · exact noDirectory directory

/-- Where something is in the directory that a firm path leads to, the path comes by directories. -/
theorem Firm.directories {path : Path} {disk : Disk} (firm : path.Firm disk)
    (shown : disk.entryAt? (path.location disk.working ++ [name]) ≠ none) :
    ∀ place ∈ trail (path.start disk.working) path.steps, disk.entryAt? place = some .directory := by
  intro place passed
  rcases firm place passed with above | directory
  · exact Disk.directory_above above (Disk.entryAt?_of_append_ne_none (List.cons_ne_nil _ _) shown)
  · exact directory

/-- The directories above what a path leads to are at places that the path comes by. -/
theorem location_mem_trail_of_mem_beginnings {absolute : Bool} {pieces : List Text}
    (isBody : IsBody absolute pieces.reverse) (working : Location) :
    ∀ path ∈ (beginnings absolute pieces).map (ofReversed absolute),
      path.location working ∈ trail (if absolute then [] else working) (stepsOf pieces) := by
  induction pieces with
  | nil => exact fun _ none => absurd none List.not_mem_nil
  | cons piece before ih =>
      intro path member
      rw [beginnings] at member
      split at member
      case isTrue => exact Disk.mem_trail_cons (ih isBody.init path member)
      case isFalse =>
        rw [List.map_cons] at member
        rcases List.mem_cons.1 member with rfl | above
        · rw [location, isBody.steps_ofReversed (List.cons_ne_nil _ _), isBody.start_ofReversed]
          exact foldl_mem_trail _ _
        · exact Disk.mem_trail_cons (ih isBody.init path above)

theorem location_mem_trail_of_mem_above (base : Path) (isName : IsName name) (working : Location) :
    ∀ path ∈ (base.join (ofNames [name])).above,
      path.location working ∈ trail (base.start working) base.steps := by
  by_cases empty : base.text = []
  · have body := body_ofNames (List.cons_ne_nil name [])
      fun _ member => List.mem_singleton.1 member ▸ isName
    rw [join_of_empty empty, above, upward, body, List.reverse_singleton, beginnings, beginnings]
    intro path member
    split at member <;> exact absurd member List.not_mem_nil
  · rw [above_join_name empty isName, upward, steps_eq_stepsOf, start]
    refine location_mem_trail_of_mem_beginnings ?_ working
    rw [List.reverse_reverse]
    exact isBody_body empty

end Path

namespace Disk

open FileSystem
open TypedRoutes.Path (IsName ofNames trail)

variable {disk middle after : Disk} {base path : Path} {name text : Text} {place : Location}

/-- What a path without a slash at its end finds. -/
theorem exists_find_iff (noSlash : path.endsInSlash = false) : (∃ found, disk.find path = .ok found) ↔
    ∃ location, disk.locate path = .ok location ∧ disk.entryAt? location ≠ none := by
  unfold find
  cases located : disk.locate path with
  | error fault => simp
  | ok location =>
      change _ ↔ ∃ other, Except.ok location = .ok other ∧ (disk.at? other).map Node.entry ≠ none
      cases shown : disk.at? location with
      | none => simp [shown]
      | some node => cases node <;> simp [shown, noSlash]

/-- When a request gets to a file in a directory. -/
theorem locate_join_name_iff (isName : IsName name) :
    disk.locate (base.join (ofNames [name])) = .ok place ↔
      (base.join (ofNames [name])).Fits ∧
        (∀ passed ∈ trail (base.start disk.working) base.steps,
          disk.entryAt? passed = some .directory) ∧
        place = base.location disk.working ++ [name] := by
  constructor
  · intro located
    refine ⟨fits_of_locate located, ?_, ?_⟩
    · have walked := (locate_eq_ok_iff.1 located).2.2.2
      rw [Path.start_join_name base isName, Path.steps_join_name base isName] at walked
      exact directories_of_walk_concat walked
    · rw [eq_location_of_locate located, Path.location_join_name base isName]
  · rintro ⟨fits, directories, rfl⟩
    have short := fits.names_short
    rw [Path.steps_join_name base isName] at short
    rw [locate_of_fits fits (Path.text_join_name_ne_nil base isName),
      Path.start_join_name base isName, Path.steps_join_name base isName]
    exact walk_concat_of_trail short directories

/-! ## What making directories leaves alone -/

theorem Provided.elsewhere (provided : Provided path disk after) :
    after.working = disk.working ∧
      ∀ place, place ≠ path.location disk.working → after.entryAt? place = disk.entryAt? place := by
  rcases provided with made | ⟨rfl, -⟩
  · refine ⟨working_of_makeDirectory made, fun place apart => ?_⟩
    rw [entryAt?_of_makeDirectory made, if_neg apart]
  · exact ⟨rfl, fun _ _ => rfl⟩

/-- Making directories changes what their own locations show. -/
theorem elsewhere_of_makeDirectories {paths : List Path}
    (made : makeDirectories (m := StateM Disk) paths disk = (.ok (), after)) :
    after.working = disk.working ∧
      ∀ place, (∀ path ∈ paths, place ≠ path.location disk.working) →
        after.entryAt? place = disk.entryAt? place := by
  induction paths generalizing after with
  | nil =>
      have same : disk = after := (Prod.mk.inj made).2
      exact ⟨by rw [same], fun _ _ => by rw [same]⟩
  | cons path above ih =>
      rcases makeDirectories_cons_eq_ok_iff.1 made with provided | ⟨-, middle, madeAbove, provided⟩
      · exact ⟨provided.elsewhere.1,
          fun place apart => provided.elsewhere.2 place (apart path List.mem_cons_self)⟩
      · rcases ih madeAbove with ⟨working, elsewhere⟩
        refine ⟨provided.elsewhere.1.trans working, fun place apart => ?_⟩
        rw [provided.elsewhere.2 place (working.symm ▸ apart path List.mem_cons_self)]
        exact elsewhere place fun other member => apart other (List.mem_cons_of_mem _ member)

/-- Making the directories above a file leaves alone what its base does not come by. -/
theorem entryAt?_of_makeDirectories_above (isName : IsName name)
    (made : makeDirectories (m := StateM Disk) (base.join (ofNames [name])).above disk = (.ok (), after))
    (off : place ∉ trail (base.start disk.working) base.steps) :
    after.entryAt? place = disk.entryAt? place := by
  apply (elsewhere_of_makeDirectories made).2
  intro path member same
  exact off (same ▸ Path.location_mem_trail_of_mem_above base isName disk.working path member)

end Disk
end TypedRoutes
