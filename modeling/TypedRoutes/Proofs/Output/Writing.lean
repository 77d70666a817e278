import TypedRoutes.Proofs.Output.Clearing
import TypedRoutes.Proofs.Output.Plan

namespace TypedRoutes

/-!
# Writing the output

Files are written in order, so at every moment the texts on the disk are those of the files so far
and, elsewhere, the old ones; making directories changes no text.  What writing does below the
output directory depends on what is there, and on nothing that lies outside: where the directories
above it stand, the same files can be written again.
-/

namespace Disk

open FileSystem
open TypedRoutes.Path (names IsName ofNames)
open Pass (OutputFile writeFiles fileOf)

variable {disk middle after first second : Disk} {path output : Path} {text : Text}

/-! ## Texts -/

/-- The same texts, whatever the directories are. -/
structure SameTexts (before after : Disk) : Prop where
  working : after.working = before.working
  texts : ∀ place, after.textAt? place = before.textAt? place

theorem sameTexts_of_makeDirectory (made : disk.makeDirectory path = .ok after) :
    SameTexts disk after := by
  constructor
  · exact working_of_makeDirectory made
  · intro place
    have shows := entryAt?_of_makeDirectory made place
    rcases makeDirectory_eq_ok made with ⟨-, -, -, location, located, missing, -⟩
    rw [eq_location_of_locate located] at missing
    unfold textAt?
    rw [shows]
    split
    case isTrue same => rw [same, missing]; rfl
    case isFalse => rfl

/-- Making directories changes no text. -/
theorem keeps_sameTexts : Keeps SameTexts where
  refl _ := ⟨rfl, fun _ => rfl⟩
  trans once twice :=
    ⟨twice.working.trans once.working, fun place => (twice.texts place).trans (once.texts place)⟩
  looks _ _ := ⟨rfl, fun _ => rfl⟩
  makes path disk := by
    rw [makeDirectory_run]
    cases made : disk.makeDirectory path with
    | error fault => exact ⟨rfl, fun _ => rfl⟩
    | ok changed => exact sameTexts_of_makeDirectory made

/-- The texts of files at their locations, and elsewhere the texts from before. -/
structure Laid (files : List OutputFile) (before after : Disk) : Prop where
  working : after.working = before.working
  texts : ∀ file ∈ files, after.textAt? (file.1.location before.working) = some file.2
  elsewhere : ∀ place, (∀ file ∈ files, place ≠ file.1.location before.working) →
    after.textAt? place = before.textAt? place

theorem SameTexts.laid_nil (same : SameTexts disk after) : Laid [] disk after where
  working := same.working
  texts _ member := absurd member List.not_mem_nil
  elsewhere place _ := same.texts place

theorem laid_of_write (written : disk.write path text = .ok after) :
    Laid [(path, text)] disk after := by
  have shows := entryAt?_of_write written
  refine ⟨working_of_write written, fun file member => ?_, fun place elsewhere => ?_⟩
  · rw [List.mem_singleton.1 member, textAt?_eq_some_iff, shows, if_pos rfl]
  · rw [textAt?, shows, if_neg (elsewhere _ List.mem_cons_self)]
    rfl

/-- What is laid on the same texts is laid on the texts from before. -/
theorem SameTexts.laid {files : List OutputFile} (same : SameTexts disk middle)
    (laid : Laid files middle after) : Laid files disk after where
  working := laid.working.trans same.working
  texts := same.working ▸ laid.texts
  elsewhere place outside := by
    rw [← same.texts place]
    exact laid.elsewhere place (same.working ▸ outside)

/-- One file is written, or no text changes. -/
theorem writeFile_cases (path : Path) (text : Text) (disk : Disk) :
    (∃ after, writeFile (m := StateM Disk) path text disk = (.ok (), after) ∧
        Laid [(path, text)] disk after) ∨
      ∃ fault after, writeFile (m := StateM Disk) path text disk = (.error fault, after) ∧
        SameTexts disk after := by
  have made := keeps_sameTexts.makeDirectories path.above disk
  rw [writeFile_run]
  generalize makeDirectories (m := StateM Disk) path.above disk = result at made ⊢
  rcases result with ⟨answer, middle⟩
  cases answer with
  | error fault => exact .inr ⟨fault, middle, rfl, made⟩
  | ok _ =>
      simp only [write_run]
      cases written : middle.write path text with
      | error fault => exact .inr ⟨fault, middle, rfl, made⟩
      | ok changed => exact .inl ⟨changed, rfl, made.laid (laid_of_write written)⟩

theorem laid_of_writeFile (run : writeFile (m := StateM Disk) path text disk = (.ok (), after)) :
    Laid [(path, text)] disk after := by
  rcases writeFile_cases path text disk with ⟨changed, succeeded, laid⟩ | ⟨fault, changed, failed, -⟩
  · rw [run] at succeeded
    rwa [(Prod.mk.inj succeeded).2]
  · rw [run] at failed
    cases failed

theorem Laid.cons {files : List OutputFile} (one : Laid [(path, text)] disk middle)
    (more : Laid files middle after)
    (apart : ∀ file ∈ files, path.location disk.working ≠ file.1.location disk.working) :
    Laid ((path, text) :: files) disk after := by
  have moreTexts := more.texts
  have moreElsewhere := more.elsewhere
  rw [one.working] at moreTexts moreElsewhere
  refine ⟨more.working.trans one.working, fun file member => ?_, fun place elsewhere => ?_⟩
  · rcases List.mem_cons.1 member with rfl | isMore
    · rw [moreElsewhere _ apart]
      exact one.texts _ List.mem_cons_self
    · exact moreTexts file isMore
  · rw [moreElsewhere place fun file member => elsewhere file (List.mem_cons_of_mem _ member)]
    exact one.elsewhere place fun file member =>
      elsewhere file (List.mem_singleton.1 member ▸ List.mem_cons_self)

/-- All files are written, or all up to the one that cannot be. -/
theorem writeFiles_cases {files : List OutputFile}
    (nodup : (files.map fun file => file.1.location disk.working).Nodup) :
    (∃ after, writeFiles (m := StateM Disk) files disk = (.ok (), after) ∧ Laid files disk after) ∨
      ∃ written path text rest fault after, files = written ++ (path, text) :: rest ∧
        writeFiles (m := StateM Disk) files disk = (.error (.write path fault), after) ∧
        Laid written disk after := by
  induction files generalizing disk with
  | nil => exact .inl ⟨disk, rfl, (keeps_sameTexts.refl disk).laid_nil⟩
  | cons file rest ih =>
      rcases file with ⟨path, text⟩
      rw [List.map_cons, List.nodup_cons] at nodup
      have apart : ∀ file ∈ rest, path.location disk.working ≠ file.1.location disk.working :=
        fun file member same => nodup.1 (List.mem_map.2 ⟨file, member, same.symm⟩)
      rw [Pass.writeFiles_cons_run]
      rcases writeFile_cases path text disk with ⟨middle, run, one⟩ | ⟨fault, middle, run, same⟩
      · rw [run]
        have nodupRest := nodup.2
        rw [← one.working] at nodupRest
        rcases ih nodupRest with ⟨after, runRest, more⟩ |
          ⟨written, failing, failingText, later, fault, after, rfl, runRest, more⟩
        · exact .inl ⟨after, runRest, one.cons more apart⟩
        · refine .inr ⟨(path, text) :: written, failing, failingText, later, fault, after, rfl,
            runRest, one.cons more fun file member => apart file ?_⟩
          exact List.mem_append_left _ member
      · rw [run]
        exact .inr ⟨[], path, text, rest, fault, middle, rfl, rfl, same.laid_nil⟩

/-! ## Writing the same again -/

/-- Two disks show the same at a place and below it. -/
structure AgreeBelow (place : Location) (first second : Disk) : Prop where
  working : second.working = first.working
  below : ∀ below, second.entryAt? (place ++ below) = first.entryAt? (place ++ below)

namespace AgreeBelow

variable {place : Location} {third : Disk}

theorem refl (place : Location) (disk : Disk) : AgreeBelow place disk disk := ⟨rfl, fun _ => rfl⟩

theorem trans (agree : AgreeBelow place first second) (agreeMore : AgreeBelow place second third) :
    AgreeBelow place first third :=
  ⟨agreeMore.working.trans agree.working,
    fun below => (agreeMore.below below).trans (agree.below below)⟩

theorem textAt? (agree : AgreeBelow place first second) (below : Location) :
    second.textAt? (place ++ below) = first.textAt? (place ++ below) := by
  rw [Disk.textAt?, agree.below]
  rfl

end AgreeBelow

/-- Every place above a given one shows a directory. -/
def Standing (place : Location) (disk : Disk) : Prop :=
  ∀ above rest, rest ≠ [] → above ++ rest = place → disk.entryAt? above = some .directory

theorem namesEntry_join {parts : List Text} (ends : output.EndsInName) (nonempty : parts ≠ [])
    (areNames : ∀ part ∈ parts, IsName part) :
    ∃ parents name, Path.NamesEntry (output.join (ofNames parts)) parents name := by
  rcases (List.eq_nil_or_concat parts).resolve_left nonempty with ⟨front, name, rfl⟩
  rw [List.concat_eq_append] at areNames nonempty ⊢
  have relative := Path.isAbsolute_ofNames areNames
  have body := Path.body_join_ofNames ends.nonempty nonempty areNames
  rw [← List.append_assoc] at body
  have shape : (output.join (ofNames (front ++ [name]))).body.reverse =
      name :: (output.bodyBefore ++ front).reverse := by
    rw [body, List.reverse_append]
    rfl
  have isName := areNames name (by simp)
  refine ⟨(output.bodyBefore ++ front).reverse, name, shape, isName, fun goesUp => ?_, ?_⟩
  · have steps := Path.steps_join_ofNames ends.nonempty nonempty areNames
    rw [Path.steps_eq_stepsOf, shape, Path.stepsOf_cons, isName.ofPiece?] at steps
    have member : .up ∈ output.steps ++ (front ++ [name]).map Path.Step.name := by
      rw [← steps]
      exact List.mem_append_left _ goesUp
    rcases List.mem_append.1 member with inOutput | inParts
    · exact ends.straight inOutput
    · simp at inParts
  · exact Path.text_join_ne_nil ends.nonempty relative

/-- Changes at a place and below it leave what is above it standing. -/
theorem Standing.of_elsewhere {place : Location} (standing : Standing place disk)
    (elsewhere : ∀ other, ¬ place <+: other → after.entryAt? other = disk.entryAt? other) :
    Standing place after := by
  intro above rest notHere eq
  rw [elsewhere, standing above rest notHere eq]
  rw [← eq]
  exact not_prefix_above notHere

/-- Directories lead to a place below which a file is. -/
theorem directories_of_textAt? {place below way : Location} (notHere : below ≠ [])
    (shown : disk.textAt? (place ++ below) = some text) (isWay : way <+: place) :
    disk.entryAt? way = some .directory := by
  rcases isWay with ⟨rest, eq⟩
  rw [textAt?_eq_some_iff, ← eq, List.append_assoc] at shown
  have belowWay : rest ++ below ≠ [] := fun none => notHere (List.append_eq_nil_iff.1 none).2
  apply entryAt?_of_append_ne_none belowWay
  rw [shown]
  exact Option.some_ne_none _

/-- A place on the way to one below the top is above the top, or at the top or below it. -/
theorem Standing.above_or_below {top place parts : Location} (standing : Standing top disk)
    (onTheWay : place <+: top ++ parts) :
    top <+: place ∨ disk.entryAt? place = some .directory := by
  rcases List.prefix_or_prefix_of_prefix onTheWay (List.prefix_append top parts) with above | below
  · rcases above with ⟨rest, eq⟩
    by_cases here : rest = []
    · exact .inl ⟨[], by rw [← eq, here, List.append_nil, List.append_nil]⟩
    · exact .inr (standing place rest here eq)
  · exact .inl below

theorem start_join {parts : List Text} (ends : output.EndsInName)
    (areNames : ∀ part ∈ parts, IsName part) (working : Location) :
    (output.join (ofNames parts)).start working = output.start working := by
  rw [Path.start, Path.start,
    Path.isAbsolute_join ends.nonempty (Path.isAbsolute_ofNames areNames)]

section Again

variable {parts : List Text} (ends : output.EndsInName) (nonempty : parts ≠ [])
  (areNames : ∀ part ∈ parts, IsName part)

include ends nonempty areNames

/-- What is on the way to a file lies on the way to a place below the top. -/
theorem way_of_join {working way : Location}
    (isWay : way <+: (names (output.join (ofNames parts)).steps).dropLast) :
    (output.join (ofNames parts)).start working ++ way <+: output.location working ++ parts := by
  rcases namesEntry_join ends nonempty areNames with ⟨parents, name, entry⟩
  rw [← Path.location_join_ofNames output nonempty areNames working,
    Path.location_eq_start_append entry.straight_steps]
  exact (List.prefix_append_right_inj _).2 (isWay.trans (List.dropLast_prefix _))

/-- A file can be written where another disk shows the same below the top. -/
theorem writable_again (writable : first.Writable (output.join (ofNames parts)))
    (agree : AgreeBelow (output.location first.working) first second)
    (standing : Standing (output.location first.working) second) :
    second.Writable (output.join (ofNames parts)) := by
  have location := Path.location_join_ofNames output nonempty areNames first.working
  have place := Path.location_eq_start_append ends.straight first.working
  refine ⟨writable.fits, ?_, ?_, ?_⟩
  · rcases ends.last with ⟨before, last, shape⟩
    rw [agree.working, start_join ends areNames]
    exact standing _ _ (by rw [shape, Path.names_append]; simp) place.symm
  · rw [agree.working]
    intro way file isWay shown
    rcases standing.above_or_below (way_of_join ends nonempty areNames isWay) with
      ⟨below, eq⟩ | directory
    · apply writable.free way file isWay
      rw [← shown, ← eq, agree.below]
    · rw [directory] at shown
      cases shown
  · rw [agree.working, location, agree.below, ← location]
    exact writable.no_directory

/-- A file that was written on one disk can be written on another with the same below the top. -/
theorem writeFile_again
    (wrote : writeFile (m := StateM Disk) (output.join (ofNames parts)) text first = (.ok (), after))
    (agree : AgreeBelow (output.location first.working) first second)
    (standing : Standing (output.location first.working) second) :
    ∃ again, writeFile (m := StateM Disk) (output.join (ofNames parts)) text second = (.ok (), again) ∧
      AgreeBelow (output.location first.working) after again ∧
      ∀ other, ¬ output.location first.working <+: other →
        again.entryAt? other = second.entryAt? other := by
  rcases namesEntry_join ends nonempty areNames with ⟨parents, name, entry⟩
  have location := Path.location_join_ofNames output nonempty areNames first.working
  have onTheWay := fun way => @way_of_join _ _ ends nonempty areNames first.working way
  have writable := writable_again ends nonempty areNames (writable_of_writeFile entry wrote)
    agree standing
  have written := written_of_writeFile entry wrote
  rcases exists_writeFile entry writable text with ⟨again, run⟩
  have writtenAgain := written_of_writeFile entry run
  have file := writtenAgain.file
  have along := writtenAgain.along
  have elsewhere := writtenAgain.elsewhere
  rw [agree.working] at file along elsewhere
  refine ⟨again, run, ⟨?_, fun below => ?_⟩, fun other outside => ?_⟩
  · rw [writtenAgain.working, written.working, agree.working]
  · by_cases isFile : output.location first.working ++ below =
        (output.join (ofNames parts)).location first.working
    · rw [isFile, file, written.file]
    · by_cases isWay : ∃ way, way ≠ [] ∧ way <+: (names (output.join (ofNames parts)).steps).dropLast ∧
          output.location first.working ++ below = (output.join (ofNames parts)).start first.working ++ way
      · rcases isWay with ⟨way, here, isPrefix, eq⟩
        rw [eq, along way here isPrefix, written.along way here isPrefix]
      · push Not at isWay
        rw [elsewhere _ isFile isWay, written.elsewhere _ isFile isWay, agree.below]
  · by_cases isWay : ∃ way, way ≠ [] ∧ way <+: (names (output.join (ofNames parts)).steps).dropLast ∧
        other = (output.join (ofNames parts)).start first.working ++ way
    · rcases isWay with ⟨way, here, isPrefix, rfl⟩
      rw [along way here isPrefix]
      exact ((standing.above_or_below (onTheWay way isPrefix)).resolve_left outside).symm
    · push Not at isWay
      refine elsewhere other (fun same => outside ?_) isWay
      rw [same, location]
      exact List.prefix_append _ _

end Again

/-- The files of an output directory that were written on one disk can be written on another. -/
theorem writeFiles_again {all : List (Location × Text)} (ends : output.EndsInName)
    (areNames : ∀ content ∈ all, content.1 ≠ [] ∧ ∀ part ∈ content.1, IsName part)
    (wrote : writeFiles (m := StateM Disk) (all.map (fileOf output)) first = (.ok (), after))
    (agree : AgreeBelow (output.location first.working) first second)
    (standing : Standing (output.location first.working) second) :
    ∃ again, writeFiles (m := StateM Disk) (all.map (fileOf output)) second = (.ok (), again) ∧
      AgreeBelow (output.location first.working) after again ∧
      ∀ other, ¬ output.location first.working <+: other →
        again.entryAt? other = second.entryAt? other := by
  induction all generalizing first second with
  | nil =>
      cases wrote
      exact ⟨second, rfl, agree, fun _ _ => rfl⟩
  | cons content rest ih =>
      rcases areNames content List.mem_cons_self with ⟨nonempty, names⟩
      rw [List.map_cons, fileOf, Pass.writeFiles_cons_run] at wrote ⊢
      generalize writesFirst : writeFile (m := StateM Disk) _ content.2 first = result at wrote
      rcases result with ⟨answer, middle⟩
      cases answer with
      | error fault => cases wrote
      | ok _ =>
          have sameWorking : middle.working = first.working := by
            rcases namesEntry_join ends nonempty names with ⟨parents, name, entry⟩
            exact (written_of_writeFile entry writesFirst).working
          rcases writeFile_again ends nonempty names writesFirst agree standing with
            ⟨middleAgain, run, agreeMiddle, outsideMiddle⟩
          rw [← sameWorking] at agreeMiddle
          have standingMiddle : Standing (output.location middle.working) middleAgain := by
            rw [sameWorking]
            exact standing.of_elsewhere outsideMiddle
          obtain ⟨again, runRest, agreeAfter, outsideAfter⟩ :=
            ih (fun other member => areNames other (List.mem_cons_of_mem _ member)) wrote
              agreeMiddle standingMiddle
          rw [sameWorking] at agreeAfter outsideAfter
          refine ⟨again, ?_, agreeAfter, fun other outside => ?_⟩
          · rw [run]
            exact runRest
          · rw [outsideAfter other outside, outsideMiddle other outside]

end Disk
end TypedRoutes
