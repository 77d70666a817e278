import TypedRoutes.Proofs.Disk.Soundness
import TypedRoutes.Proofs.Layer.Places
import TypedRoutes.Proofs.Output.Writing
import TypedRoutes.Proofs.Settings.Document
import TypedRoutes.Proofs.Settings.Layers

namespace TypedRoutes

/-!
# Saved settings

Settings that were saved are what loading them gives, for every text in them and every order of
their modules; only a quiet period that a document has no number for is written and not read.  A save
that fails leaves all texts as they are, unless a device gives up in the middle of the document.
-/

namespace Settings

open Layer

variable {settings : Settings} {levels : List (Text × Text)}

/-! ## The layer of a document of settings -/

/-- The value of a layer that holds what a leaf holds. -/
def Content.value (origin : Origin) : Content → Value
  | .number n => .signed origin n
  | .text t => .text origin t

theorem find?_entries (order : levels.Perm settings.moduleLevels.entries) (origin : Origin)
    (leaf : Leaf) : (Value.ofToml origin (.table (settings.entries levels))).find? leaf.way =
      (settings.content leaf).map (Content.value origin) := by
  cases leaf
  all_goals simp [Leaf.way, Value.find?, Value.ofToml, Value.lookup_ofTomlEntries, entries, content,
    Table.lookup_cons, Content.value]
  case moduleLevel name =>
    rw [Table.lookup_map, Table.lookup_perm order settings.moduleLevels.sorted.nodup]
    cases settings.moduleLevels.entries.lookup name <;> rfl

theorem isOpen_entries (settings : Settings) (levels : List (Text × Text)) (origin : Origin)
    (leaf : Leaf) : (Value.ofToml origin (.table (settings.entries levels))).IsOpen leaf.way := by
  cases leaf with
  | debounceMs =>
      refine Value.isOpen_ofToml_table fun value found => ?_
      cases found
      exact Value.isOpen_ofToml_table fun _ _ => trivial
  | defaultLevel =>
      refine Value.isOpen_ofToml_table fun value found => ?_
      cases found
      exact Value.isOpen_ofToml_table fun _ _ => trivial
  | moduleLevel name =>
      refine Value.isOpen_ofToml_table fun value found => ?_
      cases found
      refine Value.isOpen_ofToml_table fun value found => ?_
      cases found
      exact Value.isOpen_ofToml_table fun _ _ => trivial
  | _ => exact Value.isOpen_ofToml_table fun _ _ => trivial

theorem content?_value {origin : Origin} {leaf : Leaf} {held : Content}
    (holds : settings.content leaf = some held) : leaf.content? (held.value origin) = some held := by
  cases leaf with
  | version =>
      cases holds
      have small : settings.version.toNat < 2 ^ 32 := settings.version.toNat_lt
      simpa [Leaf.content?, Leaf.bits?, Content.value, Value.natural?] using small
  | debounceMs =>
      cases holds
      have small : settings.debounceMs.toNat < 2 ^ 64 := settings.debounceMs.toNat_lt
      simpa [Leaf.content?, Leaf.bits?, Content.value, Value.natural?] using small
  | moduleLevel name =>
      rcases Option.map_eq_some_iff.1 holds with ⟨level, -, rfl⟩
      rfl
  | _ =>
      cases holds
      rfl

/-- No variable has a name that leads to an entry. -/
def SetsNothing (environment : List (Text × Text)) : Prop :=
  ∀ name text, (name, text) ∈ environment → Environment.keys? name = none

/-- Settings are read back from the layer of their document. -/
theorem ofLayers_entries (order : levels.Perm settings.moduleLevels.entries) (origin : Origin)
    {environment : List (Text × Text)} (unset : SetsNothing environment) :
    ofLayers (Value.ofToml origin (.table (settings.entries levels))) (Environment.layer environment) =
      .ok settings := by
  have typed : WellTyped (Value.ofToml origin (.table (settings.entries levels))) := by
    intro leaf
    refine ⟨isOpen_entries settings levels origin leaf, fun found isFound => ?_⟩
    rw [find?_entries order, Option.map_eq_some_iff] at isFound
    rcases isFound with ⟨held, holds, rfl⟩
    rw [content?_value holds]
    rfl
  have names : NamesLeaves environment := by
    intro name text member keys isKeys
    cases (unset name text member).symm.trans isKeys
  rcases exists_ofLayers typed names with ⟨loaded, answer, leaves⟩
  have same : loaded = settings := by
    refine ext_content fun leaf => ?_
    have named : contentNamed environment leaf = none := by
      rw [contentNamed, List.find?_eq_none.2, Option.bind_none]
      intro entry member
      rw [unset entry.1 entry.2 (List.mem_reverse.1 member)]
      simp
    have held : contentIn (Value.ofToml origin (.table (settings.entries levels))) leaf =
        settings.content leaf := by
      rw [contentIn, find?_entries order]
      cases holds : settings.content leaf with
      | none => rfl
      | some held => exact content?_value holds
    rw [leaves, named, held, Option.none_or]
    cases leaf <;> try rfl
    exact Option.or_none
  rw [answer, same]

/-! ## Loading what was written -/

/-- A document of settings is loaded, unless its quiet period is beyond the numbers of a document. -/
theorem loadFrom_of_fileText? {disk : Disk} {path : Path} {environment : List (Text × Text)}
    (order : levels.Perm settings.moduleLevels.entries)
    (found : disk.fileText? path = some (settings.toTomlIn levels))
    (reachable : Layer.Reachable disk.working path) (unset : SetsNothing environment) :
    loadFrom (m := StateM Disk) environment path disk =
      (if (settings.debounceMs.toNat : Int) ≤ Toml.maxInteger then .ok settings
        else .error .malformed, disk) := by
  have distinct := (order.map Prod.fst).nodup_iff.2 settings.moduleLevels.sorted.nodup
  rcases ofFile_of_fileText? found reachable with ⟨shown, run⟩
  rw [loadFrom, FileSystem.bind_run, run, ofText, parse?_toTomlIn settings distinct]
  by_cases small : (settings.debounceMs.toNat : Int) ≤ Toml.maxInteger
  · rw [if_pos small, if_pos small]
    exact congrArg (·, disk) (ofLayers_entries order (.file shown) unset)
  · rw [if_neg small, if_neg small]
    rfl

/-- What was written is loaded. -/
theorem loadFrom_of_write {disk changed : Disk} {path : Path} {environment : List (Text × Text)}
    (order : levels.Perm settings.moduleLevels.entries)
    (written : disk.write path (settings.toTomlIn levels) = .ok changed)
    (reachable : Layer.Reachable disk.working path) (unset : SetsNothing environment) :
    loadFrom (m := StateM Disk) environment path changed =
      (if (settings.debounceMs.toNat : Int) ≤ Toml.maxInteger then .ok settings
        else .error .malformed, changed) := by
  rw [← Disk.working_of_write written] at reachable
  exact loadFrom_of_fileText? order (Disk.fileText?_of_write written) reachable unset

end Settings

/-! ## Saves that fail -/

namespace FaultyDisk

open FileSystem

/-- Making directories changes no text, whatever trouble it meets. -/
theorem keeps_sameTexts :
    Keeps fun before after : FaultyDisk => Disk.SameTexts before.disk after.disk where
  refl faulty := Disk.keeps_sameTexts.refl faulty.disk
  trans once twice := Disk.keeps_sameTexts.trans once twice
  looks path faulty :=
    request_keeps (Disk.keeps_sameTexts.looks path) (fun _ => Disk.keeps_sameTexts.refl) faulty
  makes path faulty :=
    request_keeps (Disk.keeps_sameTexts.makes path) (fun _ => Disk.keeps_sameTexts.refl) faulty

/-- A write that fails changes nothing, or it was broken off and wrote a beginning of its text. -/
theorem write_error {path : Path} {text : Text} {faulty after : FaultyDisk} {fault : Fault}
    (failed : write (m := StateM FaultyDisk) path text faulty = (.error fault, after)) :
    after.disk = faulty.disk ∨
      ∃ words count, fault = .other words ∧
        faulty.disk.write path (text.take count) = .ok after.disk := by
  change request (write (m := StateM Disk) path text) _ faulty = _ at failed
  rcases request_cases (write (m := StateM Disk) path text)
    (fun trouble disk => disk.writePart path text trouble.written) faulty with
    ⟨ahead, healthy | ⟨trouble, broken⟩⟩
  · rw [healthy, Disk.write_run] at failed
    cases written : faulty.disk.write path text with
    | ok changed =>
        rw [written] at failed
        cases failed
    | error other =>
        rw [written] at failed
        cases failed
        exact .inl rfl
  · rw [broken] at failed
    cases failed
    cases isOpen : trouble.written with
    | none => exact .inl rfl
    | some count =>
        rw [Disk.writePart]
        cases written : faulty.disk.write path (text.take count) with
        | ok changed => exact .inr ⟨trouble.words, count, rfl, written⟩
        | error other => exact .inl rfl

/-- A file that is not written leaves the texts as they are, or a beginning of its text, which a disk
without trouble would have been given in the same way. -/
theorem exists_part_of_writeFile_error {path : Path} {text : Text} {faulty after : FaultyDisk}
    {fault : Fault}
    (failed : writeFile (m := StateM FaultyDisk) path text faulty = (.error fault, after)) :
    Disk.SameTexts faulty.disk after.disk ∨
      ∃ words count, fault = .other words ∧
        writeFile (m := StateM Disk) path (text.take count) faulty.disk = (.ok (), after.disk) := by
  have made := keeps_sameTexts.makeDirectories path.above faulty
  have sound := sound_makeDirectories path.above faulty
  rw [writeFile_run] at failed
  generalize makeDirectories (m := StateM FaultyDisk) path.above faulty = result at made sound failed
  rcases result with ⟨answer, middle⟩
  cases answer with
  | error other =>
      cases failed
      exact .inl made
  | ok _ =>
      rcases write_error failed with same | ⟨words, count, isTrouble, written⟩
      · exact .inl (same ▸ made)
      · exact .inr ⟨words, count, isTrouble, Disk.writeFile_of_write (sound () rfl) written⟩

theorem writeFile_error {path : Path} {text : Text} {faulty after : FaultyDisk} {fault : Fault}
    (failed : writeFile (m := StateM FaultyDisk) path text faulty = (.error fault, after)) :
    Disk.SameTexts faulty.disk after.disk ∨
      ∃ words count, fault = .other words ∧
        Disk.Laid [(path, text.take count)] faulty.disk after.disk := by
  rcases exists_part_of_writeFile_error failed with same | ⟨words, count, isTrouble, part⟩
  · exact .inl same
  · exact .inr ⟨words, count, isTrouble, Disk.laid_of_writeFile part⟩

end FaultyDisk

/-! ## Saving and loading -/

namespace Settings

/-- Saved settings are loaded again, in whatever order their modules were written, that of their names
as `save` writes them or another one, unless their quiet period is beyond the numbers of a document.  A
save that fails changes no text, or it was broken off and left a beginning of the document. -/
theorem loadFrom_of_save (settings : Settings) (path : Path) (faulty : FaultyDisk)
    {levels environment : List (Text × Text)} (order : levels.Perm settings.moduleLevels.entries)
    (unset : SetsNothing environment) :
    (∀ after, settings.saveIn (m := StateM FaultyDisk) levels path faulty = (.ok (), after) →
      Layer.Reachable faulty.disk.working path →
      loadFrom (m := StateM Disk) environment path after.disk =
        (if (settings.debounceMs.toNat : Int) ≤ Toml.maxInteger then .ok settings
          else .error .malformed, after.disk)) ∧
    ∀ fault after, settings.saveIn (m := StateM FaultyDisk) levels path faulty = (.error fault, after) →
      Disk.SameTexts faulty.disk after.disk ∨
        ∃ words count, fault = .other words ∧
          Disk.Laid [(path, (settings.toTomlIn levels).take count)] faulty.disk after.disk := by
  constructor
  · intro after saved reachable
    have sound := FaultyDisk.sound_writeFile path (settings.toTomlIn levels) faulty ()
    change FileSystem.writeFile (m := StateM FaultyDisk) path (settings.toTomlIn levels) faulty = _ at saved
    rw [saved] at sound
    rcases Disk.writeFile_eq_ok (sound rfl) with ⟨middle, made, written⟩
    have working := (Disk.keeps_sameTexts.makeDirectories path.above faulty.disk).working
    rw [made] at working
    exact loadFrom_of_write order written (working ▸ reachable) unset
  · exact fun fault after failed => FaultyDisk.writeFile_error failed

/-- Quotes, line ends and points come back, also from a file in a new directory, and it makes no
difference that the module that is last by its name was written first. -/
theorem loadFrom_of_save_quoted :
    let settings : Settings :=
      { frameworkModule := "a \"b\"\n", debounceMs := 42,
        moduleLevels := .ofList [("watcher", "info"), ("x.y", "debug")] }
    let disk : Disk := ⟨.directory [("p", .emptyDirectory)], ["p".toList]⟩
    (∃ after, settings.save (m := StateM FaultyDisk) "new/typegen.toml" ⟨disk, []⟩ = (.ok (), after) ∧
      loadFrom (m := StateM Disk) [("HOME", "/p")] "new/typegen.toml" after.disk =
        (.ok settings, after.disk)) ∧
    ∃ after, settings.saveIn (m := StateM FaultyDisk) [("x.y", "debug"), ("watcher", "info")]
        "new/typegen.toml" ⟨disk, []⟩ = (.ok (), after) ∧
      loadFrom (m := StateM Disk) [("HOME", "/p")] "new/typegen.toml" after.disk =
        (.ok settings, after.disk) := by
  intro settings disk
  have unset : SetsNothing [("HOME", "/p")] := by
    intro name text member
    cases List.mem_singleton.1 member
    decide +kernel
  have reachable : Layer.Reachable disk.working "new/typegen.toml" :=
    .inr ⟨fun name member => List.mem_singleton.1 member ▸ ⟨by decide, by decide, by decide, by decide⟩,
      by decide +kernel⟩
  constructor
  · refine ⟨_, rfl, ?_⟩
    rw [(loadFrom_of_save settings "new/typegen.toml" ⟨disk, []⟩ (.refl _) unset).1 _ rfl reachable]
    rfl
  · refine ⟨_, rfl, ?_⟩
    rw [(loadFrom_of_save settings "new/typegen.toml" ⟨disk, []⟩ (.swap _ _ _) unset).1 _ rfl reachable]
    rfl

/-- A quiet period of 2 ^ 63 milliseconds is saved and not loaded. -/
theorem loadFrom_refuses_saved :
    let settings : Settings := { debounceMs := 9223372036854775808 }
    let disk : Disk := ⟨.emptyDirectory, []⟩
    ∃ after, settings.save (m := StateM Disk) "typegen.toml" disk = (.ok (), after) ∧
      loadFrom (m := StateM Disk) [] "typegen.toml" after = (.error .malformed, after) := by
  intro settings disk
  have reachable : Layer.Reachable disk.working "typegen.toml" :=
    .inr ⟨fun _ none => absurd none List.not_mem_nil, by decide +kernel⟩
  obtain ⟨after, written⟩ : ∃ after, disk.write "typegen.toml" settings.toToml = .ok after := ⟨_, rfl⟩
  have saved : settings.save (m := StateM Disk) "typegen.toml" disk =
      disk.attempt (disk.write "typegen.toml" settings.toToml) := rfl
  refine ⟨after, by rw [saved, written]; rfl, ?_⟩
  rw [loadFrom_of_write (.refl _) written reachable fun _ _ none => absurd none List.not_mem_nil]
  rfl

end Settings
end TypedRoutes
