import TypedRoutes.Proofs.Text.Tables
import TypedRoutes.Proofs.Toml.Lines
import TypedRoutes.Settings.Writing

namespace TypedRoutes

/-!
# The document of settings

The text of settings is a TOML document that holds each of them, whatever the texts in it are and
in whatever order it lists the modules.  Only a quiet period above the greatest TOML integer makes it
unreadable.
-/

namespace Settings

open Toml

/-! ## Statements -/

/-- One entry for each module. -/
def moduleStatements (levels : List (Text × Text)) : List Statement :=
  levels.map fun entry => .entry [] entry.1 (.string entry.2)

/-- The statements of a document of settings in front of those for modules. -/
def frontStatements (settings : Settings) : List Statement :=
  [.entry [] "version" (.integer settings.version.toNat),
    .entry [] "output_dir" (.string settings.outputDir.text),
    .entry [] "route_config" (.string settings.routeConfig.text),
    .entry [] "framework_module" (.string settings.frameworkModule),
    .table [] "watch",
    .entry [] "debounce_ms" (.integer settings.debounceMs.toNat),
    .table [] "logging",
    .entry [] "default" (.string settings.defaultLevel),
    .table ["logging"] "modules"]

/-- The statements of a document of settings. -/
def statements (settings : Settings) (levels : List (Text × Text)) : List Statement :=
  settings.frontStatements ++ moduleStatements levels

theorem isReadAs_modules (levels : List (Text × Text)) :
    IsReadAs (levels.flatMap fun entry => line entry.1 (writeString entry.2))
      (some (moduleStatements levels)) := by
  induction levels with
  | nil => exact isReadAs_nil
  | cons entry rest ih => exact ih.cons (isLine_entry (isWrittenAs_writeString entry.2) entry.1)

theorem isReadAs_toTomlIn (settings : Settings) (levels : List (Text × Text)) :
    IsReadAs (settings.toTomlIn levels)
      (if (settings.debounceMs.toNat : Int) ≤ maxInteger then some (settings.statements levels)
        else none) := by
  have text : settings.toTomlIn levels =
      line "version" (Text.ofNat settings.version.toNat)
        ++ (line "output_dir" (Toml.writeString settings.outputDir.text)
        ++ (line "route_config" (Toml.writeString settings.routeConfig.text)
        ++ (line "framework_module" (Toml.writeString settings.frameworkModule)
        ++ (['\n'] ++ (('[' :: "watch]\n")
        ++ (line "debounce_ms" (Text.ofNat settings.debounceMs.toNat)
        ++ (['\n'] ++ (('[' :: "logging]\n")
        ++ (line "default" (Toml.writeString settings.defaultLevel)
        ++ (['\n'] ++ (('[' :: "logging.modules]\n")
        ++ levels.flatMap fun entry => line entry.1 (Toml.writeString entry.2)))))))))))) := by
    simp [toTomlIn]
  have smallVersion : (settings.version.toNat : Int) ≤ maxInteger := by
    have bound := settings.version.toNat_lt
    rw [maxInteger]
    omega
  have version := isLine_entry (isWrittenAs_ofNat settings.version.toNat) "version"
  have outputDir := isLine_entry (isWrittenAs_writeString settings.outputDir.text) "output_dir"
  have routeConfig := isLine_entry (isWrittenAs_writeString settings.routeConfig.text) "route_config"
  have frameworkModule := isLine_entry (isWrittenAs_writeString settings.frameworkModule) "framework_module"
  have watch : IsLine ('[' :: "watch]\n") (some [.table [] "watch"]) := isLine_header fun _ => rfl
  have debounceMs := isLine_entry (isWrittenAs_ofNat settings.debounceMs.toNat) "debounce_ms"
  have logging : IsLine ('[' :: "logging]\n") (some [.table [] "logging"]) := isLine_header fun _ => rfl
  have defaultLevel := isLine_entry (isWrittenAs_writeString settings.defaultLevel) "default"
  have modules : IsLine ('[' :: "logging.modules]\n") (some [.table ["logging"] "modules"]) :=
    isLine_header fun _ => rfl
  have document := (isReadAs_modules levels).cons modules |>.cons isLine_blank
    |>.cons defaultLevel |>.cons logging |>.cons isLine_blank |>.cons debounceMs |>.cons watch
    |>.cons isLine_blank |>.cons frameworkModule |>.cons routeConfig |>.cons outputDir |>.cons version
  rw [if_pos smallVersion] at document
  rw [text]
  split
  case isTrue small =>
    rw [if_pos small] at document
    exact document
  case isFalse large =>
    rw [if_neg large] at document
    exact document

/-! ## Entries -/

/-- The entries of a document of settings. -/
def entries (settings : Settings) (levels : List (Text × Text)) : List (Text × Toml.Value) :=
  [("version", .integer settings.version.toNat),
    ("output_dir", .string settings.outputDir.text),
    ("route_config", .string settings.routeConfig.text),
    ("framework_module", .string settings.frameworkModule),
    ("watch", .table [("debounce_ms", .integer settings.debounceMs.toNat)]),
    ("logging", .table [("default", .string settings.defaultLevel),
      ("modules", .table (levels.map fun entry => (entry.1, .string entry.2)))])]

/-- The document of settings in the course of reading, with some of the modules. -/
def draft (settings : Settings) (levels : List (Text × Text)) : Draft where
  current := ["logging", "modules"]
  items :=
    [("version", .value (.integer settings.version.toNat)),
      ("output_dir", .value (.string settings.outputDir.text)),
      ("route_config", .value (.string settings.routeConfig.text)),
      ("framework_module", .value (.string settings.frameworkModule)),
      ("watch", .table .defined [("debounce_ms", .value (.integer settings.debounceMs.toNat))]),
      ("logging", .table .defined [("default", .value (.string settings.defaultLevel)),
        ("modules", .table .defined (levels.map fun entry => (entry.1, .value (.string entry.2))))])]

theorem addAll_front (settings : Settings) (more : List Statement) :
    Draft.addAll {} (settings.frontStatements ++ more) = (settings.draft []).addAll more := rfl

/-- A new key joins a table at its end. -/
theorem update_new {change : Option Item → Option Item} {item : Item} {items : Items} {name : Text}
    (isNew : name ∉ items.map Prod.fst) (changed : change none = some item) :
    Item.update name change items = some (items ++ [(name, item)]) := by
  induction items with
  | nil => rw [Item.update, changed]; rfl
  | cons first rest ih =>
      rcases first with ⟨other, old⟩
      rw [List.map_cons, List.mem_cons, not_or] at isNew
      rw [Item.update, if_neg (Ne.symm isNew.1), ih isNew.2]
      rfl

theorem assign_new {form : TableForm} {items : Items} {name : Text} (isNew : name ∉ items.map Prod.fst)
    (value : Value) : Item.assign [] name value form items = some (items ++ [(name, .value value)]) := by
  rw [Item.assign, Item.descend, if_neg (by simp)]
  exact update_new isNew rfl

theorem add_module (settings : Settings) {levels : List (Text × Text)} {name level : Text}
    (isNew : name ∉ levels.map Prod.fst) :
    (settings.draft levels).add (.entry [] name (.string level)) =
      some (settings.draft (levels ++ [(name, level)])) := by
  have isNew : name ∉ (levels.map fun entry => (entry.1, Item.value (.string entry.2))).map Prod.fst := by
    simpa [List.map_map] using isNew
  simp [draft, Draft.add, Item.descend, Item.update, assign_new isNew]

theorem addAll_modules (settings : Settings) {levels more : List (Text × Text)}
    (distinct : ((levels ++ more).map Prod.fst).Nodup) :
    (settings.draft levels).addAll (moduleStatements more) = some (settings.draft (levels ++ more)) := by
  induction more generalizing levels with
  | nil =>
      rw [List.append_nil]
      rfl
  | cons entry rest ih =>
      rcases entry with ⟨name, level⟩
      have isNew : name ∉ levels.map Prod.fst := by
        rw [List.map_append, List.nodup_append] at distinct
        exact fun member => distinct.2.2 name member name (List.mem_cons_self ..) rfl
      rw [List.append_cons] at distinct ⊢
      rw [← ih distinct]
      show ((settings.draft levels).add (.entry [] name (.string level))).bind _ = _
      rw [add_module settings isNew]
      rfl

theorem finishEntries_modules (levels : List (Text × Text)) :
    Item.finishEntries (levels.map fun entry => (entry.1, .value (.string entry.2))) =
      levels.map fun entry => (entry.1, .string entry.2) := by
  induction levels with
  | nil => rfl
  | cons entry rest ih =>
      rw [List.map_cons, List.map_cons, Item.finishEntries, ih]
      rfl

/-- The text of settings is a document with all of them, or no document where the quiet period is above
the greatest integer. -/
theorem parse?_toTomlIn (settings : Settings) {levels : List (Text × Text)}
    (distinct : (levels.map Prod.fst).Nodup) : parse? (settings.toTomlIn levels) =
      if (settings.debounceMs.toNat : Int) ≤ maxInteger then some (settings.entries levels) else none := by
  rw [parse?_of_isReadAs rfl (settings.isReadAs_toTomlIn levels)]
  split
  case isTrue =>
    have added : (settings.draft []).addAll (moduleStatements levels) = some (settings.draft levels) :=
      addAll_modules settings distinct
    rw [Option.bind_some, statements, addAll_front, added]
    simp [draft, entries, Item.finishEntries, Item.finish, finishEntries_modules]
  case isFalse => rfl

end Settings
end TypedRoutes
