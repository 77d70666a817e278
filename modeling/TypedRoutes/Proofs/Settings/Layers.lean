import Mathlib.Data.List.Induction
import TypedRoutes.Proofs.Disk.Program
import TypedRoutes.Proofs.Layer.Places
import TypedRoutes.Proofs.Settings.Leaves
import TypedRoutes.Proofs.Toml.Lines

namespace TypedRoutes

/-!
# Layers of settings

Every leaf of the settings has the value that the environment gives it, else the one of the file, else
its built-in one.  A variable that sets one leaf takes nothing away from any other leaf.
-/

namespace Layer.Environment

open Value

variable {keys way : List Text} {value : Value}

/-! ## Single entries -/

theorem find?_nest_self (keys : List Text) (value : Value) :
    (nest keys value).find? keys = some value := by
  induction keys with
  | nil => rfl
  | cons key rest ih => simp [nest, find?, ih]

/-- A way that is neither a part of the way to the entry nor goes on behind it leads nowhere. -/
theorem find?_nest_apart (value : Value) (notAbove : ¬ way <+: keys) (notBelow : ¬ keys <+: way) :
    (nest keys value).find? way = none := by
  induction keys generalizing way with
  | nil => exact (notBelow List.nil_prefix).elim
  | cons key rest ih =>
      cases way with
      | nil => exact (notAbove List.nil_prefix).elim
      | cons first others =>
          rw [List.cons_prefix_cons] at notAbove notBelow
          rw [nest, find?, Table.lookup_cons]
          split
          case isTrue same =>
            exact ih (fun above => notAbove ⟨same, above⟩) fun below => notBelow ⟨same.symm, below⟩
          case isFalse => rfl

/-- Ways that do not go on behind the entry are open and ordered. -/
theorem open_nest (value : Value) (notBehind : keys <+: way → way = keys) :
    (nest keys value).IsOpen way ∧ (nest keys value).IsOrdered way := by
  induction keys generalizing way with
  | nil =>
      cases notBehind List.nil_prefix
      exact ⟨trivial, trivial⟩
  | cons key rest ih =>
      cases way with
      | nil => exact ⟨trivial, trivial⟩
      | cons first others =>
          have behind (found : Value) (isFound : List.lookup first [(key, nest rest value)] = some found) :
              found.IsOpen others ∧ found.IsOrdered others := by
            rw [Table.lookup_cons] at isFound
            split at isFound
            case isTrue same =>
              cases isFound
              subst same
              exact ih fun below => List.tail_eq_of_cons_eq (notBehind (List.cons_prefix_cons.2 ⟨rfl, below⟩))
            case isFalse => cases isFound
          exact ⟨fun found isFound => (behind found isFound).1,
            List.pairwise_singleton _ _, fun found isFound => (behind found isFound).2⟩

/-- A variable is laid over those before it. -/
theorem layer_append_singleton (given : List (Text × Text)) (name text : Text) :
    layer (given ++ [(name, text)]) =
      (keys? name).elim (layer given) fun keys => (layer given).overlay (nest keys (parse text)) := by
  simp only [layer, List.foldl_append, List.foldl_cons, List.foldl_nil]
  cases keys? name <;> rfl

end Layer.Environment

namespace Settings

open Layer

variable {lower upper : Value} {environment : List (Text × Text)}

/-! ## Two layers -/

/-- A layer that has nothing of a wrong type on the way to a leaf or at it. -/
def WellTyped (layer : Value) : Prop :=
  ∀ leaf : Leaf, layer.IsOpen leaf.way ∧
    ∀ found, layer.find? leaf.way = some found → (leaf.content? found).isSome

theorem overlay_of_content {leaf : Leaf} (ofType : (leaf.content? upper).isSome) :
    lower.overlay upper = upper := by
  cases upper with
  | table origin entries =>
      unfold Leaf.content? at ofType
      split at ofType <;> cases ofType
  | _ => cases lower <;> simp [Value.overlay]

/-- A leaf is where the upper layer has it, or else where the lower one does. -/
theorem find?_overlay_leaf (typedLower : WellTyped lower) (typedUpper : WellTyped upper) (leaf : Leaf) :
    (lower.overlay upper).find? leaf.way = (upper.find? leaf.way).or (lower.find? leaf.way) := by
  rw [Value.find?_overlay (typedLower leaf).1 (typedUpper leaf).1]
  cases foundUpper : upper.find? leaf.way with
  | none => rfl
  | some said =>
      cases lower.find? leaf.way with
      | none => rfl
      | some below => exact congrArg some (overlay_of_content ((typedUpper leaf).2 said foundUpper))

theorem WellTyped.overlay (typedLower : WellTyped lower) (typedUpper : WellTyped upper) :
    WellTyped (lower.overlay upper) := by
  intro leaf
  refine ⟨Value.isOpen_overlay (typedLower leaf).1 (typedUpper leaf).1, fun found isFound => ?_⟩
  rw [find?_overlay_leaf typedLower typedUpper, Option.or_eq_some_iff] at isFound
  rcases isFound with inUpper | ⟨-, inLower⟩
  · exact (typedUpper leaf).2 found inUpper
  · exact (typedLower leaf).2 found inLower

/-- The upper layer says what a leaf is, and where it says nothing the lower one does. -/
theorem contentIn_overlay (typedLower : WellTyped lower) (typedUpper : WellTyped upper) (leaf : Leaf) :
    contentIn (lower.overlay upper) leaf = (contentIn upper leaf).or (contentIn lower leaf) := by
  rw [contentIn, contentIn, find?_overlay_leaf typedLower typedUpper]
  cases foundUpper : upper.find? leaf.way with
  | none => rfl
  | some said =>
      rcases Option.isSome_iff_exists.1 ((typedUpper leaf).2 said foundUpper) with ⟨content, isContent⟩
      rw [Option.some_or, Option.bind_some, isContent, Option.some_or]

/-! ## The environment -/

/-- What the last of some variables that name a leaf says of it. -/
def contentNamed (environment : List (Text × Text)) (leaf : Leaf) : Option Content :=
  (environment.reverse.find? fun entry => Environment.keys? entry.1 = some leaf.way).bind
    fun entry => leaf.content? (Environment.parse entry.2)

/-- Variables that set nothing but leaves, each to a value of its type. -/
def NamesLeaves (environment : List (Text × Text)) : Prop :=
  ∀ name text, (name, text) ∈ environment → ∀ keys, Environment.keys? name = some keys →
    ∃ leaf : Leaf, keys = leaf.way ∧ (leaf.content? (Environment.parse text)).isSome

/-- The layer that sets one leaf. -/
theorem nest_leaf {leaf : Leaf} {value : Value} (ofType : (leaf.content? value).isSome) :
    WellTyped (Environment.nest leaf.way value) ∧
      (∀ other : Leaf, (Environment.nest leaf.way value).IsOrdered other.way) ∧
      ∀ other, contentIn (Environment.nest leaf.way value) other =
        if leaf = other then leaf.content? value else none := by
  have notBehind (other : Leaf) : leaf.way <+: other.way → other.way = leaf.way :=
    fun below => congrArg Leaf.way (Leaf.eq_of_way_beginning below).symm
  have leads (other : Leaf) : (Environment.nest leaf.way value).find? other.way =
      if leaf = other then some value else none := by
    split
    case isTrue same =>
      subst same
      exact Environment.find?_nest_self _ _
    case isFalse different =>
      exact Environment.find?_nest_apart value
        (fun above => different (Leaf.eq_of_way_beginning above).symm)
        fun below => different (Leaf.eq_of_way_beginning below)
  refine ⟨fun other => ⟨(Environment.open_nest value (notBehind other)).1, fun found isFound => ?_⟩,
    fun other => (Environment.open_nest value (notBehind other)).2, fun other => ?_⟩
  · rw [leads] at isFound
    split at isFound
    case isTrue same =>
      cases isFound
      exact same ▸ ofType
    case isFalse => cases isFound
  · rw [contentIn, leads]
    split
    case isTrue same => rw [same, Option.bind_some]
    case isFalse => rfl

theorem contentNamed_append_singleton (given : List (Text × Text)) (name text : Text) (leaf : Leaf) :
    contentNamed (given ++ [(name, text)]) leaf =
      if Environment.keys? name = some leaf.way then leaf.content? (Environment.parse text)
      else contentNamed given leaf := by
  rw [contentNamed, List.reverse_append, List.reverse_singleton, List.singleton_append, List.find?_cons]
  split <;> rename_i named
  · rw [if_pos (of_decide_eq_true named), Option.bind_some]
  · rw [if_neg (of_decide_eq_false named), contentNamed]

/-- A layer without entries says nothing. -/
theorem empty_leaves (origin : Origin) :
    WellTyped (.table origin []) ∧ (∀ leaf : Leaf, (Value.table origin []).IsOrdered leaf.way) ∧
      ∀ leaf, contentIn (.table origin []) leaf = none := by
  have leads (leaf : Leaf) : (Value.table origin []).find? leaf.way = none := by cases leaf <;> rfl
  refine ⟨fun leaf => ⟨?_, ?_⟩, fun leaf => ?_, fun leaf => ?_⟩
  · cases leaf <;> exact nofun
  · rw [leads]
    exact nofun
  · cases leaf <;> exact ⟨List.Pairwise.nil, nofun⟩
  · rw [contentIn, leads, Option.bind_none]

/-- The layer of variables that name leaves says of each leaf what the last of its variables says. -/
theorem layer_leaves (names : NamesLeaves environment) :
    WellTyped (Environment.layer environment) ∧
      (∀ leaf : Leaf, (Environment.layer environment).IsOrdered leaf.way) ∧
      ∀ leaf, contentIn (Environment.layer environment) leaf = contentNamed environment leaf := by
  induction environment using List.reverseRecOn with
  | nil => exact empty_leaves .environment
  | append_singleton given last ih =>
      rcases last with ⟨name, text⟩
      rcases ih fun name text member => names name text (List.mem_append_left _ member) with
        ⟨typed, ordered, contents⟩
      rw [Environment.layer_append_singleton]
      simp only [contentNamed_append_singleton, ← contents]
      cases isKeys : Environment.keys? name with
      | none => exact ⟨typed, ordered, fun leaf => rfl⟩
      | some keys =>
          have isLast : (name, text) ∈ given ++ [(name, text)] :=
            List.mem_append_right _ (List.mem_singleton_self _)
          rcases names name text isLast keys isKeys with ⟨leaf, rfl, ofType⟩
          rcases nest_leaf ofType with ⟨typedEntry, orderedEntry, contentEntry⟩
          refine ⟨typed.overlay typedEntry,
            fun other => Value.isOrdered_overlay (ordered other) (orderedEntry other), fun other => ?_⟩
          rw [Option.elim_some, contentIn_overlay typed typedEntry, contentEntry]
          by_cases same : leaf = other
          · subst same
            rcases Option.isSome_iff_exists.1 ofType with ⟨content, isContent⟩
            rw [if_pos rfl, if_pos rfl, isContent, Option.some_or]
          · have different : ¬ some leaf.way = some other.way := fun ways =>
              same (Leaf.eq_of_way_beginning (Option.some.inj ways ▸ List.prefix_rfl))
            rw [if_neg same, if_neg different, Option.none_or]

/-! ## All layers -/

/-- Layers without a value of a wrong type are read, and every leaf has the value of the environment,
else the one of the file, else its built-in one. -/
theorem exists_ofLayers {origin : Origin} {entries : List (Text × Toml.Value)}
    (typed : WellTyped (Value.ofToml origin (.table entries))) (names : NamesLeaves environment) :
    ∃ settings, ofLayers (Value.ofToml origin (.table entries)) (Environment.layer environment) =
        .ok settings ∧
      ∀ leaf, settings.content leaf = ((contentNamed environment leaf).or
        (contentIn (Value.ofToml origin (.table entries)) leaf)).or (builtIn.content leaf) := by
  rcases layer_leaves names with ⟨typedNamed, orderedNamed, contents⟩
  have typedBoth := typed.overlay typedNamed
  have fits : FitsBelow [] ((Value.ofToml origin (.table entries)).overlay
      (Environment.layer environment)) := by
    intro leaf rest way
    rw [List.nil_append] at way
    subst way
    exact ⟨(typedBoth leaf).1, Value.isOrdered_overlay (Value.isOrdered_ofToml _ _ _) (orderedNamed leaf),
      (typedBoth leaf).2⟩
  rcases exists_reads fits with ⟨settings, answer, leaves⟩
  refine ⟨settings, by rw [ofLayers, answer]; rfl, fun leaf => ?_⟩
  rw [leaves, contentIn_overlay typed typedNamed, contents]

/-- Loading settings from a file that has nothing of a wrong type, in an environment whose variables
name leaves, succeeds and combines the layers leaf by leaf. -/
theorem content_of_loadFrom {σ : Type} [FileSystem (StateM σ)] {path : Path} {state : σ} {origin : Origin}
    {entries : List (Text × Toml.Value)}
    (file : (ofFile (m := StateM σ) path state).1 = .ok (.ofToml origin (.table entries)))
    (typed : WellTyped (.ofToml origin (.table entries))) (names : NamesLeaves environment) :
    ∃ settings, (loadFrom (m := StateM σ) environment path state).1 = .ok settings ∧
      ∀ leaf, settings.content leaf = ((contentNamed environment leaf).or
        (contentIn (.ofToml origin (.table entries)) leaf)).or (builtIn.content leaf) := by
  rcases exists_ofLayers typed names with ⟨settings, answer, leaves⟩
  refine ⟨settings, ?_, leaves⟩
  rw [loadFrom, FileSystem.bind_run, file]
  exact answer

/-- A variable for one module leaves the default level and the quiet period to the file. -/
theorem content_of_loadFrom_sibling :
    let environment : List (Text × Text) :=
      [("ROUTE_TYPEGEN_LOGGING__MODULES__WATCHER", "debug"), ("HOME", "/root")]
    let disk : Disk := ⟨.directory [("typegen.toml", .file
      "[watch]\ndebounce_ms = 500\n[logging]\ndefault = \"info\"\n")], []⟩
    ∃ settings, (loadFrom (m := StateM Disk) environment "/typegen.toml" disk).1 = .ok settings ∧
      settings.content (.moduleLevel "watcher") = some (.text "debug") ∧
      settings.content .defaultLevel = some (.text "info") ∧
      settings.content .debounceMs = some (.number 500) ∧
      settings.content .outputDir = some (.text ".react-router/types") := by
  intro environment disk
  let entries : List (Text × Toml.Value) :=
    [("watch", .table [("debounce_ms", .integer 500)]),
      ("logging", .table [("default", .string "info")])]
  let text : Text := "[watch]\ndebounce_ms = 500\n[logging]\ndefault = \"info\"\n"
  have parsed : Toml.parse? text = some entries := by
    have watch : Toml.IsLine ('[' :: "watch]\n") (some [.table [] "watch"]) :=
      Toml.isLine_header fun _ => rfl
    have logging : Toml.IsLine ('[' :: "logging]\n") (some [.table [] "logging"]) :=
      Toml.isLine_header fun _ => rfl
    have defaultLevel := Toml.isLine_entry (Toml.isWrittenAs_writeString "info") "default"
    have debounceMs := Toml.isLine_entry (Toml.isWrittenAs_ofNat 500) "debounce_ms"
    have document := Toml.isReadAs_nil.cons defaultLevel |>.cons logging |>.cons debounceMs
      |>.cons watch
    exact Toml.parse?_of_isReadAs rfl document
  have found : disk.fileText? "/typegen.toml" = some text := by decide +kernel
  rcases ofFile_of_fileText? found (.inl rfl) with ⟨shown, run⟩
  have file : (ofFile (m := StateM Disk) "/typegen.toml" disk).1 =
      .ok (.ofToml (.file shown) (.table entries)) := by
    rw [run, ofText, parsed]
    rfl
  have typed : WellTyped (.ofToml (.file shown) (.table entries)) := by
    intro leaf
    refine ⟨?_, fun value found => ?_⟩
    · cases leaf
      -- The leaves that are left are those of a table in the file.
      all_goals
        refine Value.isOpen_ofToml_table fun value found => ?_
        cases found
      all_goals
        refine Value.isOpen_ofToml_table fun value found => ?_
        cases found
      all_goals trivial
    · cases leaf <;> cases found <;> rfl
  have names : NamesLeaves environment := by
    intro name text member keys isKeys
    rcases List.mem_cons.1 member with same | member
    · have named : Environment.keys? "ROUTE_TYPEGEN_LOGGING__MODULES__WATCHER" =
        some (Leaf.way (.moduleLevel "watcher")) := by decide +kernel
      cases same
      exact ⟨.moduleLevel "watcher", Option.some.inj (isKeys.symm.trans named), by decide +kernel⟩
    · have other : Environment.keys? "HOME" = none := by decide +kernel
      cases List.mem_singleton.1 member
      cases isKeys.symm.trans other
  rcases content_of_loadFrom file typed names with ⟨settings, answer, leaves⟩
  have ofWatcher : contentNamed environment (.moduleLevel "watcher") = some (.text "debug") := by
    decide +kernel
  have ofOthers : ∀ leaf ∈ [Leaf.defaultLevel, .debounceMs, .outputDir],
      contentNamed environment leaf = none := by
    decide +kernel
  refine ⟨settings, answer, ?_, ?_, ?_, ?_⟩
  · rw [leaves, ofWatcher]
    rfl
  all_goals
    rw [leaves, ofOthers _ (by simp)]
    rfl

/-- A point in the name of a variable leads into a table, even in the name of a module. -/
theorem loadFrom_refuses_point : (loadFrom (m := StateM Disk)
      [("ROUTE_TYPEGEN_LOGGING__MODULES__A.B", "debug")] "/typegen.toml" ⟨.emptyDirectory, []⟩).1.mapError
        ConfigError.message =
      .error ("invalid type: found map, expected a string for key \"LOGGING.MODULES.A\" in " ++
        "`ROUTE_TYPEGEN_` environment variable(s)" : String).toList := by
  decide +kernel

end Settings
end TypedRoutes
