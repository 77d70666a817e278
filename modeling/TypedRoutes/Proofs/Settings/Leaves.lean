import TypedRoutes.Proofs.Layer.Overlay
import TypedRoutes.Proofs.Layer.Records
import TypedRoutes.Settings.Reading

namespace TypedRoutes

/-!
# Settings, leaf by leaf

Settings consist of single values, the leaves.  Reading a layer that has no value of a wrong type at
any leaf succeeds, and every leaf that the layer says nothing about has its built-in value.
-/

namespace Layer.Value

def natural? : Value → Option Nat
  | .unsigned _ n => some n
  | .signed _ (.ofNat n) => some n
  | _ => none

def text? : Value → Option Text
  | .text _ t => some t
  | _ => none

variable {value : Value} {n : Nat} {t : Text}

theorem readUnsigned_of_natural? {bits : Nat} (isNumber : value.natural? = some n)
    (small : n < Nat.pow 2 bits) : readUnsigned bits value = .ok n := by
  cases value with
  | unsigned origin number =>
      cases isNumber
      exact if_pos small
  | signed origin number =>
      cases number with
      | ofNat number =>
          cases isNumber
          exact if_pos ⟨Int.natCast_nonneg _, Int.ofNat_lt.2 small⟩
      | negSucc number => cases isNumber
  | _ => cases isNumber

theorem eq_text_of_text? (isText : value.text? = some t) : ∃ origin, value = .text origin t := by
  cases value with
  | text origin said =>
      cases isText
      exact ⟨origin, rfl⟩
  | _ => cases isText

end Layer.Value

namespace Settings

open Layer

/-- The single values that settings consist of.  Every module with a log level of its own has one. -/
inductive Leaf where
  | version
  | outputDir
  | routeConfig
  | frameworkModule
  | debounceMs
  | defaultLevel
  | moduleLevel (name : Text)
deriving DecidableEq

/-- What a leaf holds. -/
inductive Content where
  | number (n : Nat)
  | text (t : Text)
deriving DecidableEq

namespace Leaf

/-- The names that lead to a leaf. -/
def way : Leaf → List Text
  | version => ["version"]
  | outputDir => ["output_dir"]
  | routeConfig => ["route_config"]
  | frameworkModule => ["framework_module"]
  | debounceMs => ["watch", "debounce_ms"]
  | defaultLevel => ["logging", "default"]
  | moduleLevel name => ["logging", "modules", name]

/-- How many bits the number of a leaf has.  Other leaves hold a text. -/
def bits? : Leaf → Option Nat
  | version => some 32
  | debounceMs => some 64
  | _ => none

/-- What a value says of a leaf, where it is of the leaf's type. -/
def content? (leaf : Leaf) (value : Value) : Option Content :=
  match leaf.bits? with
  | some bits => (value.natural?.filter (· < Nat.pow 2 bits)).map .number
  | none => value.text?.map .text

/-- The way to one leaf is not the beginning of the way to another. -/
theorem eq_of_way_beginning {leaf other : Leaf} (below : leaf.way <+: other.way) : leaf = other := by
  cases leaf <;> cases other <;> simp_all [way]

/-- The name with which the way to a leaf goes on behind some names, where it begins with them. -/
def nameBehind (front : List Text) (leaf : Leaf) : Option Text :=
  if front <+: leaf.way then leaf.way[front.length]? else none

variable {front rest : List Text} {leaf : Leaf} {name : Text}

theorem nameBehind_of_way (way : leaf.way = front ++ name :: rest) :
    leaf.nameBehind front = some name := by
  simp [nameBehind, way]

theorem nameBehind_eq_some_iff :
    leaf.nameBehind front = some name ↔ front ++ [name] <+: leaf.way := by
  constructor
  · intro found
    unfold nameBehind at found
    split at found
    case isFalse => cases found
    case isTrue below =>
      rcases below with ⟨behind, way⟩
      rw [← way, List.getElem?_append_right (Nat.le_refl _), Nat.sub_self] at found
      rcases behind with _ | ⟨first, rest⟩
      · cases found
      · cases found
        exact ⟨rest, by rw [← way, List.append_assoc, List.singleton_append]⟩
  · rintro ⟨rest, way⟩
    rw [List.append_assoc, List.singleton_append] at way
    exact nameBehind_of_way way.symm

end Leaf

/-! ## What settings hold -/

/-- What settings hold at a leaf.  Only a module can be without a level of its own. -/
def content (settings : Settings) : Leaf → Option Content
  | .version => some (.number settings.version.toNat)
  | .outputDir => some (.text settings.outputDir.text)
  | .routeConfig => some (.text settings.routeConfig.text)
  | .frameworkModule => some (.text settings.frameworkModule)
  | .debounceMs => some (.number settings.debounceMs.toNat)
  | .defaultLevel => some (.text settings.defaultLevel)
  | .moduleLevel name => (settings.moduleLevels.entries.lookup name).map .text

/-- Settings are what they hold at their leaves. -/
theorem ext_content {settings other : Settings}
    (same : ∀ leaf, settings.content leaf = other.content leaf) : settings = other := by
  have levels (name : Text) : settings.moduleLevels.entries.lookup name =
      other.moduleLevels.entries.lookup name := by
    refine Option.map_injective (fun a b equal => ?_) (same (.moduleLevel name))
    exact Content.text.inj equal
  have version := Content.number.inj (Option.some.inj (same .version))
  have outputDir := Content.text.inj (Option.some.inj (same .outputDir))
  have routeConfig := Content.text.inj (Option.some.inj (same .routeConfig))
  have frameworkModule := Content.text.inj (Option.some.inj (same .frameworkModule))
  have debounceMs := Content.number.inj (Option.some.inj (same .debounceMs))
  have defaultLevel := Content.text.inj (Option.some.inj (same .defaultLevel))
  rcases settings with ⟨_, ⟨_⟩, ⟨_⟩, _, _, _, ⟨entries, sorted⟩⟩
  rcases other with ⟨_, ⟨_⟩, ⟨_⟩, _, _, _, ⟨otherEntries, otherSorted⟩⟩
  have entriesSame : entries = otherEntries := Table.Sorted.ext sorted otherSorted levels
  cases UInt32.toNat_inj.1 version
  cases UInt64.toNat_inj.1 debounceMs
  cases outputDir
  cases routeConfig
  cases frameworkModule
  cases defaultLevel
  cases entriesSame
  rfl

/-! ## Readers below some names -/

/-- A value that can stand where some names lead: towards every leaf below them there is nothing but
tables in the order of their names, and at the leaf nothing but a value of its type. -/
def FitsBelow (front : List Text) (value : Value) : Prop :=
  ∀ leaf rest, Leaf.way leaf = front ++ rest → value.IsOpen rest ∧ value.IsOrdered rest ∧
    ∀ found, value.find? rest = some found → (leaf.content? found).isSome

/-- What a value that stands behind so many names makes of a leaf. -/
def contentBehind (depth : Nat) (value : Value) (leaf : Leaf) : Option Content :=
  ((value.find? (leaf.way.drop depth)).bind leaf.content?).or (builtIn.content leaf)

/-- A reader that sets the leaves below some names and no others. -/
def ReadsBelow (front : List Text) (read : Settings → Reads Settings) : Prop :=
  ∀ value sofar, FitsBelow front value →
    (∀ leaf, front <+: Leaf.way leaf → sofar.content leaf = builtIn.content leaf) →
    Record.Sets content (fun leaf => front <+: leaf.way) (contentBehind front.length value) sofar
      (read sofar value)

/-- A reader of the value of one leaf. -/
theorem readsBelow_leaf (leaf : Leaf) {read : Settings → Reads Settings}
    (sets : ∀ sofar value said, leaf.content? value = some said → ∃ next,
      read sofar value = .ok next ∧
        ∀ other, next.content other = if other = leaf then some said else sofar.content other) :
    ReadsBelow leaf.way read := by
  intro value sofar fits _
  have ofType := (fits leaf [] (List.append_nil _).symm).2.2 value rfl
  rcases Option.isSome_iff_exists.1 ofType with ⟨said, isSaid⟩
  rcases sets sofar value said isSaid with ⟨next, answer, holds⟩
  refine ⟨next, answer, fun other => ⟨fun below => ?_, fun apart => ?_⟩⟩
  · cases Leaf.eq_of_way_beginning below
    rw [holds, if_pos rfl, contentBehind, List.drop_length, Value.find?, Option.bind_some, isSaid,
      Option.some_or]
  · rw [holds, if_neg]
    rintro rfl
    exact apart List.prefix_rfl

theorem readsBelow_number (leaf : Leaf) {bits : Nat} (isNumber : leaf.bits? = some bits)
    {set : Settings → Nat → Settings}
    (holds : ∀ sofar n, n < Nat.pow 2 bits → ∀ other,
      (set sofar n).content other = if other = leaf then some (.number n) else sofar.content other) :
    ReadsBelow leaf.way fun sofar value => (readUnsigned bits value).map (set sofar) := by
  refine readsBelow_leaf leaf fun sofar value said isSaid => ?_
  simp only [Leaf.content?, isNumber, Option.map_eq_some_iff, Option.filter_eq_some_iff,
    decide_eq_true_eq] at isSaid
  rcases isSaid with ⟨n, ⟨natural, small⟩, rfl⟩
  refine ⟨set sofar n, ?_, holds sofar n small⟩
  rw [Value.readUnsigned_of_natural? natural small]
  rfl

theorem readsBelow_text (leaf : Leaf) (isText : leaf.bits? = none) {reads : Reads Text}
    (readsText : ∀ origin t, reads (.text origin t) = .ok t) {set : Settings → Text → Settings}
    (holds : ∀ sofar t other,
      (set sofar t).content other = if other = leaf then some (.text t) else sofar.content other) :
    ReadsBelow leaf.way fun sofar value => (reads value).map (set sofar) := by
  refine readsBelow_leaf leaf fun sofar value said isSaid => ?_
  simp only [Leaf.content?, isText, Option.map_eq_some_iff] at isSaid
  rcases isSaid with ⟨t, textual, rfl⟩
  rcases Value.eq_text_of_text? textual with ⟨origin, rfl⟩
  refine ⟨set sofar t, ?_, holds sofar t⟩
  rw [readsText]
  rfl

/-- Where names go on, there is a table, and its entries can stand where its names lead. -/
theorem FitsBelow.exists_table {front : List Text} {value : Value} (fits : FitsBelow front value)
    (leaf : Leaf) {name : Text} {rest : List Text} (goesOn : leaf.way = front ++ name :: rest) :
    ∃ origin entries, value = .table origin entries ∧ Table.Sorted entries ∧
      ∀ name value, (name, value) ∈ entries → FitsBelow (front ++ [name]) value := by
  have fitsLeaf := fits leaf (name :: rest) goesOn
  cases value with
  | table origin entries =>
      have sorted := fitsLeaf.2.1.1
      refine ⟨origin, entries, rfl, sorted, fun name value member leaf rest way => ?_⟩
      have found := Table.lookup_of_mem sorted.nodup member
      rw [List.append_assoc, List.singleton_append] at way
      rcases fits leaf (name :: rest) way with ⟨isOpen, isOrdered, ofType⟩
      refine ⟨isOpen value found, isOrdered.2 value found, fun said isSaid => ofType said ?_⟩
      rw [Value.find?, found]
      exact isSaid
  | _ => exact fitsLeaf.1.elim

/-- A record whose fields are read from below their names is read from below its own. -/
theorem readsBelow_record {front : List Text} {record : Record Settings}
    (fields : record.fields.Forall fun field => ReadsBelow (front ++ [field.1]) field.2)
    (known : ∀ leaf, front <+: Leaf.way leaf → ∃ name rest, leaf.way = front ++ name :: rest ∧
      name ∈ record.fields.map Prod.fst)
    (inside : Leaf) (isInside : front <+: inside.way) : ReadsBelow front record.reads := by
  intro value sofar fits untouched
  rcases known inside isInside with ⟨_, _, goesOn, -⟩
  rcases fits.exists_table inside goesOn with ⟨origin, entries, rfl, sorted, fitsEntries⟩
  have table : ∃ result, record.readTable sofar entries = .ok result ∧ ∀ leaf,
      result.content leaf = ((Leaf.nameBehind front leaf).bind fun name => entries.lookup name).elim
        (sofar.content leaf) fun value => contentBehind (front.length + 1) value leaf := by
    refine Record.exists_readTable sorted.nodup (fun leaf name behind => ?_) ?_
    · have below := Leaf.nameBehind_eq_some_iff.1 behind
      rcases known leaf ((List.prefix_append ..).trans below) with ⟨other, rest, way, isField⟩
      cases behind.symm.trans (Leaf.nameBehind_of_way way)
      exact fun absent => Table.lookup_eq_none_iff.1 absent isField
    · intro name value member read isField next untouchedNext
      simp only [Leaf.nameBehind_eq_some_iff] at untouchedNext ⊢
      have reads : ReadsBelow (front ++ [name]) read :=
        List.forall_iff_forall_mem.1 fields _ (Table.mem_of_lookup isField)
      have sets := reads value next (fitsEntries name value member)
        fun leaf below => (untouchedNext leaf below).trans
          (untouched leaf ((List.prefix_append ..).trans below))
      rw [List.length_append, List.length_singleton] at sets
      exact sets
  rcases table with ⟨result, answer, leaves⟩
  refine ⟨result, answer, fun leaf => ⟨fun below => ?_, fun apart => ?_⟩⟩
  · rcases known leaf below with ⟨name, rest, way, -⟩
    have behind : leaf.way.drop front.length = name :: rest := by rw [way, List.drop_left]
    have further : leaf.way.drop (front.length + 1) = rest := by
      rw [← List.drop_drop, behind, List.drop_succ_cons, List.drop_zero]
    rw [leaves leaf, Leaf.nameBehind_of_way way, Option.bind_some, untouched leaf below,
      contentBehind, behind, Value.find?]
    cases entries.lookup name with
    | none => rfl
    | some value => rw [Option.elim_some, contentBehind, further, Option.bind_some]
  · rw [leaves leaf, Leaf.nameBehind, if_neg apart]
    rfl

/-- The levels of modules are read as a whole, from a table with their names. -/
theorem readsBelow_modules : ReadsBelow ["logging", "modules"] fun settings value =>
    (readMap readText value).map fun levels => { settings with moduleLevels := .ofList levels } := by
  intro value sofar fits untouched
  rcases fits.exists_table (.moduleLevel []) rfl with
    ⟨origin, entries, rfl, sorted, fitsEntries⟩
  have readable (name : Text) (value : Value) (member : (name, value) ∈ entries) :
      ∃ t, value.text? = some t ∧ readText value = .ok t := by
    have ofType := (fitsEntries name value member (.moduleLevel name) [] rfl).2.2 value rfl
    rcases Option.isSome_iff_exists.1 ofType with ⟨said, isSaid⟩
    rcases Option.map_eq_some_iff.1 isSaid with ⟨t, textual, -⟩
    rcases Value.eq_text_of_text? textual with ⟨_, rfl⟩
    exact ⟨t, rfl, rfl⟩
  rcases exists_readEntries readable with ⟨levels, answer, names, lookups⟩
  refine ⟨{ sofar with moduleLevels := .ofList levels }, ?_, fun leaf => ⟨fun below => ?_, ?_⟩⟩
  · simp only [readMap, answer]
    rfl
  · cases leaf <;> try simp [Leaf.way] at below
    rename_i name
    have distinct : (levels.map Prod.fst).Nodup := names ▸ sorted.nodup
    have none_builtIn : builtIn.content (.moduleLevel name) = none := rfl
    rw [contentBehind, none_builtIn, Option.or_none]
    simp only [content, ModuleLevels.ofList, Table.lookup_ofList distinct, lookups]
    cases found : entries.lookup name with
    | none => simp [Leaf.way, Value.find?, found]
    | some value => simp [Leaf.way, Value.find?, found, Leaf.content?, Leaf.bits?]
  · intro apart
    cases leaf <;> try rfl
    simp [Leaf.way] at apart

/-! ## Reading settings -/

theorem readsBelow_watchRecord : ReadsBelow ["watch"] watchRecord.reads := by
  refine readsBelow_record ?_ (fun leaf below => ?_) .debounceMs (by decide)
  · refine readsBelow_number .debounceMs rfl fun sofar n small other => ?_
    cases other <;> try rfl
    exact congrArg (some ∘ Content.number) (UInt64.toNat_ofNat_of_lt' small)
  · cases leaf <;> simp [Leaf.way] at below
    exact ⟨"debounce_ms", [], rfl, List.mem_cons_self ..⟩

theorem readsBelow_loggingRecord : ReadsBelow ["logging"] loggingRecord.reads := by
  refine readsBelow_record ⟨?_, readsBelow_modules⟩ (fun leaf below => ?_) .defaultLevel (by decide)
  · refine readsBelow_text .defaultLevel rfl (fun _ _ => rfl) fun sofar t other => ?_
    cases other <;> rfl
  · cases leaf <;> simp [Leaf.way] at below
    · exact ⟨"default", [], rfl, List.mem_cons_self ..⟩
    · exact ⟨"modules", _, rfl, List.mem_cons_of_mem _ (List.mem_cons_self ..)⟩

theorem readsBelow_record_settings : ReadsBelow [] record.reads := by
  refine readsBelow_record ⟨?version, ?outputDir, ?routeConfig, ?frameworkModule,
    readsBelow_watchRecord, readsBelow_loggingRecord⟩ (fun leaf _ => ?_) .version (by decide)
  case version =>
    refine readsBelow_number .version rfl fun sofar n small other => ?_
    cases other <;> try rfl
    exact congrArg (some ∘ Content.number) (UInt32.toNat_ofNat_of_lt' small)
  case outputDir =>
    refine readsBelow_text .outputDir rfl (fun _ _ => rfl) fun sofar t other => ?_
    cases other <;> rfl
  case routeConfig =>
    refine readsBelow_text .routeConfig rfl (fun _ _ => rfl) fun sofar t other => ?_
    cases other <;> rfl
  case frameworkModule =>
    refine readsBelow_text .frameworkModule rfl (fun _ _ => rfl) fun sofar t other => ?_
    cases other <;> rfl
  · have names : record.fields.map Prod.fst =
      ["version", "output_dir", "route_config", "framework_module", "watch", "logging"] := rfl
    rw [names]
    cases leaf <;> exact ⟨_, _, rfl, by decide⟩

/-- What a layer says of a leaf. -/
def contentIn (layer : Value) (leaf : Leaf) : Option Content :=
  (layer.find? leaf.way).bind leaf.content?

/-- A layer that fits is read, and a leaf that it says nothing of has its built-in value. -/
theorem exists_reads {layer : Value} (fits : FitsBelow [] layer) : ∃ settings,
    record.reads builtIn layer = .ok settings ∧
      ∀ leaf, settings.content leaf = (contentIn layer leaf).or (builtIn.content leaf) := by
  rcases readsBelow_record_settings layer builtIn fits fun _ _ => rfl with ⟨settings, answer, leaves⟩
  exact ⟨settings, answer, fun leaf => (leaves leaf).1 List.nil_prefix⟩

end Settings
end TypedRoutes
