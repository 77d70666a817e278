import TypedRoutes.Proofs.Layer.Places
import TypedRoutes.Proofs.Settings.Document
import TypedRoutes.Source.RouteConfig

namespace TypedRoutes

/-!
# The routes to start from

The text that a new project gets for its routes is a route config, and its routes form a tree.  So
the project can be loaded at once, for every mode.
-/

namespace Settings

open Toml

/-! ## The document -/

/-- The statements of the starter route config. -/
def starterStatements : List Statement :=
  [.entry [] "app_directory" (.string "app"),
    .table [] "future",
    .entry [] "unstable_middleware" (.boolean false),
    .element [] "routes",
    .entry [] "id" (.string "root"),
    .entry [] "file" (.string "root.tsx"),
    .element [] "routes",
    .entry [] "id" (.string "home"),
    .entry [] "file" (.string "routes/home.tsx"),
    .entry [] "index" (.boolean true),
    .element [] "routes",
    .entry [] "id" (.string "posts"),
    .entry [] "path" (.string "posts/:slug"),
    .entry [] "file" (.string "routes/post.tsx")]

/-- The starter route config is read line by line. -/
theorem isReadAs_starterRoutes : IsReadAs starterRoutes (some starterStatements) := by
  have text : starterRoutes ++ [] =
      ('#' :: (" Route config read by route-typegen." ++ ['\n']))
        ++ (('#' :: ([] ++ ['\n']))
        ++ (('#' :: (" A route's parent is its id minus the last `/` component (or the root)," ++ ['\n']))
        ++ (('#' :: (" unless `parent_id` is given." ++ ['\n']))
        ++ (['\n'] ++ (line "app_directory" (writeString "app")
        ++ (['\n'] ++ (('[' :: "future]\n")
        ++ (line "unstable_middleware" "false"
        ++ (['\n'] ++ (('[' :: "[routes]]\n")
        ++ (line "id" (writeString "root")
        ++ (line "file" (writeString "root.tsx")
        ++ (['\n'] ++ (('[' :: "[routes]]\n")
        ++ (line "id" (writeString "home")
        ++ (line "file" (writeString "routes/home.tsx")
        ++ (line "index" "true"
        ++ (['\n'] ++ (('[' :: "[routes]]\n")
        ++ (line "id" (writeString "posts")
        ++ (line "path" (writeString "posts/:slug")
        ++ (line "file" (writeString "routes/post.tsx") ++ [])))))))))))))))))))))) := by
    unfold starterRoutes
    simp only [List.append_assoc]
    rfl
  have string (name text : Text) := isLine_entry (isWrittenAs_writeString text) name
  have future : IsLine ('[' :: "future]\n") (some [.table [] "future"]) := isLine_header fun _ => rfl
  have routes : IsLine ('[' :: "[routes]]\n") (some [.element [] "routes"]) := isLine_header fun _ => rfl
  have posts := isReadAs_nil.cons (string "file" "routes/post.tsx") |>.cons (string "path" "posts/:slug")
    |>.cons (string "id" "posts") |>.cons routes |>.cons isLine_blank
  have home := posts.cons (isLine_entry isWrittenAs_true "index")
    |>.cons (string "file" "routes/home.tsx") |>.cons (string "id" "home") |>.cons routes
    |>.cons isLine_blank
  have root := home.cons (string "file" "root.tsx") |>.cons (string "id" "root") |>.cons routes
    |>.cons isLine_blank
  have settings := root.cons (isLine_entry isWrittenAs_false "unstable_middleware") |>.cons future
    |>.cons isLine_blank |>.cons (string "app_directory" "app") |>.cons isLine_blank
  rw [← List.append_nil starterRoutes, text]
  exact settings.cons (isLine_comment (by decide)) |>.cons (isLine_comment (by decide))
    |>.cons (isLine_comment (by decide)) |>.cons (isLine_comment (by decide))

/-- The entries of the starter route config. -/
def starterEntries : List (Text × Toml.Value) :=
  [("app_directory", .string "app"),
    ("future", .table [("unstable_middleware", .boolean false)]),
    ("routes", .array
      [.table [("id", .string "root"), ("file", .string "root.tsx")],
        .table [("id", .string "home"), ("file", .string "routes/home.tsx"), ("index", .boolean true)],
        .table [("id", .string "posts"), ("path", .string "posts/:slug"),
          ("file", .string "routes/post.tsx")]])]

set_option maxRecDepth 4000 in
theorem parse?_starterRoutes : parse? starterRoutes = some starterEntries := by
  rw [parse?_of_isReadAs rfl isReadAs_starterRoutes]
  rfl

end Settings

/-! ## The routes -/

/-- The routes of the starter route config. -/
def RouteConfig.starter : RouteConfig where
  appDirectory := "app"
  routes :=
    [{ id := "root", file := some "root.tsx" },
      { id := "home", file := some "routes/home.tsx", index := true },
      { id := "posts", path := some "posts/:slug", file := some "routes/post.tsx" }]

theorem RouteConfig.ofLayer_starterEntries (origin : Layer.Origin) :
    RouteConfig.ofLayer (.table origin (Layer.Value.ofTomlEntries origin Settings.starterEntries)) =
      .ok starter := by
  rfl

namespace Snapshot

open Layer

/-- The snapshot of the starter route config. -/
def starter (mode : Text) : Snapshot where
  appDirectory := RouteConfig.starter.appDirectory
  mode := mode
  future := RouteConfig.starter.future
  tree := ⟨RouteConfig.starter.rootId, RouteConfig.starter.routes, _, _, rfl, rfl⟩

theorem snapshot_starter (mode : Text) : RouteConfig.starter.snapshot mode = .ok (starter mode) := by
  have isTree : RouteTree.build RouteConfig.starter.rootId RouteConfig.starter.routes =
      .ok (starter mode).tree := by
    rfl
  rw [RouteConfig.snapshot, isTree]
  rfl

variable {disk : Disk} {path : Path}

/-- Loading a route config reads the file that is found at its path. -/
theorem load_of_fileText? {text : Text} (found : disk.fileText? path = some text)
    (reachable : Reachable disk.working path) (mode : Text) :
    ∃ shown, load (m := StateM Disk) path mode disk = (match ofText shown text with
      | .error error => .error (.config error)
      | .ok layer => ofLayer layer mode, disk) := by
  rcases ofFile_of_fileText? found reachable with ⟨shown, run⟩
  refine ⟨shown, ?_⟩
  rw [load, FileSystem.bind_run, isFile_run, found]
  change (ofFile (m := StateM Disk) path >>= _) disk = _
  rw [FileSystem.bind_run, run]
  cases ofText shown text <;> rfl

/-- The starter route config is loaded for every mode. -/
theorem load_starterRoutes (found : disk.fileText? path = some Settings.starterRoutes)
    (reachable : Reachable disk.working path) (mode : Text) :
    load (m := StateM Disk) path mode disk = (.ok (starter mode), disk) := by
  rcases load_of_fileText? found reachable mode with ⟨shown, run⟩
  rw [run, ofText, Settings.parse?_starterRoutes]
  change (ofLayer (.table (.file shown) _) mode, disk) = _
  rw [ofLayer, RouteConfig.ofLayer_starterEntries]
  change ((RouteConfig.starter.snapshot mode).mapError _, disk) = _
  rw [snapshot_starter]
  rfl

end Snapshot
end TypedRoutes
