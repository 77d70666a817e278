import TypedRoutes.Main
import TypedRoutes.Proofs.Path.Beginnings
import TypedRoutes.Proofs.Disk.Entry
import TypedRoutes.Proofs.Disk.Walk
import TypedRoutes.Proofs.Disk.Request
import TypedRoutes.Proofs.Disk.Trouble
import TypedRoutes.Proofs.Disk.Directories
import TypedRoutes.Proofs.Disk.Soundness
import TypedRoutes.Proofs.Disk.Writing
import TypedRoutes.Proofs.Declaration.Placement
import TypedRoutes.Proofs.Declaration.Register
import TypedRoutes.Proofs.Output.Clearing
import TypedRoutes.Proofs.Output.Failure
import TypedRoutes.Proofs.Output.Protection
import TypedRoutes.Proofs.Output.Replacement
import TypedRoutes.Proofs.Watch.Changes
import TypedRoutes.Proofs.Watch.History
import TypedRoutes.Proofs.Watch.Account
import TypedRoutes.Proofs.Watch.Due
import TypedRoutes.Proofs.Watch.Shutdown
import TypedRoutes.Proofs.Route.Ascent
import TypedRoutes.Proofs.Route.Building
import TypedRoutes.Proofs.Route.Coherence
import TypedRoutes.Proofs.Output.Built
import TypedRoutes.Proofs.Output.Imports
import TypedRoutes.Proofs.CommandLine.Settings
import TypedRoutes.Proofs.Declaration.Locality
import TypedRoutes.Proofs.Declaration.Determined
import TypedRoutes.Proofs.Output.Creation
import TypedRoutes.Proofs.Output.Spelling
import TypedRoutes.Proofs.Route.Inheritance
import TypedRoutes.Proofs.Declaration.Splat
import TypedRoutes.Proofs.Declaration.Relative
import TypedRoutes.Proofs.Declaration.Containment
import TypedRoutes.Proofs.Output.Collision
import TypedRoutes.Proofs.Declaration.Agreement
import TypedRoutes.Proofs.Route.Cycle
import TypedRoutes.Proofs.Route.Derived
import TypedRoutes.Proofs.Output.Reordering
import TypedRoutes.Proofs.Output.Guard
import TypedRoutes.Proofs.Watch.Quiet
import TypedRoutes.Proofs.Source.Reloading
import TypedRoutes.Proofs.Text.Tables
import TypedRoutes.Proofs.Layer.Overlay
import TypedRoutes.Proofs.Layer.Records
import TypedRoutes.Proofs.Layer.Finding
import TypedRoutes.Proofs.Settings.Leaves
import TypedRoutes.Proofs.Settings.Layers
import TypedRoutes.Proofs.Toml.Lines
import TypedRoutes.Proofs.Settings.Document
import TypedRoutes.Proofs.Settings.Saving
import TypedRoutes.Proofs.Settings.NamedFile
import TypedRoutes.Proofs.Settings.Setup
import TypedRoutes.Proofs.Text.Unquoting
