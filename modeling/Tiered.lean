import Tiered.Comparison
import Tiered.Config.Load
import Tiered.Failure.Make
import Tiered.Files.Listing
import Tiered.Log.Call
import Tiered.Log.Line
import Tiered.Schema.Assign
import Tiered.Session.Workspace
import Tiered.Value.Members
import Tiered.Proofs.Session.Exit
import Tiered.Proofs.Session.Open
import Tiered.Proofs.Session.Refinement
import Tiered.Proofs.Keeps
import Tiered.Proofs.Template.Outcome
import Tiered.Proofs.Template.Spans
import Tiered.Proofs.Template.Filling
import Tiered.Proofs.Session.Unsaved
import Tiered.Proofs.Store.Durability
import Tiered.Proofs.Session.Reload
import Tiered.Proofs.Session.Reopening
import Tiered.Proofs.Session.Use
import Tiered.Proofs.Session.Durability
import Tiered.Proofs.Session.Unopened
import Tiered.Proofs.Session.Lifecycle
import Tiered.Proofs.Resolver.Tiers
import Tiered.Proofs.Agree
import Tiered.Proofs.Files.Alike
import Tiered.Proofs.Value.Alike
import Tiered.Proofs.Resolver.Alike
import Tiered.Proofs.Template.Alike
import Tiered.Proofs.Store.Alike
import Tiered.Proofs.Session.Growth
import Tiered.Proofs.Session.Alike
import Tiered.Proofs.Session.Idle
import Tiered.Proofs.Session.Detached
import Tiered.Proofs.Store.Frame
import Tiered.Proofs.Session.Frame
import Tiered.Proofs.Schema.Field
import Tiered.Proofs.Config.Ways
import Tiered.Proofs.Template.Containers
import Tiered.Proofs.Template.Escape
import Tiered.Proofs.Json.Refused
import Tiered.Proofs.Json.Checked
import Tiered.Proofs.Json.Room
import Tiered.Proofs.Store.Keys
import Tiered.Proofs.Store.Entrywise
import Tiered.Proofs.Template.Inline
import Tiered.Proofs.Template.Fault
import Tiered.Proofs.Value.Equality
import Tiered.Proofs.Resolver.Absence
import Tiered.Proofs.Resolver.Effect
import Tiered.Proofs.Resolver.Presence
import Tiered.Proofs.Resolver.Restoring
import Tiered.Proofs.Session.Closing
import Tiered.Proofs.Comparison
import Tiered.Proofs.Config.Load
import Tiered.Proofs.Config.RoundTrip
