import LayeredMap.Affine
import LayeredMap.Codec.Event
import LayeredMap.Codec.Geometry
import LayeredMap.Codec.Layer
import LayeredMap.Codec.Manifest
import LayeredMap.CommandLine
import LayeredMap.Coordinate
import LayeredMap.Crs
import LayeredMap.Decimal.Numeral
import LayeredMap.Decimal.Shortest
import LayeredMap.Environment
import LayeredMap.Environment.File
import LayeredMap.Extent
import LayeredMap.Failure
import LayeredMap.FileTree
import LayeredMap.Footprint
import LayeredMap.Instant
import LayeredMap.Instant.Text
import LayeredMap.Json.Decode
import LayeredMap.Json.Doc
import LayeredMap.Json.Printer
import LayeredMap.Json.Token
import LayeredMap.Json.Value
import LayeredMap.Layer.Basic
import LayeredMap.Layer.Change
import LayeredMap.Layer.Description
import LayeredMap.Layer.Id
import LayeredMap.Main
import LayeredMap.Manifest
import LayeredMap.MaxBounds
import LayeredMap.Notice
import LayeredMap.Proofs.Action
import LayeredMap.Proofs.Adoption
import LayeredMap.Proofs.Aggregation
import LayeredMap.Proofs.Announcement
import LayeredMap.Proofs.Arithmetic
import LayeredMap.Proofs.Attendance
import LayeredMap.Proofs.Batch
import LayeredMap.Proofs.Boxes
import LayeredMap.Proofs.Building
import LayeredMap.Proofs.Chimes
import LayeredMap.Proofs.Conservation
import LayeredMap.Proofs.Containment
import LayeredMap.Proofs.Copy
import LayeredMap.Proofs.Course
import LayeredMap.Proofs.Custody
import LayeredMap.Proofs.Delivery
import LayeredMap.Proofs.Directed
import LayeredMap.Proofs.Documents
import LayeredMap.Proofs.Ending
import LayeredMap.Proofs.Exactness
import LayeredMap.Proofs.Faults
import LayeredMap.Proofs.Filing
import LayeredMap.Proofs.Finiteness
import LayeredMap.Proofs.Forwarding
import LayeredMap.Proofs.Identities
import LayeredMap.Proofs.Indices
import LayeredMap.Proofs.Interruption
import LayeredMap.Proofs.Inversion
import LayeredMap.Proofs.Isolation
import LayeredMap.Proofs.LatestFiling
import LayeredMap.Proofs.Ledger
import LayeredMap.Proofs.Magnitude
import LayeredMap.Proofs.ManifestBounds
import LayeredMap.Proofs.Margin
import LayeredMap.Proofs.MaxBounds
import LayeredMap.Proofs.Members
import LayeredMap.Proofs.Mirror
import LayeredMap.Proofs.Names
import LayeredMap.Proofs.Order
import LayeredMap.Proofs.Passage
import LayeredMap.Proofs.Places
import LayeredMap.Proofs.PropertyNames
import LayeredMap.Proofs.Publication
import LayeredMap.Proofs.Reachable
import LayeredMap.Proofs.Refusal
import LayeredMap.Proofs.Removal
import LayeredMap.Proofs.Rereading
import LayeredMap.Proofs.Respelling
import LayeredMap.Proofs.Roster
import LayeredMap.Proofs.Rounding
import LayeredMap.Proofs.RoundTrip
import LayeredMap.Proofs.Scanning
import LayeredMap.Proofs.Seniority
import LayeredMap.Proofs.Sequence
import LayeredMap.Proofs.Source
import LayeredMap.Proofs.Spelling
import LayeredMap.Proofs.Stack
import LayeredMap.Proofs.Subscribers
import LayeredMap.Proofs.Subscription
import LayeredMap.Proofs.Switches
import LayeredMap.Proofs.Transition
import LayeredMap.Proofs.Union
import LayeredMap.Proofs.Untouched
import LayeredMap.Proofs.Veil
import LayeredMap.Proofs.VeiledScene
import LayeredMap.Proofs.VeiledWorld
import LayeredMap.Proofs.Viewing
import LayeredMap.Proofs.ZeroSigns
import LayeredMap.Reprojection
import LayeredMap.Roster
import LayeredMap.Settings
import LayeredMap.Sheet.Basic
import LayeredMap.Sheet.Disposal
import LayeredMap.Sheet.Event
import LayeredMap.Sheet.Layers
import LayeredMap.Sheet.Listeners
import LayeredMap.Sheet.Properties
import LayeredMap.Stack
import LayeredMap.Text.Alphanumeric
import LayeredMap.Text.Blank
import LayeredMap.Text.Hex
import LayeredMap.Text.Printable
import LayeredMap.Text.Quoted
import LayeredMap.Viewport
import LayeredMap.World.Basic
import LayeredMap.World.Command
import LayeredMap.World.Delivery
import LayeredMap.World.Scene
