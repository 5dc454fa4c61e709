import CacheDepot.Buffer.Batch
import CacheDepot.Buffer.Cache
import CacheDepot.Buffer.Dictionary
import CacheDepot.Buffer.Layout
import CacheDepot.Buffer.Segment
import CacheDepot.Command.Execution
import CacheDepot.Command.Help
import CacheDepot.Command.Invocation
import CacheDepot.Command.Overrides
import CacheDepot.Command.Report
import CacheDepot.Config.Basic
import CacheDepot.Config.Decode
import CacheDepot.Config.Load
import CacheDepot.Config.Size
import CacheDepot.Config.Store
import CacheDepot.Decimal.Binary64
import CacheDepot.Decimal.Shortest
import CacheDepot.Digest.Sha256
import CacheDepot.Digest.SipHash
import CacheDepot.Files.Handle
import CacheDepot.Files.Path
import CacheDepot.Files.Reader
import CacheDepot.Files.Tree
import CacheDepot.Handles.Cache
import CacheDepot.Handles.Session
import CacheDepot.Json.Basic
import CacheDepot.Json.Merge
import CacheDepot.Json.Printer
import CacheDepot.Main
import CacheDepot.Memory.Allocator
import CacheDepot.Memory.Arena
import CacheDepot.Memory.Workspace
import CacheDepot.Proofs.Buffer.Budget
import CacheDepot.Proofs.Buffer.Coherence
import CacheDepot.Proofs.Buffer.Construction
import CacheDepot.Proofs.Buffer.Eviction
import CacheDepot.Proofs.Buffer.Inclusion
import CacheDepot.Proofs.Buffer.Independence
import CacheDepot.Proofs.Buffer.LastWrite
import CacheDepot.Proofs.Buffer.Lookup
import CacheDepot.Proofs.Buffer.Queueing
import CacheDepot.Proofs.Buffer.Replay
import CacheDepot.Proofs.Buffer.Reservation
import CacheDepot.Proofs.Buffer.Selection
import CacheDepot.Proofs.Buffer.Sizing
import CacheDepot.Proofs.Command.Agreement
import CacheDepot.Proofs.Command.Reading
import CacheDepot.Proofs.Command.Settings
import CacheDepot.Proofs.Config.Decoding
import CacheDepot.Proofs.Config.Dominance
import CacheDepot.Proofs.Config.Format
import CacheDepot.Proofs.Config.Layers
import CacheDepot.Proofs.Config.Loading
import CacheDepot.Proofs.Config.SizeForms
import CacheDepot.Proofs.Config.Topmost
import CacheDepot.Proofs.Files.Resolution
import CacheDepot.Proofs.Handles.Ceilings
import CacheDepot.Proofs.Handles.Construction
import CacheDepot.Proofs.Handles.Custody
import CacheDepot.Proofs.Handles.History
import CacheDepot.Proofs.Handles.Idling
import CacheDepot.Proofs.Handles.Lending
import CacheDepot.Proofs.Handles.Slots
import CacheDepot.Proofs.Handles.Transparency
import CacheDepot.Proofs.Json.Equality
import CacheDepot.Proofs.Json.Layering
import CacheDepot.Proofs.Json.Merging
import CacheDepot.Proofs.Json.Regrouping
import CacheDepot.Proofs.Memory.Balance
import CacheDepot.Proofs.Memory.Bounds
import CacheDepot.Proofs.Memory.Conservation
import CacheDepot.Proofs.Memory.Occupancy
import CacheDepot.Proofs.Memory.Settling
import CacheDepot.Proofs.Named
import CacheDepot.Proofs.Registry.Accessors
import CacheDepot.Proofs.Registry.Accounting
import CacheDepot.Proofs.Registry.Attempts
import CacheDepot.Proofs.Registry.Footprint
import CacheDepot.Proofs.Registry.Interludes
import CacheDepot.Proofs.Registry.Moves
import CacheDepot.Proofs.Registry.Overtaken
import CacheDepot.Proofs.Registry.Provision
import CacheDepot.Proofs.Registry.Publication
import CacheDepot.Proofs.Registry.Schedules
import CacheDepot.Proofs.Registry.Snapshots
import CacheDepot.Proofs.Registry.Visits
import CacheDepot.Proofs.Text.Letters
import CacheDepot.Proofs.Text.Numerals
import CacheDepot.Proofs.Text.Slicing
import CacheDepot.Proofs.Text.Trimming
import CacheDepot.Proofs.Toml.Ordered
import CacheDepot.Registry.Backend
import CacheDepot.Registry.Basic
import CacheDepot.Registry.Call
import CacheDepot.Registry.Script
import CacheDepot.Registry.Serial
import CacheDepot.Registry.System
import CacheDepot.Text.Blank
import CacheDepot.Text.Digits
import CacheDepot.Text.Escaped
import CacheDepot.Text.Quoted
import CacheDepot.Text.Utf8
import CacheDepot.Toml.Document
import CacheDepot.Toml.Key
import CacheDepot.Toml.Moment
import CacheDepot.Toml.Number
import CacheDepot.Toml.Table
import CacheDepot.Toml.Text
import CacheDepot.Toml.Trivia
import CacheDepot.Toml.Value
