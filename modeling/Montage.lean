import Montage.Address.Basic
import Montage.Address.International
import Montage.Address.Letter
import Montage.Address.Numeric
import Montage.Address.Punycode
import Montage.Address.Reference
import Montage.Asset.Download
import Montage.Asset.Resolver
import Montage.Disk.Basic
import Montage.Disk.Path
import Montage.Effect.Basic
import Montage.Effect.Lettering
import Montage.Effect.Picture
import Montage.Encoder.Command
import Montage.Failure
import Montage.Font.Service
import Montage.Font.Setup
import Montage.Graph.Basic
import Montage.Graph.Document
import Montage.Graph.Filter
import Montage.Job.Record
import Montage.Job.Registry
import Montage.Job.Workspace
import Montage.Json.Access
import Montage.Json.Operand
import Montage.Json.Reader
import Montage.Json.Shown
import Montage.Json.Value
import Montage.Json.Writer
import Montage.Media.Report
import Montage.Number.Amount
import Montage.Number.Binary64
import Montage.Number.Decimal
import Montage.Number.Digits
import Montage.Number.Numeral
import Montage.Proofs.Asset.Account
import Montage.Proofs.Asset.Calls
import Montage.Proofs.Asset.Download
import Montage.Proofs.Asset.Fetch
import Montage.Proofs.Asset.History
import Montage.Proofs.Asset.Names
import Montage.Proofs.Asset.Reuse
import Montage.Proofs.Asset.Scene
import Montage.Proofs.Asset.Together
import Montage.Proofs.Disk.Alike
import Montage.Proofs.Disk.Files
import Montage.Proofs.Disk.Path
import Montage.Proofs.Disk.Places
import Montage.Proofs.Disk.Removal
import Montage.Proofs.Effect.Numbers
import Montage.Proofs.Effect.Ranges
import Montage.Proofs.Effect.Ratio
import Montage.Proofs.Effect.Settled
import Montage.Proofs.Expression.Reading
import Montage.Proofs.Expression.Spelled
import Montage.Proofs.Font.Setup
import Montage.Proofs.Graph.Compiled
import Montage.Proofs.Graph.Composed
import Montage.Proofs.Graph.Flat
import Montage.Proofs.Graph.Marks
import Montage.Proofs.Graph.Named
import Montage.Proofs.Graph.Numbers
import Montage.Proofs.Graph.Options
import Montage.Proofs.Graph.Reading
import Montage.Proofs.Graph.Segments
import Montage.Proofs.Graph.Stages
import Montage.Proofs.Graph.Telling
import Montage.Proofs.Graph.Wiring
import Montage.Proofs.Media.Rate
import Montage.Proofs.Media.Report
import Montage.Proofs.Number.Bounds
import Montage.Proofs.Number.Characters
import Montage.Proofs.Number.Nearest
import Montage.Proofs.Number.Order
import Montage.Proofs.Number.Printed
import Montage.Proofs.Number.Relative
import Montage.Proofs.Number.Written
import Montage.Proofs.Publish.Callback
import Montage.Proofs.Registry.Branches
import Montage.Proofs.Registry.Calls
import Montage.Proofs.Registry.Ownership
import Montage.Proofs.Registry.Progress
import Montage.Proofs.Registry.Records
import Montage.Proofs.Registry.Rejections
import Montage.Proofs.Registry.Slots
import Montage.Proofs.Registry.Sweeps
import Montage.Proofs.Render.Admitted
import Montage.Proofs.Render.Apart
import Montage.Proofs.Render.Composition
import Montage.Proofs.Render.Conduct
import Montage.Proofs.Render.Course
import Montage.Proofs.Render.Delivery
import Montage.Proofs.Render.Fades
import Montage.Proofs.Render.Flat
import Montage.Proofs.Render.Leftovers
import Montage.Proofs.Render.Making
import Montage.Proofs.Render.Names
import Montage.Proofs.Render.Notice
import Montage.Proofs.Render.Phases
import Montage.Proofs.Render.Plan
import Montage.Proofs.Render.Return
import Montage.Proofs.Render.Unrendered
import Montage.Proofs.Request.Identity
import Montage.Proofs.Request.Timeline
import Montage.Proofs.Schema.Clamping
import Montage.Proofs.Schema.Taking
import Montage.Proofs.Server.Admission
import Montage.Proofs.Server.Download
import Montage.Proofs.Service.Annals
import Montage.Proofs.Service.Invariant
import Montage.Proofs.Service.LeftBehind
import Montage.Proofs.Service.Outputs
import Montage.Proofs.Service.Production
import Montage.Proofs.Service.Served
import Montage.Proofs.Service.Sound
import Montage.Proofs.Service.SoundAnnals
import Montage.Proofs.Service.Steps
import Montage.Proofs.Stage.Cropping
import Montage.Proofs.Stage.DrawnColors
import Montage.Proofs.Stage.DrawnText
import Montage.Proofs.Stage.Fading
import Montage.Proofs.Stage.Movement
import Montage.Proofs.Stage.Sliding
import Montage.Proofs.Stage.Zooming
import Montage.Proofs.Storage.Calls
import Montage.Proofs.Storage.Confined
import Montage.Proofs.Storage.Key
import Montage.Proofs.Storage.Local
import Montage.Proofs.Storage.Mapping
import Montage.Proofs.Storage.Records
import Montage.Proofs.Storage.Results
import Montage.Proofs.Storage.Upload
import Montage.Proofs.Subtitle.Clock
import Montage.Proofs.Subtitle.Cues
import Montage.Proofs.Subtitle.Document
import Montage.Proofs.Subtitle.Lasting
import Montage.Proofs.Subtitle.Lines
import Montage.Proofs.Subtitle.Wrapped
import Montage.Proofs.Subtitle.Written
import Montage.Proofs.Text.Percent
import Montage.Proofs.Text.Utf8
import Montage.Proofs.Text.Writable
import Montage.Proofs.Work.Account
import Montage.Proofs.Work.Beside
import Montage.Proofs.Work.Run
import Montage.Proofs.Work.Values
import Montage.Publish.Callback
import Montage.Publish.Delivery
import Montage.Render.Composition
import Montage.Render.Flat
import Montage.Render.Job
import Montage.Render.Lettering
import Montage.Request.Render
import Montage.Request.Timeline
import Montage.Scenario.Document
import Montage.Scenario.Errors
import Montage.Scenario.Files
import Montage.Scenario.World
import Montage.Schema.Field
import Montage.Schema.Issue
import Montage.Server.Answer
import Montage.Server.Content
import Montage.Server.Endpoint
import Montage.Server.Message
import Montage.Server.Origin
import Montage.Server.State
import Montage.ServerError
import Montage.Session.Basic
import Montage.Session.Jobs
import Montage.Session.Registry
import Montage.Session.Server
import Montage.Session.Storage
import Montage.Session.Workspace
import Montage.Session.World
import Montage.Settings
import Montage.Signature
import Montage.Stage.Color
import Montage.Stage.Crop
import Montage.Stage.Text
import Montage.Stage.Timing
import Montage.Stage.Watermark
import Montage.Stage.Zoom
import Montage.Storage.Basic
import Montage.Storage.Bucket
import Montage.Storage.Key
import Montage.Storage.Local
import Montage.Subtitle.Cue
import Montage.Subtitle.Document
import Montage.Text.Blank
import Montage.Text.Digit
import Montage.Text.Encoding
import Montage.Text.LowerCase
import Montage.Text.Percent
import Montage.Text.Quoted
import Montage.Text.Split
import Montage.Text.Surrogate
import Montage.Text.Utf8
import Montage.Work.Job
import Montage.Work.Program
