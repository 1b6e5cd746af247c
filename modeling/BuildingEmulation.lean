import BuildingEmulation.Power
import BuildingEmulation.Scalar.Exact
import BuildingEmulation.Scalar.Extended
import BuildingEmulation.Scalar.Double
import BuildingEmulation.Decimal.Shortest
import BuildingEmulation.Decimal.Layout
import BuildingEmulation.Document.Reader
import BuildingEmulation.Document.Writer
import BuildingEmulation.SignalMap
import BuildingEmulation.Price
import BuildingEmulation.Comfort
import BuildingEmulation.Text.Quoted
import BuildingEmulation.Kpi.Spec
import BuildingEmulation.Registry
import BuildingEmulation.Clock
import BuildingEmulation.Kpi.Calculator
import BuildingEmulation.ResultsLog
import BuildingEmulation.Model.Recorded
import BuildingEmulation.Model.Scripted
import BuildingEmulation.Model.Exchange
import BuildingEmulation.Zone.Outdoor
import BuildingEmulation.Zone.Unit
import BuildingEmulation.Metrics.Collection
import BuildingEmulation.Session.Basic
import BuildingEmulation.Session.Held
import BuildingEmulation.Reference.Trajectory
import BuildingEmulation.Reference.Series
import BuildingEmulation.Config.Decode
import BuildingEmulation.Config.Encode
import BuildingEmulation.Toml.Reader
import BuildingEmulation.Config.Load
import BuildingEmulation.Document.Shape
import BuildingEmulation.Yaml.Cursor
import BuildingEmulation.Yaml.Scalar
import BuildingEmulation.Yaml.Tag
import BuildingEmulation.Yaml.Token
import BuildingEmulation.Yaml.Node
import BuildingEmulation.Yaml.Reader
import BuildingEmulation.Metadata.Reader
import BuildingEmulation.Session.Configured
import BuildingEmulation.Http.Percent
import BuildingEmulation.Http.MediaType
import BuildingEmulation.Http.Request
import BuildingEmulation.Api.Encode
import BuildingEmulation.Api.Service
import BuildingEmulation.FileAccess
import BuildingEmulation.Session.Timed
import BuildingEmulation.CommandLine.Arguments
import BuildingEmulation.CommandLine.Help
import BuildingEmulation.CommandLine.Execution
import BuildingEmulation.Main
import BuildingEmulation.Proofs.Session.Calls
import BuildingEmulation.Proofs.Model.Exchange
import BuildingEmulation.Proofs.Session.Fixed
import BuildingEmulation.Proofs.Kpi.Resolve
import BuildingEmulation.Proofs.Clock
import BuildingEmulation.Proofs.Session.History
import BuildingEmulation.Proofs.Kpi.Score
import BuildingEmulation.Proofs.Session.Scores
import BuildingEmulation.Proofs.Model.Tally
import BuildingEmulation.Proofs.Session.Steps
import BuildingEmulation.Proofs.Engine.Basic
import BuildingEmulation.Proofs.Engine.Invariant
import BuildingEmulation.Proofs.Engine.Stray
import BuildingEmulation.Proofs.Engine.Call
import BuildingEmulation.Proofs.Engine.Sequential
import BuildingEmulation.Proofs.Engine.Atomic
import BuildingEmulation.Proofs.Clock.Extended
import BuildingEmulation.Proofs.Session.Coherent
import BuildingEmulation.Proofs.Session.Consistent
import BuildingEmulation.Proofs.Session.Timing
import BuildingEmulation.Proofs.Engine.Crowd
import BuildingEmulation.Proofs.Engine.Order
import BuildingEmulation.Proofs.Engine.Serial
import BuildingEmulation.Proofs.Model.Commands
import BuildingEmulation.Proofs.Metadata
import BuildingEmulation.Proofs.Registry
import BuildingEmulation.Proofs.Session.Commands
import BuildingEmulation.Proofs.Session.Exchanges
import BuildingEmulation.Proofs.Session.Metered
import BuildingEmulation.Proofs.Session.Completion
import BuildingEmulation.Model.Paced
import BuildingEmulation.Proofs.Model.Mirror
import BuildingEmulation.Proofs.Session.Client
import BuildingEmulation.Proofs.Session.Erasure
import BuildingEmulation.Proofs.Api.Refusals
import BuildingEmulation.Proofs.ResultsLog
import BuildingEmulation.Proofs.Session.Polling
import BuildingEmulation.Proofs.Kpi.Growth
import BuildingEmulation.Proofs.Kpi.Repeats
import BuildingEmulation.Proofs.Session.Growth
import BuildingEmulation.Proofs.Csv
import BuildingEmulation.Proofs.Decimal
import BuildingEmulation.Proofs.Export
import BuildingEmulation.Proofs.Zone.Substeps
import BuildingEmulation.Proofs.Zone.Signals
import BuildingEmulation.Proofs.Zone.Overrides
import BuildingEmulation.Proofs.Session.Baseline
import BuildingEmulation.Proofs.Zone.Stable
import BuildingEmulation.Proofs.Model.Survival
import BuildingEmulation.Proofs.Zone.Range
import BuildingEmulation.Proofs.Session.Physical
import BuildingEmulation.Proofs.Calendar
import BuildingEmulation.Proofs.Price
import BuildingEmulation.Proofs.Calendar.TimeText
import BuildingEmulation.Proofs.FileStore
import BuildingEmulation.Proofs.Reference.Series
import BuildingEmulation.Proofs.Reference.Trajectory
import BuildingEmulation.Proofs.Config.Dump
