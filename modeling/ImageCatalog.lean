import ImageCatalog.Artifact.Address
import ImageCatalog.Artifact.Key
import ImageCatalog.Cli.Desk
import ImageCatalog.Cli.Host
import ImageCatalog.Cli.Invocation
import ImageCatalog.Cli.LogStyle
import ImageCatalog.Cli.Places
import ImageCatalog.Cli.Session
import ImageCatalog.Cli.Usage
import ImageCatalog.Config
import ImageCatalog.Config.Yaml
import ImageCatalog.Consumers
import ImageCatalog.Dictionary
import ImageCatalog.Disk
import ImageCatalog.Disk.Tree
import ImageCatalog.Duration
import ImageCatalog.Duration.Parser
import ImageCatalog.Event
import ImageCatalog.Event.Json
import ImageCatalog.Failure
import ImageCatalog.Json.Basic
import ImageCatalog.Json.Decode
import ImageCatalog.Json.Reader
import ImageCatalog.Json.Writer
import ImageCatalog.Location
import ImageCatalog.LogLine
import ImageCatalog.Main
import ImageCatalog.Name
import ImageCatalog.Pass
import ImageCatalog.Pass.Placement
import ImageCatalog.Phase
import ImageCatalog.Program
import ImageCatalog.Provider
import ImageCatalog.Record
import ImageCatalog.Record.Json
import ImageCatalog.Rehearsal
import ImageCatalog.Rehearsal.Script
import ImageCatalog.Release
import ImageCatalog.Retention
import ImageCatalog.Revision
import ImageCatalog.Service
import ImageCatalog.Source
import ImageCatalog.Source.Probe
import ImageCatalog.Store
import ImageCatalog.Store.Folder
import ImageCatalog.Store.Ledger
import ImageCatalog.Store.Version
import ImageCatalog.Text.Blank
import ImageCatalog.Text.Decimal
import ImageCatalog.Text.DecimalDigit
import ImageCatalog.Text.HexTable
import ImageCatalog.Text.Normal
import ImageCatalog.Text.Normal.Table
import ImageCatalog.Text.Quoted
import ImageCatalog.Text.Quoted.Table
import ImageCatalog.Text.Scan
import ImageCatalog.Text.Split
import ImageCatalog.Time.Calendar
import ImageCatalog.Time.Instant
import ImageCatalog.Time.Reader
import ImageCatalog.Time.Writer
import ImageCatalog.Timeline
import ImageCatalog.Url
import ImageCatalog.Url.Domain
import ImageCatalog.Url.Domain.Direction
import ImageCatalog.Url.Domain.Mapping
import ImageCatalog.Url.Domain.Punycode
import ImageCatalog.Url.Host
import ImageCatalog.World
import ImageCatalog.Yaml.Cursor
import ImageCatalog.Yaml.Decode
import ImageCatalog.Yaml.Meaning
import ImageCatalog.Yaml.Node
import ImageCatalog.Yaml.Node.Parser
import ImageCatalog.Yaml.Token
import ImageCatalog.Yaml.Token.Lexer
import ImageCatalog.Yaml.Token.Scalar
import ImageCatalog.Yaml.Token.Tag
import ImageCatalog.Proofs.Dictionary
import ImageCatalog.Proofs.Store.Ledger
import ImageCatalog.Proofs.Run.Errand
import ImageCatalog.Proofs.Run.Scene
import ImageCatalog.Proofs.Run.Contract
import ImageCatalog.Proofs.Pass.Outline
import ImageCatalog.Proofs.Pass.Course
import ImageCatalog.Proofs.Pass.Walk
import ImageCatalog.Proofs.Consumers.Walk
import ImageCatalog.Proofs.Consumers.Tally
import ImageCatalog.Proofs.Consumers.Books
import ImageCatalog.Proofs.Consumers.Bookkeeping
import ImageCatalog.Proofs.Consumers.Clerks
import ImageCatalog.Proofs.Run.Performance
import ImageCatalog.Proofs.Consumers.References
import ImageCatalog.Proofs.Catalog.Withdrawal
import ImageCatalog.Proofs.Text.Numeral
import ImageCatalog.Proofs.Text.Split
import ImageCatalog.Proofs.Name
import ImageCatalog.Proofs.Time.Calendar
import ImageCatalog.Proofs.Time.Stamp
import ImageCatalog.Proofs.Record.LastUsed
import ImageCatalog.Proofs.Retention.Grace
import ImageCatalog.Proofs.Retention.Patience
import ImageCatalog.Proofs.Record.Shape
import ImageCatalog.Proofs.Journal.Replay
import ImageCatalog.Proofs.Journal.Chronicle
import ImageCatalog.Proofs.Journal.Faithful
import ImageCatalog.Proofs.Retention.Fresh
import ImageCatalog.Proofs.Contention.Crowd
import ImageCatalog.Proofs.Contention.Rely
import ImageCatalog.Proofs.Contention.Atomic
import ImageCatalog.Proofs.Json.Layout
import ImageCatalog.Proofs.Json.RoundTrip
import ImageCatalog.Proofs.Time.Zulu
import ImageCatalog.Proofs.Record.RoundTrip
import ImageCatalog.Proofs.Store.Files
import ImageCatalog.Proofs.Store.Call
import ImageCatalog.Proofs.Store.Versions
import ImageCatalog.Proofs.Store.Paths
import ImageCatalog.Proofs.Store.Alike
import ImageCatalog.Proofs.Retention.Renewal
import ImageCatalog.Proofs.Pass.Goal
import ImageCatalog.Proofs.Rehearsal.Moments
import ImageCatalog.Proofs.Rehearsal.Outcome
import ImageCatalog.Proofs.Record.Attendance
import ImageCatalog.Proofs.Rehearsal.Resume
import ImageCatalog.Proofs.Run.Prompt
import ImageCatalog.Proofs.Rehearsal.Rest
import ImageCatalog.Proofs.Rehearsal.Again
import ImageCatalog.Proofs.Run.Trace
import ImageCatalog.Proofs.Run.Exchanges
import ImageCatalog.Proofs.Catalog.Shelves
import ImageCatalog.Proofs.Pass.Protocol
import ImageCatalog.Proofs.Catalog.Delivery
import ImageCatalog.Proofs.Catalog.Provision
import ImageCatalog.Proofs.Contention.Throng
import ImageCatalog.Proofs.Contention.Retries
import ImageCatalog.Proofs.Contention.Passes
import ImageCatalog.Proofs.Contention.Surface
import ImageCatalog.Proofs.Pass.Footprint
import ImageCatalog.Proofs.Rehearsal.Locality
import ImageCatalog.Proofs.Rehearsal.Commuting
import ImageCatalog.Proofs.Rehearsal.AnyOrder
import ImageCatalog.Proofs.Rehearsal.Writes
import ImageCatalog.Proofs.Rehearsal.Steps
import ImageCatalog.Proofs.Catalog.Repair
import ImageCatalog.Proofs.Catalog.Sweep
import ImageCatalog.Proofs.Retention.Window
import ImageCatalog.Proofs.Pass.Arrival
import ImageCatalog.Proofs.Run.Results
import ImageCatalog.Proofs.Consumers.Granted
import ImageCatalog.Proofs.Record.Lifecycle
import ImageCatalog.Proofs.Artifact.Key
import ImageCatalog.Proofs.Text.Composition
import ImageCatalog.Proofs.Url.Domain
import ImageCatalog.Proofs.Url.Host
import ImageCatalog.Proofs.Url.Parts
import ImageCatalog.Proofs.Artifact.Address
import ImageCatalog.Proofs.Artifact.Published
import ImageCatalog.Proofs.Duration
import ImageCatalog.Proofs.Contention.Revision
