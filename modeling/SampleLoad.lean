import SampleLoad.Command.Arguments
import SampleLoad.Command.ConnectionFile
import SampleLoad.Command.Options
import SampleLoad.Command.Run
import SampleLoad.Command.Settings
import SampleLoad.Generate.Draw
import SampleLoad.Generate.Keystream
import SampleLoad.Generate.RandomSource
import SampleLoad.Generate.RowGenerator
import SampleLoad.Json.Basic
import SampleLoad.Json.Printer
import SampleLoad.Json.Reader
import SampleLoad.Load.Buffer
import SampleLoad.Load.Error
import SampleLoad.Load.Pipeline
import SampleLoad.Load.Provision
import SampleLoad.Load.Request
import SampleLoad.Main
import SampleLoad.Number.Binary
import SampleLoad.Number.Integer
import SampleLoad.Number.Reader
import SampleLoad.Number.Shortest
import SampleLoad.Proofs.Generate.Items
import SampleLoad.Proofs.Load.Compose
import SampleLoad.Proofs.Load.Injection
import SampleLoad.Proofs.Load.MemoryRun
import SampleLoad.Proofs.Load.Plan
import SampleLoad.Proofs.Load.Script
import SampleLoad.Proofs.Load.Stored
import SampleLoad.Proofs.Load.Transcript
import SampleLoad.Proofs.Rows.NameMap
import SampleLoad.Proofs.Store.Memory
import SampleLoad.Rows.Batch
import SampleLoad.Rows.NameMap
import SampleLoad.Rows.Value
import SampleLoad.Schema.Basic
import SampleLoad.Schema.ColumnType
import SampleLoad.Schema.Json
import SampleLoad.Schema.Parameter
import SampleLoad.Schema.Strategy
import SampleLoad.Schema.Validity
import SampleLoad.Store.Basic
import SampleLoad.Store.Memory
import SampleLoad.Template.Document
import SampleLoad.Template.Entry
import SampleLoad.Template.Listing
import SampleLoad.Template.Registry
import SampleLoad.Text.Blank
import SampleLoad.Text.FileReader
import SampleLoad.Text.FileTree
import SampleLoad.Text.LetterCase
import SampleLoad.Text.Printable
import SampleLoad.Text.Quoted
import SampleLoad.Text.Utf8
import SampleLoad.Time.Calendar
import SampleLoad.Time.Duration
import SampleLoad.Time.Instant
import SampleLoad.Time.Stamp
import SampleLoad.Url.Address
import SampleLoad.Url.Basic
import SampleLoad.Url.DomainName
import SampleLoad.Url.Host
import SampleLoad.Url.Path
import SampleLoad.Url.Percent
import SampleLoad.Url.Punycode
import SampleLoad.Web.Base64
import SampleLoad.Web.Body
import SampleLoad.Web.Client
import SampleLoad.Web.Config
import SampleLoad.Web.ScriptedServer
import SampleLoad.Web.Status
import SampleLoad.Yaml.Composition
import SampleLoad.Yaml.Cursor
import SampleLoad.Yaml.Field
import SampleLoad.Yaml.Layout
import SampleLoad.Yaml.Node
import SampleLoad.Yaml.Resolution
import SampleLoad.Yaml.Scalar.Block
import SampleLoad.Yaml.Scalar.Gap
import SampleLoad.Yaml.Scalar.Plain
import SampleLoad.Yaml.Scalar.Quoted
import SampleLoad.Yaml.Tag
import SampleLoad.Yaml.Token
import SampleLoad.Yaml.Untyped
import SampleLoad.Proofs.Generate.Draw
import SampleLoad.Proofs.Generate.Times
import SampleLoad.Proofs.Generate.ExactTimes
import SampleLoad.Proofs.Generate.Rows
import SampleLoad.Proofs.Load.FirstFailure
import SampleLoad.Proofs.Load.Generation
import SampleLoad.Proofs.Schema.WellFormed
import SampleLoad.Proofs.Store.History
import SampleLoad.Proofs.Web.Endpoint
import SampleLoad.Proofs.Load.DryRun
import SampleLoad.Proofs.Load.ClientRun
import SampleLoad.Proofs.Load.WrittenTimes
import SampleLoad.Proofs.Web.EndpointNames
import SampleLoad.Proofs.Template.Loaded
import SampleLoad.Proofs.Load.Seeded
import SampleLoad.Proofs.Command.Contact
import SampleLoad.Proofs.Schema.Notation
import SampleLoad.Proofs.Web.CellReading
import SampleLoad.Proofs.Web.ConfigDisplay
import SampleLoad.Proofs.Command.SampleRuns
import SampleLoad.Proofs.Load.Provisioning
import SampleLoad.Proofs.Generate.Outcomes
import SampleLoad.Proofs.Web.Definition
import SampleLoad.Proofs.Web.Authorization
import SampleLoad.Proofs.Load.StepOption
import SampleLoad.Proofs.Load.Configured
import SampleLoad.Proofs.Store.BareEntries
import SampleLoad.Proofs.Time.DurationText
import SampleLoad.Proofs.Rows.Insertions
import SampleLoad.Proofs.Generate.Sequence
import SampleLoad.Proofs.Store.CallLog
import SampleLoad.Proofs.Command.Precedence
import SampleLoad.Proofs.Load.BufferOrder
