import ModelRegistry.AppContext
import ModelRegistry.Bus
import ModelRegistry.Call
import ModelRegistry.Client
import ModelRegistry.CommandLine
import ModelRegistry.Daemon
import ModelRegistry.Decimal.Binary64
import ModelRegistry.Decimal.Shortest
import ModelRegistry.Drain
import ModelRegistry.Files
import ModelRegistry.Frame
import ModelRegistry.Frame.Transport
import ModelRegistry.Handlers
import ModelRegistry.Hook
import ModelRegistry.Installer
import ModelRegistry.IoFault
import ModelRegistry.Json.Basic
import ModelRegistry.Json.Fault
import ModelRegistry.Json.Printer
import ModelRegistry.Json.Progress
import ModelRegistry.Json.Reader
import ModelRegistry.Json.Scalar
import ModelRegistry.Json.Schema
import ModelRegistry.Lifecycle
import ModelRegistry.Limiter
import ModelRegistry.Link
import ModelRegistry.Log.Action
import ModelRegistry.Log.Event
import ModelRegistry.Log.Filter
import ModelRegistry.Log.Format
import ModelRegistry.Log.Line
import ModelRegistry.Main
import ModelRegistry.Manifest.Basic
import ModelRegistry.Manifest.Plan
import ModelRegistry.Manifest.Registration
import ModelRegistry.ModelModule
import ModelRegistry.Operations
import ModelRegistry.Package
import ModelRegistry.Path
import ModelRegistry.Plugin
import ModelRegistry.Program
import ModelRegistry.Proofs.Client.Answers
import ModelRegistry.Proofs.Client.Pairing
import ModelRegistry.Proofs.Client.Responder
import ModelRegistry.Proofs.CommandLine.HookRequests
import ModelRegistry.Proofs.Daemon.Attachment
import ModelRegistry.Proofs.Daemon.Dispatch
import ModelRegistry.Proofs.Daemon.Handlers
import ModelRegistry.Proofs.Daemon.Hooks
import ModelRegistry.Proofs.Daemon.ModelService
import ModelRegistry.Proofs.Daemon.Serving
import ModelRegistry.Proofs.Daemon.StartCount
import ModelRegistry.Proofs.Decimal.Length
import ModelRegistry.Proofs.Drain.Admission
import ModelRegistry.Proofs.Frame.Agreement
import ModelRegistry.Proofs.Frame.Truncation
import ModelRegistry.Proofs.Frame.WriteRead
import ModelRegistry.Proofs.Installer.Compositions
import ModelRegistry.Proofs.Installer.ManifestPath
import ModelRegistry.Proofs.Installer.Orchestration
import ModelRegistry.Proofs.Installer.PackageIds
import ModelRegistry.Proofs.Installer.Tags
import ModelRegistry.Proofs.Json.Bounds
import ModelRegistry.Proofs.Json.Faults
import ModelRegistry.Proofs.Json.Grammar
import ModelRegistry.Proofs.Json.Lexical
import ModelRegistry.Proofs.Json.Lines
import ModelRegistry.Proofs.Json.Members
import ModelRegistry.Proofs.Json.Numbers
import ModelRegistry.Proofs.Json.Readers
import ModelRegistry.Proofs.Json.Schemas
import ModelRegistry.Proofs.Json.Skipping
import ModelRegistry.Proofs.Json.Texts
import ModelRegistry.Proofs.Json.Writing
import ModelRegistry.Proofs.Lifecycle.Course
import ModelRegistry.Proofs.Lifecycle.Journal
import ModelRegistry.Proofs.Lifecycle.Sweeps
import ModelRegistry.Proofs.Link.Exchange
import ModelRegistry.Proofs.Link.ReadBack
import ModelRegistry.Proofs.Link.Refinement
import ModelRegistry.Proofs.Manifest.Accounting
import ModelRegistry.Proofs.Manifest.KeyOrder
import ModelRegistry.Proofs.Manifest.Replay
import ModelRegistry.Proofs.Manifest.Units
import ModelRegistry.Proofs.Path.Components
import ModelRegistry.Proofs.Path.Resolution
import ModelRegistry.Proofs.Server.Connection
import ModelRegistry.Proofs.Server.Replies
import ModelRegistry.Proofs.Server.Shutdown
import ModelRegistry.Proofs.Settings.Blanks
import ModelRegistry.Proofs.Settings.Loading
import ModelRegistry.Proofs.Settings.Numerals
import ModelRegistry.Proofs.Store.Atomicity
import ModelRegistry.Proofs.Store.History
import ModelRegistry.Proofs.Store.Invariant
import ModelRegistry.Proofs.Store.Isolation
import ModelRegistry.Proofs.Store.Numbering
import ModelRegistry.Proofs.Store.OneName
import ModelRegistry.Proofs.Store.Reads
import ModelRegistry.Proofs.Store.RequiredStrings
import ModelRegistry.Proofs.Store.Step
import ModelRegistry.Proofs.Text.Trimming
import ModelRegistry.Proofs.Text.Utf8
import ModelRegistry.Proofs.Wire.Frames
import ModelRegistry.Proofs.Wire.Meanings
import ModelRegistry.Proofs.Wire.Nesting
import ModelRegistry.Proofs.Wire.Records
import ModelRegistry.Proofs.Wire.Requests
import ModelRegistry.Proofs.Wire.RoundTrip
import ModelRegistry.Proofs.Wire.Size
import ModelRegistry.Record
import ModelRegistry.Recorder
import ModelRegistry.Server
import ModelRegistry.Service
import ModelRegistry.Settings
import ModelRegistry.Status
import ModelRegistry.Store
import ModelRegistry.Table
import ModelRegistry.Text.Blank
import ModelRegistry.Text.Bytes
import ModelRegistry.Text.Cut
import ModelRegistry.Text.Hidden
import ModelRegistry.Text.Letter
import ModelRegistry.Text.Lossy
import ModelRegistry.Text.Pattern
import ModelRegistry.Text.Quoted
import ModelRegistry.Text.Ranges
import ModelRegistry.Toml.Basic
import ModelRegistry.Toml.Moment
import ModelRegistry.Toml.Numeral
import ModelRegistry.Toml.Quoted
import ModelRegistry.Toml.Reader
import ModelRegistry.Toml.Scalar
import ModelRegistry.Wire
