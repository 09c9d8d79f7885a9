import Turnstile.Chat.Event
import Turnstile.Chat.Message
import Turnstile.Chat.Request
import Turnstile.CommandLine.Chat
import Turnstile.CommandLine.Exchange
import Turnstile.CommandLine.Options
import Turnstile.CommandLine.Order
import Turnstile.CommandLine.Run
import Turnstile.CommandLine.Trouble
import Turnstile.Config.Basic
import Turnstile.Config.Load
import Turnstile.Config.Record
import Turnstile.Config.Setting
import Turnstile.Config.Show
import Turnstile.Config.Variables
import Turnstile.Files.Failure
import Turnstile.Files.Path
import Turnstile.Files.Program
import Turnstile.Files.Tree
import Turnstile.Guard
import Turnstile.Json.Doc
import Turnstile.Json.Printer
import Turnstile.Json.Reader
import Turnstile.Json.Value
import Turnstile.Keyed
import Turnstile.Machine.Feed
import Turnstile.Machine.Format
import Turnstile.Machine.Kernel
import Turnstile.Machine.Script
import Turnstile.Machine.Shell.Builtin
import Turnstile.Machine.Shell.Call
import Turnstile.Machine.Shell.Pattern
import Turnstile.Machine.Shell.Run
import Turnstile.Machine.Shell.State
import Turnstile.Machine.Shell.Word
import Turnstile.Machine.Stock
import Turnstile.Machine.Sum
import Turnstile.Machine.Utility
import Turnstile.Main
import Turnstile.Number.Binary
import Turnstile.Number.Literal
import Turnstile.Number.Shortest
import Turnstile.Policy
import Turnstile.Proofs.Container.Confinement
import Turnstile.Proofs.Container.Words
import Turnstile.Proofs.Files.Names
import Turnstile.Proofs.Files.Walk
import Turnstile.Proofs.Guard.Settled
import Turnstile.Proofs.Guard.Soundness
import Turnstile.Proofs.Keyed
import Turnstile.Proofs.Outcomes
import Turnstile.Proofs.Service
import Turnstile.Proofs.Stream.Answers
import Turnstile.Proofs.Stream.Chunks
import Turnstile.Proofs.Stream.Ending
import Turnstile.Proofs.Stream.Script
import Turnstile.Proofs.Tool.Assembly
import Turnstile.Proofs.Tool.Notes
import Turnstile.Proofs.Tool.Registrations
import Turnstile.Proofs.Web.Hops
import Turnstile.Proofs.Web.Redirects
import Turnstile.Sandbox.Basic
import Turnstile.Sandbox.Build
import Turnstile.Sandbox.Capture
import Turnstile.Sandbox.Command
import Turnstile.Sandbox.Container
import Turnstile.Sandbox.Kind
import Turnstile.Sandbox.Run
import Turnstile.Store.Credentials
import Turnstile.Store.Memory
import Turnstile.Stream.Channel
import Turnstile.Stream.Lines
import Turnstile.Stream.Pump
import Turnstile.Text.Blank
import Turnstile.Text.Cap
import Turnstile.Text.Case
import Turnstile.Text.CaseTable
import Turnstile.Text.Lines
import Turnstile.Text.Quoted
import Turnstile.Text.Utf8
import Turnstile.Toml.Printer
import Turnstile.Toml.Reader
import Turnstile.Tool.Assembly
import Turnstile.Tool.Basic
import Turnstile.Tool.Builtin
import Turnstile.Tool.Dispatch
import Turnstile.Tool.Execution
import Turnstile.Tool.Files
import Turnstile.Tool.Http
import Turnstile.Tool.Notify
import Turnstile.Tool.Registry
import Turnstile.Tool.Remote
import Turnstile.Tool.Shell
import Turnstile.Tool.Stores
import Turnstile.Vendor.Anthropic.Incoming
import Turnstile.Vendor.Anthropic.Normalizer
import Turnstile.Vendor.Anthropic.Outgoing
import Turnstile.Vendor.Chat
import Turnstile.Vendor.Gemini.Incoming
import Turnstile.Vendor.Gemini.Normalizer
import Turnstile.Vendor.Gemini.Outgoing
import Turnstile.Vendor.OpenAI.Incoming
import Turnstile.Vendor.OpenAI.Normalizer
import Turnstile.Vendor.OpenAI.Outgoing
import Turnstile.Vendor.Settings
import Turnstile.Web.Host
import Turnstile.Web.Http
import Turnstile.Web.Network
import Turnstile.Web.Punycode
import Turnstile.Web.Url
import Turnstile.World
import Turnstile.Proofs.Vendor.Anthropic.Ledger
import Turnstile.Proofs.Vendor.Anthropic.Announced
import Turnstile.Proofs.Stream.Tokens
import Turnstile.Proofs.Tool.Arguments
import Turnstile.Proofs.Vendor.Anthropic.Agreement
import Turnstile.Proofs.Vendor.OpenAI.Payloads
import Turnstile.Proofs.Vendor.OpenAI.Agreement
import Turnstile.Proofs.Text.Utf8
import Turnstile.Proofs.Vendor.Gemini.Responses
import Turnstile.Proofs.Vendor.Gemini.Numbering
import Turnstile.Proofs.Vendor.Gemini.Agreement
import Turnstile.Proofs.Stream.Looks
import Turnstile.Proofs.Stream.Calls
import Turnstile.Proofs.Stream.Interruption
import Turnstile.Proofs.Tool.Gate
import Turnstile.Proofs.Act
import Turnstile.Proofs.Tool.Refusal
import Turnstile.Proofs.Json.Fields
import Turnstile.Proofs.Vendor.Telling
import Turnstile.Proofs.Vendor.Anthropic.Body
import Turnstile.Proofs.Vendor.OpenAI.Body
import Turnstile.Proofs.Vendor.Gemini.Body
import Turnstile.Proofs.Vendor.Bodies
import Turnstile.Proofs.Vendor.Gemini.Rounds
import Turnstile.Proofs.Stream.Collecting
import Turnstile.Proofs.Stream.Session
import Turnstile.Proofs.Stream.Schedule
import Turnstile.Proofs.Files.Route
import Turnstile.Proofs.Guard.Agreement
import Turnstile.Proofs.Guard.Visits
import Turnstile.Proofs.Guard.Expansion
import Turnstile.Proofs.Tool.History
import Turnstile.Proofs.Vendor.OpenAI.Segments
import Turnstile.Proofs.Text.Width
import Turnstile.Proofs.Text.Cap
import Turnstile.Proofs.Text.Boundary
import Turnstile.Proofs.Draining
import Turnstile.Proofs.Output
import Turnstile.Proofs.Capture
import Turnstile.Proofs.Web.Rendering
import Turnstile.Proofs.CommandLine.Turn
import Turnstile.Proofs.Files.Creation
import Turnstile.Proofs.Tool.Writing
import Turnstile.Proofs.Files.Pieces
import Turnstile.Proofs.Files.Spelling
import Turnstile.Proofs.Tool.Spelling
import Turnstile.Proofs.AllowList
import Turnstile.Proofs.Container.Profile
import Turnstile.Proofs.Tool.Servers
import Turnstile.Proofs.Vendor.Silence
import Turnstile.Proofs.Vendor.Endings
import Turnstile.Proofs.Vendor.Noise
import Turnstile.Proofs.Vendor.Reports
import Turnstile.Proofs.Text.Lines
import Turnstile.Proofs.Json.Scalars
import Turnstile.Proofs.Json.Shape
import Turnstile.Proofs.Json.Text
import Turnstile.Proofs.Json.Record
import Turnstile.Proofs.Chat.Requests
import Turnstile.Proofs.Vendor.OpenAI.Wire
import Turnstile.Proofs.Vendor.OpenAI.Fragments
import Turnstile.Proofs.Tool.Paging
