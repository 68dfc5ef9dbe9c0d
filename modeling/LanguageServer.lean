import LanguageServer.Call.Context
import LanguageServer.Call.Definition
import LanguageServer.Clock.Agenda
import LanguageServer.Clock.Simulation
import LanguageServer.CommandLine
import LanguageServer.Compiler
import LanguageServer.Completion
import LanguageServer.Connection
import LanguageServer.Debounce.Register
import LanguageServer.Debounce.Timeline
import LanguageServer.Decimal.Shortest
import LanguageServer.Definition
import LanguageServer.Diagnostic
import LanguageServer.Document
import LanguageServer.Files.Tree
import LanguageServer.Json.Document
import LanguageServer.Json.Fault
import LanguageServer.Json.Printer
import LanguageServer.Json.Reader
import LanguageServer.Json.Record
import LanguageServer.Json.Skip
import LanguageServer.Json.Value
import LanguageServer.Launcher
import LanguageServer.Locator
import LanguageServer.Main
import LanguageServer.Path
import LanguageServer.Protocol.Encode
import LanguageServer.Protocol.Frame
import LanguageServer.Protocol.Method
import LanguageServer.Protocol.Params
import LanguageServer.Protocol.Shape
import LanguageServer.Scenario.Event
import LanguageServer.Scenario.Script
import LanguageServer.Scenario.Server
import LanguageServer.Scenario.Session
import LanguageServer.Scenario.World
import LanguageServer.Scratch
import LanguageServer.Server.Basic
import LanguageServer.Server.Endpoint
import LanguageServer.Server.Relay
import LanguageServer.Server.Step
import LanguageServer.Server.Wire
import LanguageServer.Session.Basic
import LanguageServer.Session.Inquiry
import LanguageServer.Session.Step
import LanguageServer.Session.Validation
import LanguageServer.Settings
import LanguageServer.Shell.Arithmetic
import LanguageServer.Shell.Builtin
import LanguageServer.Shell.Eval
import LanguageServer.Shell.Field
import LanguageServer.Shell.Format
import LanguageServer.Shell.KillSignal
import LanguageServer.Shell.Lexer
import LanguageServer.Shell.Parser
import LanguageServer.Shell.Pattern
import LanguageServer.Shell.Program
import LanguageServer.Shell.State
import LanguageServer.Shell.Syntax
import LanguageServer.Shell.Test
import LanguageServer.Shell.Utility
import LanguageServer.Signature
import LanguageServer.Symbol.Answer
import LanguageServer.Symbol.Basic
import LanguageServer.Symbol.Presentation
import LanguageServer.Table
import LanguageServer.Text.Alphabetic
import LanguageServer.Text.Blank
import LanguageServer.Text.Duration
import LanguageServer.Text.Lines
import LanguageServer.Text.Number
import LanguageServer.Text.Quoted
import LanguageServer.Text.Ranges
import LanguageServer.Text.Split
import LanguageServer.Text.Utf8
import LanguageServer.Text.Word
import LanguageServer.Uri.Basic
import LanguageServer.Uri.Parser
import LanguageServer.Uri.Percent
import LanguageServer.Proofs.Session.Run
import LanguageServer.Proofs.Session.Books
import LanguageServer.Proofs.Session.Progress
import LanguageServer.Proofs.Session.Lifetime
import LanguageServer.Proofs.Session.Publication
import LanguageServer.Proofs.Session.Upshot
import LanguageServer.Proofs.Session.Staleness
import LanguageServer.Proofs.Session.Settling
import LanguageServer.Proofs.Clock.Course
import LanguageServer.Proofs.Debounce.Booking
import LanguageServer.Proofs.Debounce.Outlook
import LanguageServer.Proofs.Debounce.Exactness
import LanguageServer.Proofs.Session.Deed
import LanguageServer.Proofs.Session.Provenance
import LanguageServer.Proofs.Session.Cache
import LanguageServer.Proofs.Session.Revalidation
import LanguageServer.Proofs.Session.Configuration
import LanguageServer.Proofs.Session.Scoped
import LanguageServer.Proofs.Session.Custody
import LanguageServer.Proofs.Session.Supply
import LanguageServer.Proofs.Session.Notice
import LanguageServer.Proofs.Text.Trim
import LanguageServer.Proofs.Diagnostic.Grammar
import LanguageServer.Proofs.Json.Spelling
import LanguageServer.Proofs.Json.Reading
import LanguageServer.Proofs.Json.Grammar
import LanguageServer.Proofs.Json.Soundness
import LanguageServer.Proofs.Json.Skipping
import LanguageServer.Proofs.Json.Description
import LanguageServer.Proofs.Json.Contents
import LanguageServer.Proofs.Json.Completeness
import LanguageServer.Proofs.Symbol.RoundTrip
import LanguageServer.Proofs.Symbol.Acceptance
import LanguageServer.Proofs.Clock.Record
import LanguageServer.Proofs.Scenario.Trial
import LanguageServer.Proofs.Scenario.Sequel
import LanguageServer.Proofs.Scenario.Sound
import LanguageServer.Proofs.Scenario.Portrait
import LanguageServer.Proofs.Scenario.Projection
import LanguageServer.Proofs.Scenario.Reception
import LanguageServer.Proofs.Scenario.Passage
import LanguageServer.Proofs.Scenario.Isolation
import LanguageServer.Proofs.Scenario.Watch
import LanguageServer.Proofs.Scenario.Rest
import LanguageServer.Proofs.Call.Arguments
import LanguageServer.Proofs.Call.Context
import LanguageServer.Proofs.Call.Definition
import LanguageServer.Proofs.Session.Question
import LanguageServer.Proofs.Json.Understanding
import LanguageServer.Proofs.Json.Leniency
import LanguageServer.Proofs.Symbol.Extension
import LanguageServer.Proofs.Text.Lines
import LanguageServer.Proofs.Text.Word
import LanguageServer.Proofs.Diagnostic.Report
import LanguageServer.Proofs.Call.Literal
import LanguageServer.Proofs.Call.Site
import LanguageServer.Proofs.Session.Stretch
import LanguageServer.Proofs.Session.Outcome
import LanguageServer.Proofs.Session.Consultation
import LanguageServer.Proofs.Symbol.Positions
import LanguageServer.Proofs.Uri.File
import LanguageServer.Proofs.Session.Guidance
import LanguageServer.Proofs.Session.Expectation
import LanguageServer.Proofs.Session.Frugality
import LanguageServer.Proofs.Scenario.Awaiting
import LanguageServer.Proofs.Scenario.Confluence
import LanguageServer.Proofs.Json.Natural
import LanguageServer.Proofs.Settings.Form
import LanguageServer.Proofs.Document.Slice
import LanguageServer.Proofs.Symbol.Hover
