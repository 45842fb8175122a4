import PromptDispatch.Binary64.Basic
import PromptDispatch.Binary64.Shortest
import PromptDispatch.Unicode.Word
import PromptDispatch.Unicode.Blank
import PromptDispatch.Unicode.Number
import PromptDispatch.Unicode.Hidden
import PromptDispatch.Unicode.Identifier
import PromptDispatch.Unicode.Case
import PromptDispatch.Keyed
import PromptDispatch.Json.Basic
import PromptDispatch.Json.Merge
import PromptDispatch.Json.Printer
import PromptDispatch.Json.Reader
import PromptDispatch.Prompt.Markup
import PromptDispatch.Prompt.Sanitize
import PromptDispatch.Text.Quoted
import PromptDispatch.Text.Integer
import PromptDispatch.Unicode.Name
import PromptDispatch.Pattern.Basic
import PromptDispatch.Pattern.Fault
import PromptDispatch.Pattern.Parser
import PromptDispatch.Pattern.Letter
import PromptDispatch.Pattern.Matcher
import PromptDispatch.Pattern.Leading
import PromptDispatch.Pattern.Search
import PromptDispatch.Text.Utf8
import PromptDispatch.Disk.Path
import PromptDispatch.Disk.Basic
import PromptDispatch.Route.Basic
import PromptDispatch.Route.Builtin
import PromptDispatch.Route.File
import PromptDispatch.Field.Issue
import PromptDispatch.Json.Literal
import PromptDispatch.Field.Report
import PromptDispatch.Text.Real
import PromptDispatch.Field.Convert
import PromptDispatch.Field.Form
import PromptDispatch.Agent.Outcome
import PromptDispatch.Fault
import PromptDispatch.Journal
import PromptDispatch.Throttle
import PromptDispatch.Store.Basic
import PromptDispatch.Store.Notes
import PromptDispatch.Store.Snapshot
import PromptDispatch.Disk.Database
import PromptDispatch.Store.Archive
import PromptDispatch.Process.Basic
import PromptDispatch.Process.Batch
import PromptDispatch.Agent.Basic
import PromptDispatch.Agent.Template
import PromptDispatch.Agent.Script
import PromptDispatch.Roster
import PromptDispatch.Session.Basic
import PromptDispatch.Session.Execution
import PromptDispatch.Session.Subtask
import PromptDispatch.Dispatch.Chain
import PromptDispatch.Dispatch.Basic
import PromptDispatch.Session.Setup
import PromptDispatch.Configuration.EnvFile
import PromptDispatch.Configuration.Basic
import PromptDispatch.Configuration.Wiring
import PromptDispatch.Gateway.Form
import PromptDispatch.Json.Standard
import PromptDispatch.Json.Wire
import PromptDispatch.Gateway.Message
import PromptDispatch.Gateway.Body
import PromptDispatch.Gateway.Basic
import PromptDispatch.Text.Similarity
import PromptDispatch.CommandLine.Form
import PromptDispatch.CommandLine.Page
import PromptDispatch.CommandLine.Basic
import PromptDispatch.CommandLine.Send
import PromptDispatch.CommandLine.Run
import PromptDispatch.Main
import PromptDispatch.Proofs.Keyed
import PromptDispatch.Proofs.Json.Digits
import PromptDispatch.Proofs.Json.Plain
import PromptDispatch.Proofs.Json.Merging
import PromptDispatch.Proofs.Store.Run
import PromptDispatch.Proofs.Dispatch.Steady
import PromptDispatch.Proofs.Store.Eviction
import PromptDispatch.Proofs.Dispatch.Routing
import PromptDispatch.Proofs.Dispatch.Scheduling
import PromptDispatch.Proofs.Dispatch.CycleGuard
import PromptDispatch.Proofs.Binary64.Decimal
import PromptDispatch.Proofs.Json.Numeral
import PromptDispatch.Proofs.Json.PrintedNumber
import PromptDispatch.Proofs.Json.PrintedString
import PromptDispatch.Proofs.Json.Spelling
import PromptDispatch.Proofs.Json.RoundTrip
import PromptDispatch.Proofs.Disk.Writing
import PromptDispatch.Proofs.Store.FileArchive
import PromptDispatch.Proofs.Process.Trace
import PromptDispatch.Proofs.Session.Subtasks
import PromptDispatch.Proofs.Disk.Folders
import PromptDispatch.Proofs.Disk.Opening
import PromptDispatch.Proofs.Store.Gathering
import PromptDispatch.Proofs.Store.DatabaseArchive
import PromptDispatch.Proofs.Json.Obstacle
import PromptDispatch.Proofs.Store.Snapshot
import PromptDispatch.Proofs.Store.Saving
import PromptDispatch.Proofs.Json.Grammar
import PromptDispatch.Proofs.Json.Recognition
import PromptDispatch.Proofs.Text.Utf8
import PromptDispatch.Proofs.Store.Loading
import PromptDispatch.Proofs.Process.Conduct
import PromptDispatch.Proofs.Session.Rules
import PromptDispatch.Proofs.Dispatch.Report
import PromptDispatch.Proofs.Dispatch.Progress
import PromptDispatch.Proofs.Dispatch.Pairing
import PromptDispatch.Proofs.Dispatch.Admission
import PromptDispatch.Proofs.Dispatch.Agreement
import PromptDispatch.Proofs.Process.Loop
import PromptDispatch.Proofs.Process.CallOff
import PromptDispatch.Proofs.Process.Rounds
import PromptDispatch.Proofs.Process.Outcome
import PromptDispatch.Proofs.Dispatch.Cancellation
import PromptDispatch.Proofs.Store.Bounds
import PromptDispatch.Proofs.Dispatch.Bounds
import PromptDispatch.Proofs.Store.Identities
import PromptDispatch.Proofs.Store.Backends
import PromptDispatch.Proofs.Store.Reload
import PromptDispatch.Proofs.Dispatch.Remembering
import PromptDispatch.Proofs.Process.Likeness
import PromptDispatch.Proofs.Process.Watch
import PromptDispatch.Proofs.Process.Treaty
import PromptDispatch.Proofs.Session.FollowUps
import PromptDispatch.Proofs.Gateway.Lifecycle
import PromptDispatch.Proofs.Binary64.Range
import PromptDispatch.Proofs.Binary64.Difference
import PromptDispatch.Proofs.Binary64.Value
import PromptDispatch.Proofs.Configuration.Wiring
import PromptDispatch.Proofs.Unicode.Characters
import PromptDispatch.Proofs.Prompt.Markup
import PromptDispatch.Proofs.Prompt.NormalForm
import PromptDispatch.Proofs.Prompt.QuietContent
import PromptDispatch.Proofs.Dispatch.Oblivion
import PromptDispatch.Proofs.Gateway.Answers
import PromptDispatch.Proofs.Gateway.Contract
import PromptDispatch.Proofs.Gateway.Throttling
import PromptDispatch.Proofs.Pattern.Coverage
import PromptDispatch.Proofs.Pattern.WholeWords
import PromptDispatch.Proofs.Unicode.LetterCase
import PromptDispatch.Proofs.Route.Vocabulary
import PromptDispatch.Proofs.Json.Remerging
import PromptDispatch.Proofs.Json.Sameness
import PromptDispatch.Proofs.Json.Union
import PromptDispatch.Proofs.Store.Remerging
import PromptDispatch.Proofs.Prompt.SinglePass
import PromptDispatch.Proofs.Route.File
import PromptDispatch.Proofs.Session.Registration
import PromptDispatch.Proofs.Session.Conclusions
