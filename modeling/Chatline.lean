import Chatline.Arguments
import Chatline.Binary64
import Chatline.Binary64.Shortest
import Chatline.Bindings
import Chatline.Bus
import Chatline.Calendar
import Chatline.Chat
import Chatline.Color
import Chatline.CommandLine
import Chatline.Console
import Chatline.Datum
import Chatline.Directory
import Chatline.Dispatch
import Chatline.Environment
import Chatline.Failure
import Chatline.FileTree
import Chatline.Handle
import Chatline.Host
import Chatline.Identity
import Chatline.Inquiry
import Chatline.Line
import Chatline.Logging
import Chatline.Main
import Chatline.Md5
import Chatline.Numeral
import Chatline.Path
import Chatline.Payload
import Chatline.Placeholder
import Chatline.Program
import Chatline.Proofs.Binding.Following
import Chatline.Proofs.Binding.Noticed
import Chatline.Proofs.Binding.Notices
import Chatline.Proofs.Binding.Reported
import Chatline.Proofs.Binding.Sync
import Chatline.Proofs.Binding.Tended
import Chatline.Proofs.Binding.Unmoved
import Chatline.Proofs.Bus
import Chatline.Proofs.Color
import Chatline.Proofs.Color.InPlace
import Chatline.Proofs.Color.Markup
import Chatline.Proofs.Color.Normal
import Chatline.Proofs.Color.Stripped
import Chatline.Proofs.Console.Dialogue
import Chatline.Proofs.Console.Plain
import Chatline.Proofs.Console.Seating
import Chatline.Proofs.Console.Steady
import Chatline.Proofs.Datum
import Chatline.Proofs.Directory.Active
import Chatline.Proofs.Directory.Calls
import Chatline.Proofs.Directory.Journal
import Chatline.Proofs.Dispatch.Annals
import Chatline.Proofs.Dispatch.Aside
import Chatline.Proofs.Dispatch.Changes
import Chatline.Proofs.Dispatch.Chronicle
import Chatline.Proofs.Dispatch.Course
import Chatline.Proofs.Dispatch.Delivery
import Chatline.Proofs.Dispatch.Later
import Chatline.Proofs.Dispatch.Ledger
import Chatline.Proofs.Dispatch.Numbering
import Chatline.Proofs.Dispatch.Recent
import Chatline.Proofs.Dispatch.Registry
import Chatline.Proofs.Dispatch.Standing
import Chatline.Proofs.Dispatch.Trail
import Chatline.Proofs.Dispatch.Turn
import Chatline.Proofs.Dispatch.Unchanged
import Chatline.Proofs.Files.Folders
import Chatline.Proofs.Files.Places
import Chatline.Proofs.Format.Compiled
import Chatline.Proofs.Format.Encoded
import Chatline.Proofs.Format.Filled
import Chatline.Proofs.Format.Inserted
import Chatline.Proofs.Format.Lookups
import Chatline.Proofs.Format.Pieces
import Chatline.Proofs.Format.Recompiled
import Chatline.Proofs.Format.Replaced
import Chatline.Proofs.Format.Resolved
import Chatline.Proofs.Format.Settled
import Chatline.Proofs.Format.Shown
import Chatline.Proofs.Host
import Chatline.Proofs.Lifecycle.Account
import Chatline.Proofs.Lifecycle.Apart
import Chatline.Proofs.Lifecycle.Career
import Chatline.Proofs.Lifecycle.Disabled
import Chatline.Proofs.Lifecycle.Formats
import Chatline.Proofs.Lifecycle.Once
import Chatline.Proofs.Lifecycle.Reloading
import Chatline.Proofs.Lifecycle.Resting
import Chatline.Proofs.Lifecycle.Undisturbed
import Chatline.Proofs.Passing.Akin
import Chatline.Proofs.Passing.Alike
import Chatline.Proofs.Passing.Alone
import Chatline.Proofs.Passing.Delivered
import Chatline.Proofs.Passing.Discreet
import Chatline.Proofs.Passing.Enrolment
import Chatline.Proofs.Passing.Kindred
import Chatline.Proofs.Passing.Lineup
import Chatline.Proofs.Passing.Named
import Chatline.Proofs.Passing.Ongoing
import Chatline.Proofs.Passing.Passage
import Chatline.Proofs.Passing.Pipeline
import Chatline.Proofs.Passing.Readiness
import Chatline.Proofs.Passing.Session
import Chatline.Proofs.Passing.Thwarted
import Chatline.Proofs.Passing.Twins
import Chatline.Proofs.Passing.Verbatim
import Chatline.Proofs.Settings.Defaults
import Chatline.Proofs.Settings.Listed
import Chatline.Proofs.Settings.Loading
import Chatline.Proofs.Settings.Precedence
import Chatline.Proofs.Text.Cut
import Chatline.Proofs.Text.Lower
import Chatline.Proofs.Text.Replace
import Chatline.Proofs.Text.Utf8
import Chatline.Proofs.Yaml.Proper
import Chatline.Provider
import Chatline.Record
import Chatline.Rehearsal.Play
import Chatline.Rehearsal.Script
import Chatline.Resolution
import Chatline.SetOrder
import Chatline.Settings
import Chatline.Table
import Chatline.Template
import Chatline.Text.Base64
import Chatline.Text.Blank
import Chatline.Text.CaseRun
import Chatline.Text.CodePoint
import Chatline.Text.Digit
import Chatline.Text.Find
import Chatline.Text.Hex
import Chatline.Text.LineBreak
import Chatline.Text.Lower
import Chatline.Text.Printable
import Chatline.Text.Quoted
import Chatline.Text.Reading
import Chatline.Text.Upper
import Chatline.Text.Utf8
import Chatline.Yaml.Builder
import Chatline.Yaml.Cursor
import Chatline.Yaml.Document
import Chatline.Yaml.Fault
import Chatline.Yaml.Graph
import Chatline.Yaml.Meaning
import Chatline.Yaml.Node
import Chatline.Yaml.Plain
import Chatline.Yaml.Scalar
import Chatline.Yaml.Token
