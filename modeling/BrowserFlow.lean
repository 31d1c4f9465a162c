import BrowserFlow.Number.Shortest
import BrowserFlow.Text.Blank
import BrowserFlow.Text.Case
import BrowserFlow.Text.Digit
import BrowserFlow.Text.Lines
import BrowserFlow.Text.Quoted
import BrowserFlow.Text.Utf8
import BrowserFlow.Text.Word
import BrowserFlow.Json.Literal
import BrowserFlow.Json.Printer
import BrowserFlow.Json.Reader
import BrowserFlow.Flow.Order
import BrowserFlow.Script.Assembly
import BrowserFlow.Document.Export
import BrowserFlow.Document.File
import BrowserFlow.Script.Compile
import BrowserFlow.Editor.Session
import BrowserFlow.Editor.Values
import BrowserFlow.Store.ScriptStore
import BrowserFlow.Service.Settings
import BrowserFlow.Service.Broadcast
import BrowserFlow.Service.Registry
import BrowserFlow.Command.Usage
import BrowserFlow.Command.Compile
import BrowserFlow.Main
import BrowserFlow.Text.Percent
import BrowserFlow.Service.Body
import BrowserFlow.Service.Reply
import BrowserFlow.Service.Runner
import BrowserFlow.Service.Operation
import BrowserFlow.Service.Answer
import BrowserFlow.Proofs.Flow.Params
import BrowserFlow.Proofs.Flow.Sound
import BrowserFlow.Proofs.Document.Reading
import BrowserFlow.Proofs.Document.RoundTrip
import BrowserFlow.Proofs.Flow.Walk
import BrowserFlow.Proofs.Flow.Reach
import BrowserFlow.Proofs.Script.Renaming
import BrowserFlow.Proofs.Document.Grammar
import BrowserFlow.Proofs.FirstFree
import BrowserFlow.Proofs.Json.Printed
import BrowserFlow.Proofs.Store.Folder
import BrowserFlow.Proofs.Store.Slug
import BrowserFlow.Proofs.Store.Writing
import BrowserFlow.Proofs.Action
import BrowserFlow.Proofs.Editor.Fresh
import BrowserFlow.Proofs.Editor.Effect
import BrowserFlow.Proofs.Editor.Call
import BrowserFlow.Proofs.Editor.Consistent
import BrowserFlow.Proofs.Editor.Reload
import BrowserFlow.Proofs.Store.Catalogue
import BrowserFlow.Proofs.Store.Saves
import BrowserFlow.Proofs.Json.Escaped
import BrowserFlow.Proofs.Json.Numeral
import BrowserFlow.Proofs.Json.ReadBack
import BrowserFlow.Proofs.Document.Stored
import BrowserFlow.Proofs.Document.Spelling
import BrowserFlow.Proofs.Document.Complete
import BrowserFlow.Proofs.Script.Sources
import BrowserFlow.Proofs.Editor.Atomic
import BrowserFlow.Proofs.Text.Lines
import BrowserFlow.Proofs.Script.Sections
import BrowserFlow.Proofs.Script.Halves
import BrowserFlow.Proofs.Editor.Mirror
import BrowserFlow.Proofs.Document.Joined
import BrowserFlow.Proofs.Store.Path
import BrowserFlow.Proofs.Store.Place
import BrowserFlow.Proofs.Store.Stock
import BrowserFlow.Proofs.Store.Reopen
import BrowserFlow.Proofs.Store.Failed
import BrowserFlow.Proofs.Store.Spared
import BrowserFlow.Proofs.Service.Refused
import BrowserFlow.Proofs.Service.Relayed
import BrowserFlow.Proofs.Script.OwnStatements
import BrowserFlow.Proofs.Editor.Generated
import BrowserFlow.Proofs.Editor.Undone
import BrowserFlow.Proofs.Flow.Leaf
import BrowserFlow.Proofs.Editor.Hanging
import BrowserFlow.Proofs.Flow.EdgeId
import BrowserFlow.Proofs.Editor.Edges
import BrowserFlow.Proofs.Document.Unnamed
import BrowserFlow.Proofs.Flow.Entered
import BrowserFlow.Proofs.Editor.Updated
import BrowserFlow.Proofs.Service.Changed
import BrowserFlow.Proofs.Service.Overlapped
import BrowserFlow.Proofs.Store.Stem
import BrowserFlow.Proofs.Command.Outcome
import BrowserFlow.Proofs.Service.Download
import BrowserFlow.Proofs.Editor.Composed
import BrowserFlow.Proofs.Flow.Rounds
import BrowserFlow.Proofs.Store.Claimed
