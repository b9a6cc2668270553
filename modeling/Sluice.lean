import Sluice.Child
import Sluice.Clock
import Sluice.Decimal.Binary
import Sluice.Decimal.Digits
import Sluice.Decimal.Integer
import Sluice.Decimal.Layout
import Sluice.Decimal.Round
import Sluice.Decimal.Scientific
import Sluice.Decimal.Shortest
import Sluice.Event
import Sluice.Fault
import Sluice.File.Path
import Sluice.File.Store
import Sluice.Gate.Basic
import Sluice.Gate.Call
import Sluice.Gate.Close
import Sluice.Gate.Open
import Sluice.Gate.Run
import Sluice.Install.Download
import Sluice.Install.Host
import Sluice.Install.Transfer
import Sluice.Json.Read
import Sluice.Json.Write
import Sluice.Main
import Sluice.Proofs.Decimal.Digits
import Sluice.Proofs.Decimal.Scientific
import Sluice.Proofs.File.Store
import Sluice.Proofs.Gate.Asking
import Sluice.Proofs.Gate.Clock
import Sluice.Proofs.Gate.Closing
import Sluice.Proofs.Gate.Completion
import Sluice.Proofs.Gate.Custody
import Sluice.Proofs.Gate.Expiry
import Sluice.Proofs.Gate.Mediation
import Sluice.Proofs.Gate.Opening
import Sluice.Proofs.Gate.Pools
import Sluice.Proofs.Gate.Reach
import Sluice.Proofs.Gate.Rollback
import Sluice.Proofs.Gate.Steady
import Sluice.Proofs.Gate.Tending
import Sluice.Proofs.Gate.Traffic
import Sluice.Proofs.Gate.Waiting
import Sluice.Proofs.Install.Body
import Sluice.Proofs.Install.Delivery
import Sluice.Proofs.Install.Progress
import Sluice.Proofs.Install.Provision
import Sluice.Proofs.Install.Pursuit
import Sluice.Proofs.Install.Redirects
import Sluice.Proofs.Install.Stumbling
import Sluice.Proofs.Install.Traffic
import Sluice.Proofs.Json.Grammar
import Sluice.Proofs.Json.Number
import Sluice.Proofs.Json.Reading
import Sluice.Proofs.Json.Writing
import Sluice.Proofs.Proxy.Course
import Sluice.Proofs.Proxy.Custody
import Sluice.Proofs.Proxy.Descent
import Sluice.Proofs.Proxy.Ending
import Sluice.Proofs.Proxy.Hearing
import Sluice.Proofs.Proxy.Lines
import Sluice.Proofs.Proxy.Loss
import Sluice.Proofs.Proxy.Order
import Sluice.Proofs.Proxy.Pending
import Sluice.Proofs.Proxy.Polling
import Sluice.Proofs.Proxy.Readiness
import Sluice.Proofs.Proxy.Record
import Sluice.Proofs.Proxy.Relay
import Sluice.Proofs.Proxy.Startup
import Sluice.Proofs.Proxy.Stopping
import Sluice.Proofs.Proxy.Supervision
import Sluice.Proofs.Proxy.Tending
import Sluice.Proofs.Proxy.Traffic
import Sluice.Proofs.Proxy.View
import Sluice.Proofs.Proxy.Work
import Sluice.Proofs.Query.Assignment
import Sluice.Proofs.Query.Capped
import Sluice.Proofs.Query.Clause
import Sluice.Proofs.Query.Comment
import Sluice.Proofs.Query.CommonTable
import Sluice.Proofs.Query.LetterCase
import Sluice.Proofs.Query.Lexeme
import Sluice.Proofs.Query.Limited
import Sluice.Proofs.Query.Normal
import Sluice.Proofs.Query.Opening
import Sluice.Proofs.Query.OwnLimit
import Sluice.Proofs.Query.Piece
import Sluice.Proofs.Query.Stacking
import Sluice.Proofs.Query.Token
import Sluice.Proofs.Query.Verdict
import Sluice.Proofs.Server.Budget
import Sluice.Proofs.Server.Completion
import Sluice.Proofs.Server.Creation
import Sluice.Proofs.Server.Document
import Sluice.Proofs.Server.Exclusion
import Sluice.Proofs.Server.Expiry
import Sluice.Proofs.Server.Leaving
import Sluice.Proofs.Server.Mediation
import Sluice.Proofs.Server.Plain
import Sluice.Proofs.Server.Progress
import Sluice.Proofs.Server.Rollback
import Sluice.Proofs.Server.Run
import Sluice.Proofs.Server.Service
import Sluice.Proofs.Server.Settlement
import Sluice.Proofs.Server.Shutdown
import Sluice.Proofs.Server.SingleFlight
import Sluice.Proofs.Server.Startup
import Sluice.Proofs.Text.Base64
import Sluice.Proofs.Tool.Indexes
import Sluice.Proofs.Tool.Pattern
import Sluice.Proofs.Tool.Status
import Sluice.Proofs.Value.Cell
import Sluice.Proofs.Value.Moment
import Sluice.Proofs.Web.Reference
import Sluice.Proxy.Config
import Sluice.Proxy.Output
import Sluice.Proxy.Start
import Sluice.Proxy.Stop
import Sluice.Proxy.World
import Sluice.Query.Admission
import Sluice.Query.Comment
import Sluice.Query.Phrase
import Sluice.Query.RowLimit
import Sluice.Query.Rule
import Sluice.Query.Statement
import Sluice.Server.Desk
import Sluice.Server.Job
import Sluice.Server.Launch
import Sluice.Server.Life
import Sluice.Server.Lifetime
import Sluice.Server.Reply
import Sluice.Server.Session
import Sluice.Server.Web
import Sluice.Settings.Basic
import Sluice.Settings.Conversion
import Sluice.Settings.EnvFile
import Sluice.Text.Base64
import Sluice.Text.Blank
import Sluice.Text.Case
import Sluice.Text.Digit
import Sluice.Text.Printable
import Sluice.Text.Quoted
import Sluice.Text.Range
import Sluice.Text.Utf8
import Sluice.Text.Word
import Sluice.Tool.Contract
import Sluice.Tool.Definition
import Sluice.Tool.Identifier
import Sluice.Tool.Limit
import Sluice.Tool.Result
import Sluice.Tool.Schema
import Sluice.Value.Basic
import Sluice.Value.Cell
import Sluice.Value.Moment
import Sluice.Value.Number
import Sluice.Value.Order
import Sluice.Value.Text
import Sluice.Web.Url
