import SlotMachine.Binary64
import SlotMachine.Collaborators
import SlotMachine.Database.Inquiry
import SlotMachine.Database.Item
import SlotMachine.Database.Ledger
import SlotMachine.Database.Reply
import SlotMachine.Database.Repository
import SlotMachine.Database.Request
import SlotMachine.Decimal.Shortest
import SlotMachine.Decimal.Text
import SlotMachine.Demo
import SlotMachine.Dialogue
import SlotMachine.Draw
import SlotMachine.Engine
import SlotMachine.Entries
import SlotMachine.Heavy.Matrix
import SlotMachine.Http.MediaType
import SlotMachine.Http.Message
import SlotMachine.Http.Route
import SlotMachine.Http.Server
import SlotMachine.Instant
import SlotMachine.Instant.Calendar
import SlotMachine.Instant.Text
import SlotMachine.Json
import SlotMachine.Json.Decode
import SlotMachine.Json.Number
import SlotMachine.Json.Syntax
import SlotMachine.Json.Text
import SlotMachine.Messages.Outcome
import SlotMachine.Messages.Play
import SlotMachine.Messages.Record
import SlotMachine.Messages.Round
import SlotMachine.Messages.Scenario
import SlotMachine.Metrics
import SlotMachine.Metrics.Anomaly
import SlotMachine.Metrics.Exposition
import SlotMachine.Outcome
import SlotMachine.Payout
import SlotMachine.Pool
import SlotMachine.Primes
import SlotMachine.Proofs.Binary64.Order
import SlotMachine.Proofs.Binary64.Overflow
import SlotMachine.Proofs.Binary64.Products
import SlotMachine.Proofs.Binary64.Rounding
import SlotMachine.Proofs.Binary64.Signs
import SlotMachine.Proofs.Binary64.Sums
import SlotMachine.Proofs.Binary64.Unpacked
import SlotMachine.Proofs.Database.Accounts
import SlotMachine.Proofs.Database.Overlap
import SlotMachine.Proofs.Database.Pages
import SlotMachine.Proofs.Database.Scans
import SlotMachine.Proofs.Database.Serial
import SlotMachine.Proofs.Database.Settlements
import SlotMachine.Proofs.Database.Statistics
import SlotMachine.Proofs.Database.Tables
import SlotMachine.Proofs.Database.Windows
import SlotMachine.Proofs.Decimal.Digits
import SlotMachine.Proofs.Decimal.Values
import SlotMachine.Proofs.Dialogue.Answered
import SlotMachine.Proofs.Dialogue.Interleaving
import SlotMachine.Proofs.Dialogue.Only
import SlotMachine.Proofs.Dialogue.Transcript
import SlotMachine.Proofs.Dialogue.Turns
import SlotMachine.Proofs.Draw.Avoids
import SlotMachine.Proofs.Draw.Below
import SlotMachine.Proofs.Draw.Courses
import SlotMachine.Proofs.Draw.Ensures
import SlotMachine.Proofs.Draw.Loops
import SlotMachine.Proofs.Http.Bodies
import SlotMachine.Proofs.Http.Interfaces
import SlotMachine.Proofs.Http.Traces
import SlotMachine.Proofs.Instant.Calendar
import SlotMachine.Proofs.Instant.Order
import SlotMachine.Proofs.Instant.Text
import SlotMachine.Proofs.Instant.TextOrder
import SlotMachine.Proofs.Json.Amounts
import SlotMachine.Proofs.Json.Decoding
import SlotMachine.Proofs.Json.Numbers
import SlotMachine.Proofs.Json.Objects
import SlotMachine.Proofs.Json.Records
import SlotMachine.Proofs.Json.Strings
import SlotMachine.Proofs.Json.Trees
import SlotMachine.Proofs.Json.Values
import SlotMachine.Proofs.Messages.Replies
import SlotMachine.Proofs.Messages.Requests
import SlotMachine.Proofs.Messages.Rounds
import SlotMachine.Proofs.Metrics.Operations
import SlotMachine.Proofs.Metrics.Series
import SlotMachine.Proofs.Pool.Fairness
import SlotMachine.Proofs.Pool.Layout
import SlotMachine.Proofs.Pool.Runs
import SlotMachine.Proofs.Primes.Search
import SlotMachine.Proofs.Primes.TrialDivision
import SlotMachine.Proofs.Round.Amounts
import SlotMachine.Proofs.Round.Play
import SlotMachine.Proofs.Round.Requests
import SlotMachine.Proofs.Service.Agreement
import SlotMachine.Proofs.Service.Calls
import SlotMachine.Proofs.Service.Failures
import SlotMachine.Proofs.Service.House
import SlotMachine.Proofs.Service.Recordings
import SlotMachine.Proofs.Service.Replay
import SlotMachine.Proofs.Service.Returns
import SlotMachine.Proofs.Service.Runs
import SlotMachine.Proofs.Service.Speaks
import SlotMachine.Proofs.Service.Tallies
import SlotMachine.Proofs.Service.Visits
import SlotMachine.Proofs.Service.Wagers
import SlotMachine.Proofs.Settings.Placeholders
import SlotMachine.Proofs.Settings.Startup
import SlotMachine.Proofs.Spin.Cancellation
import SlotMachine.Proofs.Spin.Capacity
import SlotMachine.Proofs.Spin.Course
import SlotMachine.Proofs.Spin.Outcome
import SlotMachine.Proofs.Spin.Secrecy
import SlotMachine.Proofs.Spin.Steps
import SlotMachine.Proofs.Spin.Stops
import SlotMachine.Proofs.Store.Accounts
import SlotMachine.Proofs.Store.Balances
import SlotMachine.Proofs.Store.Expiry
import SlotMachine.Proofs.Store.Overdrafts
import SlotMachine.Proofs.Store.Retention
import SlotMachine.Proofs.Store.Sessions
import SlotMachine.Proofs.Table.Acceptance
import SlotMachine.Proofs.Table.Written
import SlotMachine.Proofs.Text.Trim
import SlotMachine.Proofs.Yaml.Listings
import SlotMachine.Proofs.Yaml.Scalars
import SlotMachine.Proofs.Yaml.Scanning
import SlotMachine.Round
import SlotMachine.Service
import SlotMachine.Settings
import SlotMachine.Settings.Connections
import SlotMachine.Settings.Number
import SlotMachine.Settings.Placeholder
import SlotMachine.Settings.SocketAddress
import SlotMachine.Settings.StartupError
import SlotMachine.SetupError
import SlotMachine.Spin
import SlotMachine.Stats
import SlotMachine.Store
import SlotMachine.Symbol
import SlotMachine.Table
import SlotMachine.Table.Yaml
import SlotMachine.Text.Blank
import SlotMachine.Text.Quoted
import SlotMachine.Wager.Gateway
import SlotMachine.Yaml.Node
import SlotMachine.Yaml.Scalar
import SlotMachine.Yaml.Token
