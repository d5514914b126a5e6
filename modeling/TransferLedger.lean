import TransferLedger.Account.Basic
import TransferLedger.Account.File
import TransferLedger.Account.Store
import TransferLedger.Chain.Endpoint
import TransferLedger.Chain.Failure
import TransferLedger.Chain.HostName
import TransferLedger.Chain.Inquiry
import TransferLedger.Chain.JsonRpc
import TransferLedger.Chain.Retry
import TransferLedger.Chain.Rotation
import TransferLedger.Chain.Symbol
import TransferLedger.Chain.Token
import TransferLedger.Delivery.Notification
import TransferLedger.Delivery.Routing
import TransferLedger.Delivery.Transaction
import TransferLedger.Event.Schema
import TransferLedger.Failure
import TransferLedger.Filter.Basic
import TransferLedger.Filter.Document
import TransferLedger.Filter.Failure
import TransferLedger.Json.Basic
import TransferLedger.Json.Decode
import TransferLedger.Json.Printer
import TransferLedger.Json.Reading
import TransferLedger.Log.Row
import TransferLedger.LogStore
import TransferLedger.LogStore.Memory
import TransferLedger.LogStore.Tables
import TransferLedger.Main
import TransferLedger.Number.Binary64
import TransferLedger.Number.Digits
import TransferLedger.Number.SlotWord
import TransferLedger.Number.Word
import TransferLedger.Query.Compile
import TransferLedger.Query.Document
import TransferLedger.Query.Predicate
import TransferLedger.Reconcile.Bus
import TransferLedger.Reconcile.Consumer
import TransferLedger.Reconcile.Handling
import TransferLedger.Reconcile.OneThread
import TransferLedger.Reconcile.Refresh
import TransferLedger.Reconcile.Update
import TransferLedger.Reconcile.World
import TransferLedger.Service.Api
import TransferLedger.Service.ContentType
import TransferLedger.Service.Listening
import TransferLedger.Service.Registration
import TransferLedger.Service.Request
import TransferLedger.Service.Stream
import TransferLedger.Settings
import TransferLedger.Text.Ascii
import TransferLedger.Text.Chart
import TransferLedger.Text.Direction
import TransferLedger.Text.Folding
import TransferLedger.Text.Folding.Spellings
import TransferLedger.Text.Graphic
import TransferLedger.Text.Joining
import TransferLedger.Text.Mark
import TransferLedger.Text.Normal
import TransferLedger.Text.Normal.Class
import TransferLedger.Text.Normal.Parts
import TransferLedger.Text.Percent
import TransferLedger.Text.Pieces
import TransferLedger.Text.Punycode
import TransferLedger.Text.Quoted
import TransferLedger.Text.Runs
import TransferLedger.Text.Utf8
import TransferLedger.Filter.Grammar
import TransferLedger.Filter.Meaning
import TransferLedger.Filter.Reduction
import TransferLedger.Proofs.LastOfEach
import TransferLedger.Proofs.Log.Layout
import TransferLedger.Proofs.Query.Building
import TransferLedger.Proofs.Query.Normal
import TransferLedger.Proofs.Query.Outcome
import TransferLedger.Proofs.Filter.Document
import TransferLedger.Proofs.Query.Agreement
import TransferLedger.LogStore.Statement
import TransferLedger.Proofs.Account.Merge
import TransferLedger.Proofs.Json.Written
import TransferLedger.Proofs.Account.Stored
import TransferLedger.Proofs.LogStore.Condition
import TransferLedger.Proofs.LogStore.Distinct
import TransferLedger.Proofs.LogStore.Keys
import TransferLedger.Proofs.LogStore.Mirror
import TransferLedger.Proofs.LogStore.Refinement
import TransferLedger.Proofs.LogStore.LastWrite
import TransferLedger.Proofs.Reconcile.Handling
import TransferLedger.Proofs.Service.Crew
import TransferLedger.Proofs.Service.Overlap
import TransferLedger.Proofs.Number.Hex
import TransferLedger.Proofs.Number.Joined
import TransferLedger.Proofs.Chain.Token
import TransferLedger.Proofs.Reconcile.Concerned
import TransferLedger.Proofs.Reconcile.Balances
import TransferLedger.Proofs.Number.Canonical
import TransferLedger.Proofs.Query.Selection
import TransferLedger.Proofs.Reconcile.Atomic
import TransferLedger.Proofs.Service.Soundness
import TransferLedger.Proofs.Reconcile.Consumer
import TransferLedger.Proofs.Service.Deliveries
import TransferLedger.Proofs.Reconcile.Convergence
import TransferLedger.Proofs.Reconcile.Questions
import TransferLedger.Proofs.Service.Drain
import TransferLedger.Proofs.Service.InTurn
import TransferLedger.Proofs.Service.Registrations
import TransferLedger.Proofs.Service.OneThread
import TransferLedger.Proofs.Json.Fields
import TransferLedger.Proofs.Delivery.Forwarding
import TransferLedger.Proofs.Account.Agreement
import TransferLedger.Proofs.Account.LastWins
import TransferLedger.Proofs.LogStore.Override
import TransferLedger.Proofs.Service.Indexing
import TransferLedger.Proofs.Number.Scalar
import TransferLedger.Proofs.Query.Values
import TransferLedger.Proofs.Event.Slots
import TransferLedger.Proofs.Log.Rows
import TransferLedger.Proofs.Text.Casing
import TransferLedger.Proofs.Log.Spelling
import TransferLedger.Proofs.Query.Rebuilding
import TransferLedger.Proofs.Query.FieldWise
import TransferLedger.Proofs.Chain.Retry
import TransferLedger.Proofs.Chain.Rotation
import TransferLedger.Proofs.Chain.Quantity
import TransferLedger.Proofs.Chain.Symbol
import TransferLedger.Proofs.Delivery.Tokens
import TransferLedger.Proofs.Reconcile.Bus
import TransferLedger.Proofs.Number.Fraction
import TransferLedger.Proofs.Json.Grammar
import TransferLedger.Proofs.Service.Frames
import TransferLedger.Proofs.Service.Stream
