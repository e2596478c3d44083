import Rolebook.Command.Evaluate
import Rolebook.Command.Reply
import Rolebook.Demo
import Rolebook.Fault
import Rolebook.Http.Body
import Rolebook.Http.Handler
import Rolebook.Http.MediaType
import Rolebook.Http.Message
import Rolebook.Http.Route
import Rolebook.Http.Show
import Rolebook.Json.Lexeme
import Rolebook.Json.Number
import Rolebook.Json.Reader
import Rolebook.Json.Record
import Rolebook.Json.Value
import Rolebook.Main
import Rolebook.Memory.Change
import Rolebook.Memory.Operations
import Rolebook.Memory.State
import Rolebook.Metrics
import Rolebook.Net.Address
import Rolebook.Net.Host
import Rolebook.Net.SocketAddress
import Rolebook.Net.Url
import Rolebook.Phrase.Command
import Rolebook.Phrase.Pattern
import Rolebook.Phrase.Search
import Rolebook.Phrase.Shape
import Rolebook.Program
import Rolebook.Record.Entity
import Rolebook.Record.Instant
import Rolebook.Record.Name
import Rolebook.Record.OrderedSet
import Rolebook.Record.Table
import Rolebook.Rehearsal
import Rolebook.Relational.Client
import Rolebook.Relational.Connection
import Rolebook.Relational.Opening
import Rolebook.Relational.Server
import Rolebook.Relational.Sessions
import Rolebook.Relational.Statement
import Rolebook.Relational.Store
import Rolebook.Relational.Tables
import Rolebook.Service.Backend
import Rolebook.Service.Console
import Rolebook.Service.MetricsListener
import Rolebook.Service.Session
import Rolebook.Service.Start
import Rolebook.Settings.Environment
import Rolebook.Settings.Load
import Rolebook.Settings.Overrides
import Rolebook.Settings.Record
import Rolebook.Store.Call
import Rolebook.Store.Error
import Rolebook.Store.Inventory
import Rolebook.Text.Blank
import Rolebook.Text.CaseTable
import Rolebook.Text.Damage
import Rolebook.Text.Digits
import Rolebook.Text.Hex
import Rolebook.Text.Lowercase
import Rolebook.Text.Numeral
import Rolebook.Text.Percent
import Rolebook.Text.Pieces
import Rolebook.Text.Quoted
import Rolebook.Text.Range
import Rolebook.Text.Utf8
import Rolebook.Text.WordTable
import Rolebook.Trace.Context
import Rolebook.Yaml.Cursor
import Rolebook.Yaml.Node
import Rolebook.Yaml.Scalar
import Rolebook.Yaml.Token
import Rolebook.Yaml.Typed
import Rolebook.Proofs.Command.Advertised
import Rolebook.Proofs.Command.Contention
import Rolebook.Proofs.Command.Conversation
import Rolebook.Proofs.Command.Endurance
import Rolebook.Proofs.Command.Hindrance
import Rolebook.Proofs.Command.Independence
import Rolebook.Proofs.Command.Meaning
import Rolebook.Proofs.Demo.Advance
import Rolebook.Proofs.Demo.Reseeding
import Rolebook.Proofs.Demo.Seeding
import Rolebook.Proofs.Http.Confirm
import Rolebook.Proofs.Http.Discretion
import Rolebook.Proofs.Http.Patch
import Rolebook.Proofs.Memory.Alone
import Rolebook.Proofs.Memory.ByName
import Rolebook.Proofs.Memory.Coherence
import Rolebook.Proofs.Memory.Deletion
import Rolebook.Proofs.Memory.History
import Rolebook.Proofs.Memory.Permission
import Rolebook.Proofs.Memory.Refusal
import Rolebook.Proofs.Memory.Renaming
import Rolebook.Proofs.Memory.Reordering
import Rolebook.Proofs.Memory.Replacement
import Rolebook.Proofs.Memory.Revision
import Rolebook.Proofs.Memory.Span
import Rolebook.Proofs.Memory.Transition
import Rolebook.Proofs.Memory.Trials
import Rolebook.Proofs.Memory.Trouble
import Rolebook.Proofs.Phrase.FirstPlace
import Rolebook.Proofs.Phrase.Grammar
import Rolebook.Proofs.Phrase.Normalize
import Rolebook.Proofs.Phrase.Quotes
import Rolebook.Proofs.Phrase.Refill
import Rolebook.Proofs.Phrase.Removal
import Rolebook.Proofs.Phrase.Segments
import Rolebook.Proofs.Phrase.Wording
import Rolebook.Proofs.Record.Listing
import Rolebook.Proofs.Relational.Agreement
import Rolebook.Proofs.Relational.Dialogue
import Rolebook.Proofs.Relational.Disturbance
import Rolebook.Proofs.Relational.Failure
import Rolebook.Proofs.Relational.Interchange
import Rolebook.Proofs.Relational.Locking
import Rolebook.Proofs.Relational.Mirror
import Rolebook.Proofs.Relational.Protocol
import Rolebook.Proofs.Relational.Tracking
import Rolebook.Proofs.Service.Metering
import Rolebook.Proofs.Service.Replacement
import Rolebook.Proofs.Service.Session
import Rolebook.Proofs.Service.Trials
import Rolebook.Proofs.Settings.Layering
import Rolebook.Proofs.Store.Conversation
import Rolebook.Proofs.Text.ByteOrder
import Rolebook.Proofs.Text.LetterCase
