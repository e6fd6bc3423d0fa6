import AqlClient.Backend
import AqlClient.Client
import AqlClient.Collection
import AqlClient.Program.Tasks
import AqlClient.Proofs.Cursor.Watch
import AqlClient.Proofs.Program.Exchange
import AqlClient.Proofs.Cursor.Client
import AqlClient.Proofs.Program.Invariant
import AqlClient.Proofs.Cursor.Upkeep
import AqlClient.Proofs.Cursor.Keeping
import AqlClient.Proofs.Cursor.Protocol
import AqlClient.Proofs.Cursor.Taking
import AqlClient.Proofs.Cursor.Delivery
import AqlClient.Proofs.Cursor.Refusal
import AqlClient.Proofs.Program.Interleaving
import AqlClient.Proofs.Cursor.Sharing
import AqlClient.Proofs.Cursor.Phases
import AqlClient.Proofs.Cursor.Overlap
import AqlClient.Proofs.Cursor.Completeness
import AqlClient.Proofs.Cursor.Closure
import AqlClient.Proofs.Cursor.Release
import AqlClient.Proofs.Cursor.Exit
import AqlClient.Proofs.Cursor.Intact
import AqlClient.Proofs.Cursor.Serving
import AqlClient.Proofs.Cursor.Alignment
import AqlClient.Proofs.Cursor.Asking
import AqlClient.Proofs.Cursor.Pagination
import AqlClient.Proofs.Program.Likeness
import AqlClient.Proofs.Cursor.Twins
import AqlClient.Proofs.Cursor.Readings
import AqlClient.Proofs.Mapper
import AqlClient.Proofs.Modes
import AqlClient.Proofs.Desk
import AqlClient.Proofs.Program.Course
import AqlClient.Proofs.Cursor.Loops
import AqlClient.Proofs.Envelope
import AqlClient.Proofs.Program.Answer
import AqlClient.Proofs.Cursor.Fetching
import AqlClient.Proofs.Answers
import AqlClient.Proofs.Cursor.Retrying
import AqlClient.Proofs.Program.Pace
import AqlClient.Proofs.Program.Sending
import AqlClient.Proofs.Deadline
import AqlClient.Proofs.Cursor.Pace
import AqlClient.Proofs.Program.Points
import AqlClient.Proofs.Cursor.Sending
import AqlClient.Proofs.Timeliness
import AqlClient.Proofs.Cursor.Budget
import AqlClient.Proofs.Cursor.Unending
import AqlClient.Proofs.Document
import AqlClient.Proofs.Judgement
import AqlClient.Proofs.Json
import AqlClient.Proofs.Payload
import AqlClient.Proofs.Cursor.Rejection
import AqlClient.Proofs.Cursor.Conversion
import AqlClient.Proofs.Program.Candor
import AqlClient.Proofs.Naming
import AqlClient.Proofs.Literals
import AqlClient.Proofs.Redaction
import AqlClient.Proofs.Description
import AqlClient.Proofs.Program.Stretches
import AqlClient.Proofs.Cursor.Addresses
import AqlClient.Proofs.Cursor.Licences
import AqlClient.Proofs.Cursor.Addressing
import AqlClient.Proofs.Program.Doings
import AqlClient.Proofs.Sessions
import AqlClient.Proofs.Authorization
import AqlClient.Proofs.Connecting
import AqlClient.Proofs.Program.InStep
import AqlClient.Proofs.Cursor.InStep
import AqlClient.Proofs.Secrecy
import AqlClient.Proofs.Errands
import AqlClient.Proofs.Overhearing
import AqlClient.Proofs.Urls
import AqlClient.Proofs.Query.NormalForm
import AqlClient.Proofs.Grammar
import AqlClient.Proofs.Encoding
import AqlClient.Proofs.HeaderLevels
import AqlClient.Proofs.Cursor.Visiting
import AqlClient.Proofs.Backends
import AqlClient.Proofs.ErrorNumbers
import AqlClient.Proofs.Query.Sendable
import AqlClient.Proofs.SingleLimits
import AqlClient.Proofs.Base64
import AqlClient.Proofs.BasicHeader
import AqlClient.Proofs.Lookalikes
