import Tether.Carrier
import Tether.Client
import Tether.Client.Stored
import Tether.Clock
import Tether.Deadline
import Tether.Endpoints
import Tether.Feedback
import Tether.Frame
import Tether.Frame.Escape
import Tether.Frame.Reader
import Tether.Health
import Tether.Health.Watch
import Tether.Http
import Tether.Http.Exchange
import Tether.Id
import Tether.Id.Stored
import Tether.Json.Basic
import Tether.Json.Codec
import Tether.Json.Kit
import Tether.Json.Number
import Tether.Json.Record
import Tether.Json.Scalar
import Tether.Json.Skip
import Tether.Json.Text
import Tether.Json.Value
import Tether.LongPoll
import Tether.Network
import Tether.Network.Bench
import Tether.Proofs.Alarms
import Tether.Proofs.Client
import Tether.Proofs.Endpoints
import Tether.Proofs.Frame.Inbound
import Tether.Proofs.Frame.Pieces
import Tether.Proofs.Frame.Values
import Tether.Proofs.Health
import Tether.Proofs.Json.Codec
import Tether.Proofs.Json.Declared
import Tether.Proofs.Json.Grammar
import Tether.Proofs.Json.Laws
import Tether.Proofs.Json.Records
import Tether.Proofs.Json.Scalars
import Tether.Proofs.LongPoll.Calls
import Tether.Proofs.LongPoll.Courses
import Tether.Proofs.LongPoll.Docket
import Tether.Proofs.LongPoll.Mail
import Tether.Proofs.LongPoll.Tale
import Tether.Proofs.Network.Answers
import Tether.Proofs.Network.Asks
import Tether.Proofs.Network.Channel
import Tether.Proofs.Network.Deadlines
import Tether.Proofs.Network.Lines
import Tether.Proofs.Network.Moves
import Tether.Proofs.Network.Polls
import Tether.Proofs.Network.Reports
import Tether.Proofs.Network.Runs
import Tether.Proofs.Network.Sights
import Tether.Proofs.Network.Views
import Tether.Proofs.Reconnect
import Tether.Proofs.Session.Answered
import Tether.Proofs.Session.Blame
import Tether.Proofs.Session.Credentials
import Tether.Proofs.Session.Deeds
import Tether.Proofs.Session.Display
import Tether.Proofs.Session.Echoes
import Tether.Proofs.Session.Fallback
import Tether.Proofs.Session.Flavours
import Tether.Proofs.Session.Forms
import Tether.Proofs.Session.Incidents
import Tether.Proofs.Session.Ledger
import Tether.Proofs.Session.Origins
import Tether.Proofs.Session.Pauses
import Tether.Proofs.Session.Phases
import Tether.Proofs.Session.Quiescence
import Tether.Proofs.Session.Rehearsed
import Tether.Proofs.Session.Replies
import Tether.Proofs.Session.Retries
import Tether.Proofs.Session.Reuse
import Tether.Proofs.Session.Rulings
import Tether.Proofs.Session.Run
import Tether.Proofs.Session.Sends
import Tether.Proofs.Session.Silence
import Tether.Proofs.Session.Stale
import Tether.Proofs.Session.Stream
import Tether.Proofs.Session.Tally
import Tether.Proofs.Session.Tenure
import Tether.Proofs.Session.Tidings
import Tether.Proofs.Session.Timeline
import Tether.Proofs.Session.Verdicts
import Tether.Proofs.Session.Wire
import Tether.Proofs.Stack.Custody
import Tether.Proofs.Stack.Discipline
import Tether.Proofs.Stack.Happenings
import Tether.Proofs.Stack.Petitions
import Tether.Proofs.Text.Trimming
import Tether.Proofs.Timer.Discipline
import Tether.Proofs.Timer.Events
import Tether.Proofs.Transport.Families
import Tether.Proofs.Transport.Refusals
import Tether.Proofs.Url.Kit
import Tether.Proofs.Url.Laws
import Tether.Proofs.Url.Paths
import Tether.Proofs.WebSocket.Beats
import Tether.Proofs.WebSocket.Course
import Tether.Proofs.WebSocket.Upkeep
import Tether.Reconnect
import Tether.Session
import Tether.Session.Basic
import Tether.Session.Rehearsal
import Tether.Session.Stored
import Tether.Stack
import Tether.Text.Canonical
import Tether.Text.CaseTables
import Tether.Text.CodeRanges
import Tether.Text.CombiningClass
import Tether.Text.Direction
import Tether.Text.FormEncoding
import Tether.Text.Joining
import Tether.Text.LetterRuns
import Tether.Text.Lowercase
import Tether.Text.Mark
import Tether.Text.Normal
import Tether.Text.Printable
import Tether.Text.Quoted
import Tether.Text.Segments
import Tether.Text.Utf8
import Tether.Timer
import Tether.Timer.Desk
import Tether.Transport
import Tether.Transport.Sink
import Tether.Transport.Stored
import Tether.Url.Address
import Tether.Url.Basic
import Tether.Url.Domain
import Tether.Url.Domain.Forms
import Tether.Url.Domain.Label
import Tether.Url.Edit
import Tether.Url.Escaping
import Tether.Url.Kit
import Tether.Url.Punycode
import Tether.Url.Reader
import Tether.WebSocket
import Tether.WebSocket.Bench
import Tether.WebSocket.Dialogue
