import Stomp.Text.Quoted
import Stomp.Text.Numeral
import Stomp.Decimal.Shortest
import Stomp.Decimal.Fixed
import Stomp.Json.Equality
import Stomp.Json.Writer
import Stomp.Json.Reader
import Stomp.Frame.Wire
import Stomp.Frame.Display
import Stomp.Frame.Equality
import Stomp.Parser
import Stomp.Protocol
import Stomp.Notice
import Stomp.Event
import Stomp.Channel.Script
import Stomp.Session.Connected
import Stomp.Proofs.Header.Escape
import Stomp.Proofs.Parser.Chunks
import Stomp.Proofs.Text.Numeral
import Stomp.Proofs.Text.Utf8
import Stomp.Proofs.Frame.Wire
import Stomp.Proofs.Parser.Delivery
import Stomp.Proofs.Parser.RoundTrip
import Stomp.Proofs.Action.Outcome
import Stomp.Proofs.Frame.Headers
import Stomp.Proofs.Protocol.Frames
import Stomp.Proofs.Session.Call
import Stomp.Proofs.Session.Step
import Stomp.Proofs.Session.Laws
import Stomp.Proofs.Session.Recorded
import Stomp.Proofs.Session.Ledger
import Stomp.Proofs.Client.Ids
import Stomp.Proofs.Link.Outgoing
import Stomp.Proofs.Client.Writing
import Stomp.Proofs.Session.Stamping
import Stomp.Proofs.Parser.Giving
import Stomp.Proofs.Channel.Served
import Stomp.Proofs.Transport.Reading
import Stomp.Proofs.Client.Call
import Stomp.Proofs.Client.Delivery
import Stomp.Proofs.Channel.Script
import Stomp.Proofs.Client.Receipts
import Stomp.Proofs.Session.Requests
import Stomp.Proofs.Session.Atomicity
import Stomp.Proofs.Client.Backlog
import Stomp.Proofs.Session.Draining
import Stomp.Proofs.Json.Text
import Stomp.Proofs.Json.Number
import Stomp.Proofs.Json.RoundTrip
import Stomp.Proofs.Json.Reading
import Stomp.Proofs.Header.LegacyEscape
import Stomp.Proofs.Text.Decoding
import Stomp.Proofs.Parser.Heads
import Stomp.Proofs.Parser.MapRoundTrip
import Stomp.Proofs.Parser.Framing
import Stomp.Proofs.Parser.Received
import Stomp.Proofs.Parser.Forwarding
import Stomp.Proofs.Parser.Awaiting
import Stomp.Proofs.Parser.Portions
import Stomp.Proofs.Parser.Isolation
import Stomp.Proofs.Text.Alphabet
import Stomp.Proofs.Parser.Wellformed
import Stomp.Proofs.Channel.Arrivals
import Stomp.Proofs.Channel.Orderly
import Stomp.Proofs.Command.Handshake
import Stomp.Proofs.Client.Routine
import Stomp.Proofs.Client.Greeting
import Stomp.Proofs.Client.Negotiation
import Stomp.Proofs.Client.Refusal
import Stomp.Proofs.Client.Termination
import Stomp.Proofs.Transport.Usage
import Stomp.Proofs.Client.Usage
import Stomp.Proofs.Heartbeat.Step
import Stomp.Proofs.Heartbeat.History
import Stomp.Proofs.Heartbeat.Detector
import Stomp.Proofs.Heartbeat.Emitter
import Stomp.Proofs.Heartbeat.Renewal
import Stomp.Proofs.Transport.Liveness
import Stomp.Proofs.Parser.LegacyRoundTrip
import Stomp.Proofs.Parser.LegacyFraming
import Stomp.Proofs.Client.Farewell
import Stomp.Proofs.Client.Timing
import Stomp.Proofs.Client.Posting
import Stomp.Proofs.Client.Discipline
import Stomp.Proofs.Protocol.Answers
import Stomp.Proofs.Parser.LineEnds
import Stomp.Proofs.Parser.Precedence
import Stomp.Proofs.Parser.Telling
import Stomp.Proofs.Transport.Telling
import Stomp.Proofs.Header.Faithful
import Stomp.Proofs.Json.Equality
import Stomp.Proofs.Frame.Equality
import Stomp.Proofs.Protocol.Durable
