import SpeedTest.Main
import SpeedTest.Server.Visit
import SpeedTest.Proofs.Session.Agenda
import SpeedTest.Proofs.Route.Chunking
import SpeedTest.Proofs.Route.Refusal
import SpeedTest.Proofs.Wire.RoundTrip
import SpeedTest.Proofs.Stream.Conservation
import SpeedTest.Proofs.Session.Accounting
import SpeedTest.Proofs.WebSocket.Output
import SpeedTest.Proofs.Session.Closing
import SpeedTest.Proofs.WebSocket.Framing
import SpeedTest.Proofs.WebSocket.Delivery
import SpeedTest.Proofs.Session.Transport
import SpeedTest.Proofs.Splice.Barrier
import SpeedTest.Proofs.Splice.Delivery
import SpeedTest.Proofs.Splice.Report
import SpeedTest.Proofs.Route.Wire
import SpeedTest.Proofs.Connection.Terminal
import SpeedTest.Proofs.Listener.Orderly
import SpeedTest.Proofs.CommandLine.Precedence
import SpeedTest.Proofs.SubTest.Dialogue
import SpeedTest.Proofs.Metrics.Endpoint
import SpeedTest.Proofs.Server.Residents
import SpeedTest.Proofs.Server.Channels
import SpeedTest.Proofs.Session.Reading
import SpeedTest.Proofs.Wire.Reading
import SpeedTest.Proofs.Connection.Events
import SpeedTest.Proofs.Session.DownloadRate
import SpeedTest.Proofs.SubTest.Receiving
import SpeedTest.Proofs.WebSocket.Negotiation
import SpeedTest.Proofs.Wire.Tolerance
import SpeedTest.Proofs.Session.Summary
import SpeedTest.Proofs.Listener.Delays
import SpeedTest.Proofs.Duration.Reading
import SpeedTest.Proofs.Stream.Lead
import SpeedTest.Proofs.Duration.Scanning
import SpeedTest.Proofs.CommandLine.Durations
