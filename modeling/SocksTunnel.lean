import SocksTunnel.Command.Run
import SocksTunnel.Failure.Draft
import SocksTunnel.Main
import SocksTunnel.Route.Reading
import SocksTunnel.Script.Stream
import SocksTunnel.Setting.Codec
import SocksTunnel.Socks.Packet
import SocksTunnel.Coding.Chart
import SocksTunnel.Coding.Chart.HongKong
import SocksTunnel.Coding.Chart.Japanese
import SocksTunnel.Coding.Chart.JapaneseExtension
import SocksTunnel.Coding.Chart.JapaneseSupplement
import SocksTunnel.Coding.Chart.Korean
import SocksTunnel.Coding.Chart.Simplified
import SocksTunnel.Coding.Scheme
import SocksTunnel.Proofs.Handshake.Failures
import SocksTunnel.Proofs.Handshake.Order
import SocksTunnel.Proofs.Handshake.Socks4
import SocksTunnel.Proofs.Handshake.Course
import SocksTunnel.Proofs.Script.Timing
import SocksTunnel.Proofs.Script.Reader
import SocksTunnel.Proofs.Handshake.Timeouts
import SocksTunnel.Proofs.Script.Network
import SocksTunnel.Proofs.Handshake.Entries
import SocksTunnel.Proofs.Command.Settings
import SocksTunnel.Proofs.Command.Addressing
import SocksTunnel.Proofs.Command.Run
import SocksTunnel.Proofs.Handshake.Heard
import SocksTunnel.Proofs.Command.Payload
import SocksTunnel.Proofs.Socks.RequestCodec
import SocksTunnel.Proofs.Socks.ReplyCodec
import SocksTunnel.Proofs.Handshake.Cancellation
import SocksTunnel.Proofs.Script.Segments
import SocksTunnel.Proofs.Handshake.Segments
import SocksTunnel.Proofs.Failure.Chain
import SocksTunnel.Proofs.Socks.DestinationCodec
import SocksTunnel.Proofs.Text.Cut
import SocksTunnel.Proofs.Text.Whole
import SocksTunnel.Proofs.Address.Quad
import SocksTunnel.Proofs.Route.Refusal
import SocksTunnel.Proofs.Log.Content
import SocksTunnel.Proofs.Log.Delivery
import SocksTunnel.Proofs.Socks.Socks4Codec
import SocksTunnel.Proofs.Socks.Socks4Server
import SocksTunnel.Proofs.Socks.GreetingCodec
import SocksTunnel.Proofs.Socks.Readings
import SocksTunnel.Proofs.Socks.Successive
import SocksTunnel.Proofs.Address.Literal
import SocksTunnel.Proofs.Socks.DestinationText
import SocksTunnel.Proofs.Handshake.Accounting
import SocksTunnel.Proofs.Handshake.Records
import SocksTunnel.Proofs.Address.Compressed
import SocksTunnel.Proofs.Socks.DestinationRoundTrip
import SocksTunnel.Proofs.Route.HostPort
import SocksTunnel.Proofs.Command.Precedence
import SocksTunnel.Proofs.Decimal.Rounding
import SocksTunnel.Proofs.Command.Usage
import SocksTunnel.Proofs.Connection.Closing
import SocksTunnel.Proofs.Socks.DestinationWhole
import SocksTunnel.Proofs.Timeouts.Steps
import SocksTunnel.Proofs.Decimal.Numeral
import SocksTunnel.Proofs.Decimal.Significant
import SocksTunnel.Proofs.Timeouts.RoundTrip
