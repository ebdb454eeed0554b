import Wireline.Library.BigEndian
import Wireline.Library.Incremental
import Wireline.Library.LengthPrefixed
import Wireline.Library.Restarting
import Wireline.Library.ExactReader
import Wireline.Library.Execution
import Wireline.Library.Retrying
import Wireline.Library.Rounding
import Wireline.Library.Recency
import Wireline.Library.Json
import Wireline.Library.Crc32
import Wireline.Library.Crc32Window
import Wireline.Library.JsonReader
import Wireline.Library.Utf8Replace
import Wireline.Library.Sequences
import Wireline.Library.Printable
import Wireline.Library.Sha256
import Wireline.Protocol.Errors
import Wireline.Protocol.Text
import Wireline.Protocol.Codec
import Wireline.Protocol.CodecBijection
import Wireline.Protocol.Messages
import Wireline.Protocol.ErrorTexts
import Wireline.Replies
import Wireline.Session
import Wireline.Reference
import Wireline.SessionHandling
import Wireline.SessionOutput
import Wireline.SessionIdentity
import Wireline.SessionRuns
import Wireline.Transport.Framing
import Wireline.Transport.Observer
import Wireline.Transport.Corruption
import Wireline.Transport.Readers
import Wireline.Transport.Authenticity
import Wireline.Sniff.Pcap
import Wireline.Sniff.PcapWriter
import Wireline.Sniff.Rewriting
import Wireline.Sniff.PacketScan
import Wireline.Sniff.Dissect
import Wireline.Sniff.Capture
import Wireline.Sniff.Payload
import Wireline.Sniff.Fixture
import Wireline.Sniff.Reassembly
import Wireline.Sniff.Conversation
import Wireline.Sniff.Report
import Wireline.Udp.Server
import Wireline.Udp.DedupWindow
import Wireline.Udp.Datagrams
import Wireline.SessionEncoding
import Wireline.Udp.Idempotence
import Wireline.Udp.Client
import Wireline.Udp.Noise
import Wireline.Udp.Chronicle
import Wireline.Udp.Isolation
import Wireline.Udp.Network
import Wireline.Udp.Faultless
import Wireline.Udp.AtMostOnce
import Wireline.Udp.LateFrames
import Wireline.Udp.Pairing
import Wireline.Tcp.Server
import Wireline.Tcp.Client
import Wireline.Tcp.Timeouts
import Wireline.Tcp.Link
import Wireline.Tcp.Calls
import Wireline.Tcp.Exposed
import Wireline.Tcp.Reflection
import Wireline.Udp.Successors
import Wireline.Udp.OpenNetwork
import Wireline.ErrorReplies
import Wireline.Udp.Lossy
import Wireline.Udp.LossyRuns
import Wireline.Tcp.Replay
import Wireline.Agreement
import Wireline.Tcp.Dialogue
import Wireline.Tcp.Reconnect
import Wireline.Tcp.Accounted
import Wireline.Tcp.OtherKey
import Wireline.Sniff.Exchange
import Wireline.Cli.Failures
import Wireline.Cli.Sniff
import Wireline.Cli.Calls
