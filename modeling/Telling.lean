import Telling.Lib.Machine
import Telling.Lib.Monitor
import Telling.Msg.Util
import Telling.Msg.Codes
import Telling.Msg.LayoutSound
import Telling.Msg.RoundTrip
import Telling.Msg.HeaderIteration
import Telling.Msg.Newlines
import Telling.Msg.HeaderClose
import Telling.Msg.Parseable
import Telling.Msg.BodyBytes
import Telling.Msg.Reset
import Telling.Msg.Partial
import Telling.Msg.StartLines
import Telling.Msg.DeclaredLength
import Telling.Msg.Uri
import Telling.Io.SendLoop
import Telling.Io.RecvLoop
import Telling.Io.Reply
import Telling.Io.ReplyOrder
import Telling.Io.ReplyBox
import Telling.Io.RequestProtocol
import Telling.Io.RequestBox
import Telling.Io.Depository
import Telling.Io.QueuedSend
import Telling.Io.Expiry
import Telling.Io.Rearm
import Telling.Http.Terminal
import Telling.Http.Failure
import Telling.Http.Chunks
import Telling.Http.Recycle
import Telling.Http.Box
import Telling.Http.Refusal
import Telling.Server.Disorder
import Telling.Server.Connectors
import Telling.Server.Management
import Telling.Server.HostAddress
import Telling.Server.SocketGroups
import Telling.Server.Cleanup
import Telling.Server.Registration
import Telling.Server.Enrollment
import Telling.Server.Ledger
import Telling.Server.Registry
import Telling.Server.Ingestion
import Telling.Service.Reactor
import Telling.Server.Broadcast
import Telling.Service.Registration
import Telling.Service.Obliging
import Telling.Server.Circuit
import Telling.Io.LastCalls
import Telling.Server.Delivery
import Telling.Io.Contexts
import Telling.Service.Options
import Telling.Server.Conversation
import Telling.Server.Settlement
import Telling.Io.Polling
