import ModbusRs.Library.Outcome
import ModbusRs.Library.Lists
import ModbusRs.Library.Bytes
import ModbusRs.Library.Effect
import ModbusRs.Library.Callback
import ModbusRs.Library.Runs
import ModbusRs.Library.Framing
import ModbusRs.Library.Loops
import ModbusRs.Library.FrameLoop
import ModbusRs.Library.Crc
import ModbusRs.Core.Types
import ModbusRs.Core.Pdu
import ModbusRs.Core.PduFields
import ModbusRs.Core.Layouts
import ModbusRs.Core.Models
import ModbusRs.Core.AddressLaw
import ModbusRs.Core.FileRecords
import ModbusRs.Core.Adu
import ModbusRs.Core.Decode
import ModbusRs.Core.Encode
import ModbusRs.Core.Wire
import ModbusRs.Core.RoundTrip
import ModbusRs.Core.Boundaries
import ModbusRs.Core.Checksum
import ModbusRs.Core.Truncation
import ModbusRs.Core.Transport
import ModbusRs.Core.Retry
import ModbusRs.Server.App
import ModbusRs.Server.Framing
import ModbusRs.Server.Handlers
import ModbusRs.Server.Replies
import ModbusRs.Server.Services
import ModbusRs.Server.Poll
import ModbusRs.Server.Ingest
import ModbusRs.Server.Dispatch
import ModbusRs.Server.Callbacks
import ModbusRs.Server.Addressing
import ModbusRs.Server.Steps
import ModbusRs.Server.Execution
import ModbusRs.Server.RequestQueue
import ModbusRs.Server.ListenOnly
import ModbusRs.Server.Preconditions
import ModbusRs.Server.Effects
import ModbusRs.Server.BroadcastWrites
import ModbusRs.Server.FileRecords
import ModbusRs.Server.AppResults
import ModbusRs.Server.ResponseQueue
import ModbusRs.Server.ResponseOrder
import ModbusRs.Async.Requests
import ModbusRs.Async.TcpTransport
import ModbusRs.Async.Session
import ModbusRs.Async.Callbacks
import ModbusRs.Async.Broadcasts
import ModbusRs.Async.Answers
import ModbusRs.Async.ClientRequests
import ModbusRs.Async.ClientTask
import ModbusRs.Async.ClientIsolation
import ModbusRs.Async.ClientBookkeeping
import ModbusRs.Async.Decoding
import ModbusRs.Async.Retries
import ModbusRs.Async.RequeueOrder
import ModbusRs.Client.Requests
import ModbusRs.Client.Accepted
import ModbusRs.Client.Responses
import ModbusRs.Client.Handlers
import ModbusRs.Client.Calls
import ModbusRs.Client.Delivered
import ModbusRs.Client.Decoding
import ModbusRs.Client.Matching
import ModbusRs.Client.Services
import ModbusRs.Client.Timeouts
import ModbusRs.Client.Moves
import ModbusRs.Client.FailedRequests
import ModbusRs.Client.TimeoutCache
import ModbusRs.Client.Retransmission
import ModbusRs.Client.ReceiveLoops
import ModbusRs.Client.Loopback
import ModbusRs.Gateway.TxnMap
import ModbusRs.Gateway.TxnTables
import ModbusRs.Gateway.RouteTables
import ModbusRs.Gateway.Services
import ModbusRs.Gateway.Steps
import ModbusRs.Gateway.Effects
import ModbusRs.Gateway.AsyncSession
import ModbusRs.Gateway.Transparency
import ModbusRs.Gateway.Bookkeeping
import ModbusRs.Gateway.CrossTalk
import ModbusRs.Gateway.Sessions
import ModbusRs.Gateway.Custody
import ModbusRs.Gateway.Identity
import ModbusRs.Gateway.NoLoss
import ModbusRs.Gateway.Fifo
import ModbusRs.Gateway.Progress
import ModbusRs.Gateway.Upstream
import ModbusRs.Gateway.Resync
import ModbusRs.Gateway.AsyncRounds
import ModbusRs.Gateway.AsyncNoLoss
import ModbusRs.Gateway.AsyncDownstream
import ModbusRs.Gateway.AsyncIsolation
import ModbusRs.Macros.Maps
import ModbusRs.Macros.Reads
import ModbusRs.Macros.App
import ModbusRs.Macros.Writes
import ModbusRs.Macros.BatchWalk
import ModbusRs.Macros.AllOrNothing
import ModbusRs.Macros.Panics
import ModbusRs.Macros.Handle
import ModbusRs.Macros.Crashes
import ModbusRs.Macros.Memory
import ModbusRs.Macros.Traces
