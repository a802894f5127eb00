import RivetGo.Data.Utf8
import RivetGo.Data.MessagePack.Header
import RivetGo.Data.MessagePack.Value
import RivetGo.Data.MessagePack.Record
import RivetGo.Wire.Command
import RivetGo.Native.Command
import RivetGo.Boundary.Command
import RivetGo.Native.Validate
import RivetGo.Boundary.Accept
import RivetGo.Handler.Error
import RivetGo.Handler.Result
import RivetGo.Handler.Presentable
import RivetGo.Sdk.Call
import RivetGo.Sdk.Refinement
import RivetGo.Session.Bytes
import RivetGo.Data.MessagePack.Size
import RivetGo.Wire.Scan
import RivetGo.Wire.Event
import RivetGo.Native.Event
import RivetGo.Boundary.Event
import RivetGo.Boundary.Persist
import RivetGo.Data.Chunk
import RivetGo.Native.Emit
import RivetGo.Wire.Accept
import RivetGo.Boundary.Limits
import RivetGo.Boundary.Emission
import RivetGo.Data.Run
import RivetGo.Pump.Generation
import RivetGo.Pump.Steps
import RivetGo.Pump.Order
import RivetGo.Pump.Phase
import RivetGo.Pump.Tables
import RivetGo.Pump.Local
import RivetGo.Pump.Backpressure
import RivetGo.Pump.EarlyResponse
import RivetGo.Data.Packing
import RivetGo.Native.Sqlite
import RivetGo.Native.SqliteDispatch
import RivetGo.Session.Sqlite
import RivetGo.Data.Correlation
import RivetGo.Session.SqliteBlock
import RivetGo.Session.SqliteCommit
import RivetGo.Session.Transports
import RivetGo.Session.Queue
import RivetGo.Session.ManagedWork
import RivetGo.WebSocket.Acknowledge
import RivetGo.WebSocket.Pairing
import RivetGo.Native.Alarm
import RivetGo.Native.StopFence
import RivetGo.Session.StopFence
import RivetGo.Data.Custody
import RivetGo.Database.Handle
import RivetGo.Database.Custody
import RivetGo.Database.Fence
import RivetGo.Database.Sleep
import RivetGo.Database.Lease
import RivetGo.Http.Writer
import RivetGo.Http.Fidelity
import RivetGo.Pump.Ownership
import RivetGo.Native.Cleanup
import RivetGo.Data.Owned
import RivetGo.Native.Generations
import RivetGo.Session.Save
import RivetGo.Pump.Waiters
import RivetGo.Actor.Worker
import RivetGo.Actor.Turn
import RivetGo.Actor.Release
import RivetGo.Native.Duplicate
import RivetGo.Native.RunHandler
import RivetGo.Native.WsAcknowledgements
import RivetGo.Native.WsOutcome
import RivetGo.Data.Mutex
import RivetGo.Native.SetAlarm
import RivetGo.Http.RequestBody
import RivetGo.Actor.Caller
import RivetGo.Actor.ActionCommit
import RivetGo.Data.MessagePack.Grammar
import RivetGo.Wire.ScanGrammar
import RivetGo.Wire.ScanIndex
import RivetGo.Data.Runes
import RivetGo.Client.ActorKey
import RivetGo.Boundary.ReadOnly
import RivetGo.Data.Bare
import RivetGo.Socket.Codec
import RivetGo.Socket.CodecRoundTrip
import RivetGo.Socket.Encoder
import RivetGo.Socket.EncoderRoundTrip
import RivetGo.Socket.Frame
import RivetGo.Pump.Mailbox
import RivetGo.Native.CorrelationTable
