import WsNet.Transition.Machine
import WsNet.Transition.Register
import WsNet.Transition.Publication
import WsNet.Data.HashMap
import WsNet.Common.Config
import WsNet.Common.AccessConfig
import WsNet.Common.Identifiers
import WsNet.Common.Selectors
import WsNet.Common.Message
import WsNet.Common.Json
import WsNet.Gateway.App
import WsNet.Gateway.Registry
import WsNet.Gateway.Takeover
import WsNet.Gateway.FirstReason
import WsNet.Gateway.Retirement
import WsNet.Gateway.Provenance
import WsNet.Gateway.Narrowing
import WsNet.Gateway.RuleGrammar
import WsNet.Gateway.RewriteHeader
import WsNet.Gateway.RewriteCookie
import WsNet.Gateway.Reload
import WsNet.Gateway.IterationOrder
import WsNet.Gateway.Lifetime
import WsNet.Gateway.StreamTask
import WsNet.Gateway.Tunnel
import WsNet.Gateway.Cancels
import WsNet.Gateway.RequestBody
import WsNet.Gateway.Replacement
import WsNet.Gateway.Authorization
import WsNet.Gateway.HttpRequest
import WsNet.Gateway.Dialing
import WsNet.Common.TunnelCrypto
import WsNet.Common.SecureChannel
import WsNet.Common.FrameRoundTrip
import WsNet.Common.WsMessage
import WsNet.Common.WriterLoop
import WsNet.Common.WriterBatch
import WsNet.Gateway.Writer
import WsNet.Common.Handshake
import WsNet.Access.Handshake
import WsNet.Access.Downgrade
import WsNet.Gateway.Handshake
import WsNet.Handshake.NonceReuse
import WsNet.Handshake.Agreement
import WsNet.Handshake.Exchange
import WsNet.Access.Connection
import WsNet.Access.Selection
import WsNet.Access.Routing
import WsNet.Access.Identity
import WsNet.Access.StopIdentity
import WsNet.Access.ConfigReload
import WsNet.Access.WatchConfig
import WsNet.Access.Session
import WsNet.Access.Moves
import WsNet.Access.SessionInvariant
import WsNet.Access.Backpressure
import WsNet.Access.Turn
import WsNet.Access.TunnelSession
import WsNet.Access.Isolation
import WsNet.Access.HalfClose
import WsNet.Access.Upload
import WsNet.Access.DroppedRequest
import WsNet.Access.OwnSession
import WsNet.Access.ResponseBody
import WsNet.Access.CleanEnd
import WsNet.Relay.Events
import WsNet.Relay.LocalSide
import WsNet.Relay.LocalStream
import WsNet.Relay.LocalRun
import WsNet.Relay.LocalReceive
import WsNet.Relay.TargetSide
import WsNet.Relay.TargetStream
import WsNet.Relay.TargetRun
import WsNet.Relay.TargetSession
import WsNet.Relay.TargetTask
import WsNet.Relay.TargetInvariant
import WsNet.Relay.LocalTrace
import WsNet.Relay.Pipeline
import WsNet.Relay.PipelineInvariant
import WsNet.Relay.Streams
import WsNet.Relay.ReadFrame
import WsNet.Gateway.OversizedResponse
import WsNet.Gateway.AddUser
import WsNet.Gateway.EditConfig
import WsNet.Gateway.EditHistory
import WsNet.Gateway.EditUsers
import WsNet.Gateway.Control
import WsNet.Gateway.InForce
import WsNet.Gateway.Delivery
import WsNet.Gateway.DeliveryInvariant
import WsNet.Gateway.Backlog
import WsNet.Gateway.QueueTurn
import WsNet.Gateway.Backpressure
