import QuantarBridge.Brandmeister.Conservation
import QuantarBridge.Brandmeister.Frames
import QuantarBridge.Brandmeister.Handshake
import QuantarBridge.Brandmeister.Isolation
import QuantarBridge.Brandmeister.Network
import QuantarBridge.Brandmeister.Queue
import QuantarBridge.Brandmeister.Reconnect
import QuantarBridge.Brandmeister.Session
import QuantarBridge.Brandmeister.StaleBuffer
import QuantarBridge.Brew.Affiliation
import QuantarBridge.Brew.Bridge
import QuantarBridge.Brew.Channel
import QuantarBridge.Brew.Collection
import QuantarBridge.Brew.Downlink
import QuantarBridge.Brew.EventFile
import QuantarBridge.Brew.InboxPass
import QuantarBridge.Brew.Playout
import QuantarBridge.Brew.Release
import QuantarBridge.Brew.Router
import QuantarBridge.Brew.RouterHistory
import QuantarBridge.Brew.Sds
import QuantarBridge.Brew.SdsPdu
import QuantarBridge.Brew.ServiceRoutes
import QuantarBridge.Brew.SmsCommand
import QuantarBridge.Brew.Storage
import QuantarBridge.Brew.TetraBlock
import QuantarBridge.Brew.Uplink
import QuantarBridge.Brew.UplinkLedger
import QuantarBridge.Brew.VoicePath
import QuantarBridge.Brew.Wire
import QuantarBridge.Config.Mappings
import QuantarBridge.Dashboard.AllOrNothing
import QuantarBridge.Dashboard.Auth
import QuantarBridge.Dashboard.ConfigEditor
import QuantarBridge.Dashboard.EditLaws
import QuantarBridge.Dashboard.LineKinds
import QuantarBridge.Dashboard.Lines
import QuantarBridge.Dashboard.LoginLimiter
import QuantarBridge.Dashboard.Position
import QuantarBridge.Dashboard.Settings
import QuantarBridge.Dashboard.SharedConfig
import QuantarBridge.Dashboard.Update
import QuantarBridge.Dashboard.Validation
import QuantarBridge.Dashboard.Values
import QuantarBridge.Dmr.NetData
import QuantarBridge.Lib.Backlog
import QuantarBridge.Lib.Bimap
import QuantarBridge.Lib.Bits
import QuantarBridge.Lib.Block
import QuantarBridge.Lib.Buffer
import QuantarBridge.Lib.Cell
import QuantarBridge.Lib.Checked
import QuantarBridge.Lib.Chunks
import QuantarBridge.Lib.Decimal
import QuantarBridge.Lib.Dict
import QuantarBridge.Lib.Expiry
import QuantarBridge.Lib.FixedWidth
import QuantarBridge.Lib.Flow
import QuantarBridge.Lib.IntText
import QuantarBridge.Lib.Json
import QuantarBridge.Lib.Overlay
import QuantarBridge.Lib.Program
import QuantarBridge.Lib.Rank
import QuantarBridge.Lib.Run
import QuantarBridge.Lib.Slots
import QuantarBridge.Lib.StopAndWait
import QuantarBridge.Lib.StreamText
import QuantarBridge.Lib.TextLines
import QuantarBridge.Lib.Trim
import QuantarBridge.Lib.Utf16
import QuantarBridge.Lib.Utf8
import QuantarBridge.Lib.Walk
import QuantarBridge.Location.Agreement
import QuantarBridge.Location.Fields
import QuantarBridge.Logs.ArsLine
import QuantarBridge.Logs.Followers
import QuantarBridge.P25.ApxInbox
import QuantarBridge.P25.ApxText
import QuantarBridge.P25.Archive
import QuantarBridge.P25.Delivery
import QuantarBridge.P25.FneInbox
import QuantarBridge.P25.Fragments
import QuantarBridge.P25.Host
import QuantarBridge.P25.Inbox
import QuantarBridge.P25.LocationReport
import QuantarBridge.P25.Outbox
import QuantarBridge.P25.Packets
import QuantarBridge.P25.RetrySlot
import QuantarBridge.P25.Session
import QuantarBridge.P25.TextDelivery
import QuantarBridge.P25.TmsMessage
import QuantarBridge.P25.ValidPacket
import QuantarBridge.PacketData.Codec
import QuantarBridge.PacketData.Confirmed
import QuantarBridge.PacketData.Encoder
import QuantarBridge.PacketData.Fill
import QuantarBridge.PacketData.Interference
import QuantarBridge.PacketData.PlainCodec
import QuantarBridge.PacketData.Reassembler
import QuantarBridge.PacketData.Receivable
import QuantarBridge.PacketData.RoundTrip
import QuantarBridge.PacketData.ShortData
import QuantarBridge.PacketData.Transmission
import QuantarBridge.Routing.Downlink
import QuantarBridge.Routing.DynamicRoute
import QuantarBridge.Routing.EmbeddedLC
import QuantarBridge.Routing.Loop
import QuantarBridge.Routing.Persistence
import QuantarBridge.Routing.Reflection
import QuantarBridge.Routing.Restart
import QuantarBridge.Routing.State
import QuantarBridge.Routing.Terminator
import QuantarBridge.Routing.Uplink
import QuantarBridge.Sms.Acknowledgement
import QuantarBridge.Sms.AtMostOnce
import QuantarBridge.Sms.Atomic
import QuantarBridge.Sms.CheckedParsing
import QuantarBridge.Sms.Checksums
import QuantarBridge.Sms.Durable
import QuantarBridge.Sms.Exchange
import QuantarBridge.Sms.Fifo
import QuantarBridge.Sms.Handler
import QuantarBridge.Sms.InboundDocument
import QuantarBridge.Sms.InboundEvent
import QuantarBridge.Sms.IpPacket
import QuantarBridge.Sms.Ipv4Address
import QuantarBridge.Sms.Outbound
import QuantarBridge.Sms.OutboxFile
import QuantarBridge.Sms.OutboxProgress
import QuantarBridge.Sms.OutboxQueue
import QuantarBridge.Sms.ParsedTexts
import QuantarBridge.Sms.Payloads
import QuantarBridge.Sms.PeerText
import QuantarBridge.Sms.Pipeline
import QuantarBridge.Sms.Replies
import QuantarBridge.Sms.Routes
import QuantarBridge.Sms.SafeParsing
import QuantarBridge.Sms.ServerText
import QuantarBridge.Sms.ShortData
import QuantarBridge.Sms.Tms
import QuantarBridge.Sms.Units
import QuantarBridge.Sync.ConfigLaws
import QuantarBridge.Sync.ConfigText
import QuantarBridge.Sync.ListSync
import QuantarBridge.Sync.ListUpdate
import QuantarBridge.Sync.RuntimeConfig
import QuantarBridge.Sync.StaticTalkgroups
import QuantarBridge.Sync.UpdateEnd
import QuantarBridge.V24.Convert
import QuantarBridge.V24.RoundTrip
