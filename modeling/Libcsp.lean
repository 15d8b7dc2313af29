import Libcsp.QueueIsolation
import Libcsp.SendOwnership
import Libcsp.SendWindow
import Libcsp.Reassembly
import Libcsp.Retention
import Libcsp.Delivery
import Libcsp.Forwarding
import Libcsp.AcceptedSegment
import Libcsp.Probe
import Libcsp.Kiss
import Libcsp.Datagram
import Libcsp.SenderIsolation
import Libcsp.Survivors
import Libcsp.HeldSlots
import Libcsp.LongestPrefix
import Libcsp.RtableClear
import Libcsp.RtableRoundTrip
import Libcsp.LocalDelivery
import Libcsp.Nexthop
import Libcsp.Enforcement
import Libcsp.RouterOwnership
import Libcsp.Loopback
import Libcsp.QueueFlush
import Libcsp.ConnlessSend
import Libcsp.HeaderCodec
import Libcsp.TrailerPipeline
import Libcsp.BufferPool
import Libcsp.SfpTransfer
import Libcsp.KissResync
import Libcsp.Receivers
import Libcsp.RxFrames
import Libcsp.KissText
import Libcsp.CanText
import Libcsp.Reception
import Libcsp.Tunnel
import Libcsp.Leftovers
import Libcsp.Iflist
import Libcsp.Crc32
import Libcsp.ServiceUses
import Libcsp.Acknowledge
import Libcsp.Duplicates
import Libcsp.PbufWalk
import Libcsp.SfpSafety
import Libcsp.ControlMessages
import Libcsp.EackFlush
import Libcsp.EackTransfer
import Libcsp.SequenceShift
import Libcsp.ReceivedBytes
import Libcsp.CrcTable
import Libcsp.PthreadFifo
import Libcsp.QueueTimeout
import Libcsp.Timeouts
import Libcsp.I2cRoundTrip
import Libcsp.Ping
import Libcsp.Yaml
import Libcsp.KissMemory
import Libcsp.Handshake
import Libcsp.FreshStart
import Libcsp.Hmac
import Libcsp.MutationRuns
import Libcsp.SlotRelease
import Libcsp.StreamSettles
import Libcsp.RemoteMemory
import Libcsp.Hub
import Libcsp.BridgeStorm
import Libcsp.WindowsQueue
import Libcsp.JourneyEnd
