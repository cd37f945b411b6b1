import FreeIpmi.Fiid.SetGet
import FreeIpmi.Fiid.Gather
import FreeIpmi.Fiid.GetAll
import FreeIpmi.Fiid.RoundTrip
import FreeIpmi.Lib.Cycle
import FreeIpmi.Util.SequenceNumber
import FreeIpmi.Util.Replay
import FreeIpmi.Util.SlidingWindow
import FreeIpmi.Lan.Interface
import FreeIpmi.Lan.Check
import FreeIpmi.Fiid.Append
import FreeIpmi.Fiid.Contents
import FreeIpmi.Lan.Parse
import FreeIpmi.Lan.Verify
import FreeIpmi.Fiid.Front
import FreeIpmi.Lan.RoundTrip
import FreeIpmi.Fiid.Bounds
import FreeIpmi.Lib.LittleEndian
import FreeIpmi.Sdr.Cache
import FreeIpmi.Sdr.CacheCreate
import FreeIpmi.Sdr.CacheRead
import FreeIpmi.Sdr.RoundTrip
import FreeIpmi.Sdr.Safety
import FreeIpmi.Console.Output
import FreeIpmi.Console.Steps
import FreeIpmi.Console.Assemble
import FreeIpmi.Console.Breaks
import FreeIpmi.Console.Network
import FreeIpmi.Console.Delivery
import FreeIpmi.Rmcpplus.Interface
import FreeIpmi.Console.Context
import FreeIpmi.Console.Checks
import FreeIpmi.Console.Receive
import FreeIpmi.Console.Process
import FreeIpmi.Console.Frame
import FreeIpmi.Console.Moves
import FreeIpmi.Console.States
import FreeIpmi.Console.Handlers
import FreeIpmi.Console.Attempts
import FreeIpmi.Console.Teardown
import FreeIpmi.Console.Authenticated
import FreeIpmi.Console.Rakp
import FreeIpmi.Driver.Kcs
import FreeIpmi.Driver.Phases
import FreeIpmi.Driver.Transfer
import FreeIpmi.Driver.Overlong
import FreeIpmi.Driver.Mutex
import FreeIpmi.Driver.Ssif
import FreeIpmi.Api.Fresh
import FreeIpmi.Power.Interface
import FreeIpmi.Power.Check
import FreeIpmi.Power.Powercmd
import FreeIpmi.Power.Moves
import FreeIpmi.Lib.Lanes
import FreeIpmi.Power.Schedule
import FreeIpmi.Power.Report
import FreeIpmi.Lib.Loops
import FreeIpmi.Sel.Parse
import FreeIpmi.Sdr.Reentry
import FreeIpmi.Fru.Iterator
import FreeIpmi.Lan.Fields
import FreeIpmi.Lan.Inspect
import FreeIpmi.Lan.Lossless
import FreeIpmi.Console.Timeouts
import FreeIpmi.Fiid.Written
import FreeIpmi.Lan.Lengths
import FreeIpmi.Rmcpplus.Assemble
import FreeIpmi.Rmcpplus.Payload
import FreeIpmi.Rmcpplus.Lengths
import FreeIpmi.Rmcpplus.Parse
import FreeIpmi.Driver.SsifWrite
import FreeIpmi.Fiid.Dup
import FreeIpmi.Sdr.Chunks
import FreeIpmi.Sdr.Search
import FreeIpmi.Util.Sensor
import FreeIpmi.Api.VerifyPacket
import FreeIpmi.Ipmb.Checksums
import FreeIpmi.Power.Timers
import FreeIpmi.Ipmb.Bridge
import FreeIpmi.Fiid.Bytes
import FreeIpmi.Fru.AreaFields
import FreeIpmi.Lib.Text
import FreeIpmi.Sdr.RecordFields
import FreeIpmi.Sdr.SensorName
import FreeIpmi.Sdr.Stats
import FreeIpmi.Sel.Cursor
import FreeIpmi.Sel.Range
import FreeIpmi.SensorRead.Address
import FreeIpmi.SensorRead.Flags
import FreeIpmi.Config.Checkout
import FreeIpmi.Config.Parse
import FreeIpmi.Config.Reading
import FreeIpmi.Config.RoundTrip
import FreeIpmi.Sel.Format
import FreeIpmi.Util.Shifts
import FreeIpmi.Sdr.Checksums
import FreeIpmi.Fiid.SpanCalls
import FreeIpmi.Fru.ReadData
import FreeIpmi.Fru.TypeLength
import FreeIpmi.Lib.BitJoin
import FreeIpmi.Interpret.SensorState
import FreeIpmi.Locate.Smbios
import FreeIpmi.Locate.SmbiosSafety
import FreeIpmi.Fiid.Receive
import FreeIpmi.Lan.Receive
import FreeIpmi.Rmcpplus.Receive
import FreeIpmi.Api.Rounds
import FreeIpmi.Api.LanCall
import FreeIpmi.Api.Verify20
import FreeIpmi.Api.Lan20Call
import FreeIpmi.Rmcpplus.Asserts
import FreeIpmi.Rmcpplus.Delivered
import FreeIpmi.Power.Inbox
import FreeIpmi.Seld.Runs
