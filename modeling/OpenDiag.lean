import OpenDiag.Ble.Admission
import OpenDiag.Ble.Jobs
import OpenDiag.Bus.Overtake
import OpenDiag.Bus.WorkerOnce
import OpenDiag.Can.Lifecycle
import OpenDiag.Can.Pool
import OpenDiag.Can.Receive
import OpenDiag.Comm.Backlog
import OpenDiag.Comm.Link
import OpenDiag.Elm327.BusRequest
import OpenDiag.Elm327.CanReplies
import OpenDiag.Elm327.Line
import OpenDiag.Elm327.Requests
import OpenDiag.Elm327.TimingBounds
import OpenDiag.Host.Mirroring
import OpenDiag.Isotp.Pacing
import OpenDiag.Isotp.Transfer
import OpenDiag.J1850.Arbitration
import OpenDiag.J1850.CrcErrors
import OpenDiag.J1850.Lifecycle
import OpenDiag.J1850.PwmCodec
import OpenDiag.J1850.PwmGrammar
import OpenDiag.J1850.PwmQuick
import OpenDiag.J1850.PwmStream
import OpenDiag.J1850.VpwGrammar
import OpenDiag.J1850.VpwMonitor
import OpenDiag.J2534.Accepted
import OpenDiag.J2534.ByteBus
import OpenDiag.J2534.Connect
import OpenDiag.J2534.FlowControl
import OpenDiag.J2534.Identifiers
import OpenDiag.J2534.KlineCheck
import OpenDiag.J2534.Repeats
import OpenDiag.J2534.RoundRobin
import OpenDiag.J2534.SingleFrames
import OpenDiag.J2534.Starvation
import OpenDiag.J2534.Tending
import OpenDiag.J2534.Turns
import OpenDiag.J2534.Upkeep
import OpenDiag.J2534.Voltage
import OpenDiag.Kline.Echo
import OpenDiag.Kline.Framing
import OpenDiag.Kline.Handoff
import OpenDiag.Kline.OwedFlags
import OpenDiag.Kline.SyncBaud
import OpenDiag.Legacy.Routing
import OpenDiag.Lib.RoundRobin
import OpenDiag.Slcan.Session
import OpenDiag.Vif.PinSafety
import OpenDiag.Vif.Switching
import OpenDiag.Wire.Bursts
import OpenDiag.Wire.Resync
import OpenDiag.Wire.Transparency
