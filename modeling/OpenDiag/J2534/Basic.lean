import OpenDiag.Lib.LittleEndian

/-!
# J2534 status codes, flags and messages

The constants of `j2534.h` that the core and the host share, and the message of the protocol buffer
that both exchange.
-/

namespace OpenDiag.J2534

/-- The status codes of `j2534.h` that the modelled calls return. -/
inductive Status where
  | ok
  | notSupported
  | channel
  | value
  | flags
  | failed
  | timeout
  | msg
  | interval
  | limit
  | msgId
  | ioctl
  | empty
  | full
  | overflow
  | conflict
  | msgProtocol
  | filterId
  | msgNotAllowed
  | notOpen
  | filterType
  | param
  | init
  deriving DecidableEq, Repr

/-- The numeric value of a status. -/
def Status.code : Status → UInt32
  | .ok => 0
  | .notSupported => 1
  | .channel => 2
  | .value => 5
  | .flags => 6
  | .failed => 7
  | .timeout => 9
  | .msg => 10
  | .interval => 11
  | .limit => 12
  | .msgId => 13
  | .ioctl => 15
  | .empty => 16
  | .full => 17
  | .overflow => 18
  | .conflict => 20
  | .msgProtocol => 21
  | .filterId => 22
  | .msgNotAllowed => 23
  | .notOpen => 27
  | .filterType => 29
  | .param => 30
  | .init => 33

/-! The protocols. -/

def protocolVpw : UInt32 := 1
def protocolPwm : UInt32 := 2
def protocolIso9141 : UInt32 := 3
def protocolIso14230 : UInt32 := 4
def protocolCan : UInt32 := 5
def protocolIsotp : UInt32 := 0x200

/-! The flags of a received message's status. -/

def flagTxMsg : UInt32 := 1
def flagStart : UInt32 := 2
def flagBreak : UInt32 := 4
def flagTxSuccess : UInt32 := 8
def flagPadding : UInt32 := 16
def flagError : UInt32 := 32
def flagRxOverflow : UInt32 := 64
def flagAddr : UInt32 := 128
def flag29Bit : UInt32 := 256
def flagTxFailed : UInt32 := 512

/-! The flags of a message to transmit and of a channel. -/

def flagPad : UInt32 := 64
def flagWaitP3 : UInt32 := 512
def flagChecksumDisabled : UInt32 := 512
def flagCanBoth : UInt32 := 2048

/-- `opendiag_Message`. -/
structure Message where
  protocol : UInt32 := 0
  handle : UInt32 := 0
  rxStatus : UInt32 := 0
  txFlags : UInt32 := 0
  timestampUs : UInt32 := 0
  extraDataIndex : UInt32 := 0
  data : List UInt8 := []
  deriving DecidableEq, Repr

end OpenDiag.J2534
