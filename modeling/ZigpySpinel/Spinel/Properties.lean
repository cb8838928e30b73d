import ZigpySpinel.Spinel.Client
import ZigpySpinel.Spinel.Frame

/-!
# Operations of a client (`spinel_client.rs:14-49`, `220-321`)

`prop_value_get`, `prop_value_set` and `transmit_frame` over `send_command`. What a call of
`send_command` with this command and payload ends with is a parameter: any response that the
dispatcher matched by its transaction id, or one of the errors.
-/

namespace ZigpySpinel.Spinel
open Lib

/-- `SpinelCommandId::PropValueGet as u8` (`spinel.rs:17`). -/
def SpinelCommandId.propValueGet : UInt8 := 2

/-- `SpinelCommandId::PropValueSet as u8` (`spinel.rs:18`). -/
def SpinelCommandId.propValueSet : UInt8 := 3

/-- `SpinelPropertyId::LastStatus as u32` (`spinel.rs:45`). -/
def SpinelPropertyId.lastStatus : UInt32 := 0

/-- `SpinelPropertyId::NcpVersion as u32` (`spinel.rs:47`). -/
def SpinelPropertyId.ncpVersion : UInt32 := 2

/-- `SpinelPropertyId::PhyEnabled as u32` (`spinel.rs:66`). -/
def SpinelPropertyId.phyEnabled : UInt32 := 32

/-- `SpinelPropertyId::PhyChan as u32` (`spinel.rs:67`). -/
def SpinelPropertyId.phyChan : UInt32 := 33

/-- `SpinelPropertyId::MacRawStreamEnabled as u32` (`spinel.rs:83`). -/
def SpinelPropertyId.macRawStreamEnabled : UInt32 := 55

/-- `SpinelPropertyId::MacPromiscuousMode as u32` (`spinel.rs:84`). -/
def SpinelPropertyId.macPromiscuousMode : UInt32 := 56

/-- `SpinelPropertyId::StreamRaw as u32` (`spinel.rs:62`). -/
def SpinelPropertyId.streamRaw : UInt32 := 113

/-- `SpinelTxFrame` (`spinel_client.rs:15-28`). -/
structure SpinelTxFrame where
  psdu : List UInt8
  channel : UInt8
  maxCsmaBackoffs : UInt8
  maxFrameRetries : UInt8
  enableCsmaCa : Bool
  isHeaderUpdated : Bool
  isARetransmit : Bool
  isSecurityProcessed : Bool
  txDelay : UInt32
  txDelayBaseTime : UInt32
  rxChannelAfterTx : UInt8
  txPower : Int8
  deriving DecidableEq, Repr

/-- `SpinelTxFrame::to_bytes` (`spinel_client.rs:31-48`). -/
def SpinelTxFrame.toBytes (frame : SpinelTxFrame) : List UInt8 :=
  u16ToLeBytes (UInt16.ofNat frame.psdu.length) ++ frame.psdu ++ [frame.channel] ++
    [frame.maxCsmaBackoffs] ++ [frame.maxFrameRetries] ++ [frame.enableCsmaCa.toUInt8] ++
    [frame.isHeaderUpdated.toUInt8] ++ [frame.isARetransmit.toUInt8] ++
    [frame.isSecurityProcessed.toUInt8] ++ u32ToLeBytes frame.txDelay ++
    u32ToLeBytes frame.txDelayBaseTime ++ [frame.rxChannelAfterTx] ++ [frame.txPower.toUInt8]

/-- `SpinelSendError` as the operations return it: that of `send_command`, or an `IoError` of
    kind `InvalidData` with the text of the decoder. -/
inductive OperationError where
  | send (error : SpinelSendError)
  | invalidData (message : String)
  deriving DecidableEq, Repr

/-- What `send_command` of a command id and a payload ends with. -/
abbrev SendOutcome : Type := UInt8 → List UInt8 → Except SpinelSendError SpinelFrame

variable (sendCommand : SendOutcome)

/-- `prop_value_get` (`spinel_client.rs:220-240`). The encoder of the property id returns or
    panics, it has no error. -/
def propValueGet (propertyId : UInt32) : Outcome OperationError (List UInt8) := do
  let request ← (packedUint21ToBytes propertyId).mapErr .invalidData
  let response ←
    (Outcome.ofExcept (sendCommand SpinelCommandId.propValueGet request)).mapErr .send
  let (_rspPropertyId, payload) ←
    (packedUint21Deserialize response.payload).mapErr .invalidData
  .ok payload

/-- `prop_value_set` (`spinel_client.rs:242-278`). -/
def propValueSet (propertyId : UInt32) (value : List UInt8) :
    Outcome OperationError (UInt32 × List UInt8) := do
  let request ← (packedUint21ToBytes propertyId).mapErr .invalidData
  let response ←
    (Outcome.ofExcept (sendCommand SpinelCommandId.propValueSet (request ++ value))).mapErr .send
  let (rspPropertyId, payload) ←
    (packedUint21Deserialize response.payload).mapErr .invalidData
  .ok (rspPropertyId, payload)

/-- `transmit_frame` (`spinel_client.rs:295-321`). The checks of the response are commented
    out. -/
def transmitFrame (txFrame : SpinelTxFrame) : Outcome OperationError UInt8 := do
  let (_rspPropId, _rsp) ←
    (propValueSet sendCommand SpinelPropertyId.streamRaw txFrame.toBytes).unwrap
  .ok 1

/-- `trim_matches(char::from(0x00))` -/
def trimNul (text : List Char) : List Char :=
  let isNul := (· == Char.ofNat 0)
  ((text.dropWhile isNul).reverse.dropWhile isNul).reverse

/-- `get_ncp_version` (`spinel_client.rs:281-293`). -/
def getNcpVersion : Outcome OperationError (List Char) := do
  let ncpVersionRsp ← (propValueGet sendCommand SpinelPropertyId.ncpVersion).unwrap
  match String.fromUTF8? ⟨ncpVersionRsp.toArray⟩ with
  | some ncpVersionWithNull => .ok (trimNul ncpVersionWithNull.toList)
  | none => .panic "Invalid UTF-8 string"

end ZigpySpinel.Spinel
