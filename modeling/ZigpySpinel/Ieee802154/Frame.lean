import ZigpySpinel.Types

/-!
# IEEE 802.15.4 frames (`ieee_802154.rs`)

The frame control, the addressing fields that it governs, the payload and the frame check
sequence over all of them. A decoder returns the value with the bytes that remain; an index
past the end is a panic.
-/

namespace ZigpySpinel.Ieee802154
open Lib

/-- `Ieee802154FrameType` (`ieee_802154.rs:6-12`). -/
inductive Ieee802154FrameType where
  | beacon
  | data
  | command
  | ack
  deriving DecidableEq, Repr

/-- `frame_type as u8`. -/
def Ieee802154FrameType.toU8 : Ieee802154FrameType → UInt8
  | .beacon => 0b000
  | .data => 0b001
  | .command => 0b011
  | .ack => 0b010

/-- `Ieee802154FrameType::try_from` (`ieee_802154.rs:14-26`). -/
def Ieee802154FrameType.tryFrom (value : UInt8) : Outcome String Ieee802154FrameType :=
  if value = 0b000 then .ok .beacon
  else if value = 0b001 then .ok .data
  else if value = 0b011 then .ok .command
  else if value = 0b010 then .ok .ack
  else .err "Invalid frame type"

/-- `Ieee802154AddressingMode` (`ieee_802154.rs:28-33`). -/
inductive Ieee802154AddressingMode where
  | none
  | short
  | long
  deriving DecidableEq, Repr

/-- `dest_addr_mode as u8` and `src_addr_mode as u8`. -/
def Ieee802154AddressingMode.toU8 : Ieee802154AddressingMode → UInt8
  | .none => 0b00
  | .short => 0b10
  | .long => 0b11

/-- `Ieee802154AddressingMode::try_from` (`ieee_802154.rs:35-46`). -/
def Ieee802154AddressingMode.tryFrom (value : UInt8) : Outcome String Ieee802154AddressingMode :=
  if value = 0b00 then .ok .none
  else if value = 0b10 then .ok .short
  else if value = 0b11 then .ok .long
  else .err "Invalid addressing mode"

/-- `Ieee802154FrameControl` (`ieee_802154.rs:48-61`). -/
structure Ieee802154FrameControl where
  frameType : Ieee802154FrameType
  securityEnabled : Bool
  framePending : Bool
  ackRequest : Bool
  panIdCompression : Bool
  reserved : Bool
  sequenceNumberSuppression : Bool
  informationElementsPresent : Bool
  destAddrMode : Ieee802154AddressingMode
  frameVersion : UInt8
  srcAddrMode : Ieee802154AddressingMode
  deriving DecidableEq, Repr

/-- `Ieee802154FrameControl::deserialize` (`ieee_802154.rs:64-85`). -/
def Ieee802154FrameControl.deserialize : StepDecoder String Ieee802154FrameControl
  | b0 :: b1 :: rest => do
    let frameType ← Ieee802154FrameType.tryFrom (b0 &&& 0b00000111)
    let destAddrMode ← Ieee802154AddressingMode.tryFrom ((b1 >>> 2) &&& 0b00000011)
    let srcAddrMode ← Ieee802154AddressingMode.tryFrom ((b1 >>> 6) &&& 0b00000011)
    .ok ({
      frameType := frameType
      securityEnabled := (b0 &&& 0b00001000) != 0
      framePending := (b0 &&& 0b00010000) != 0
      ackRequest := (b0 &&& 0b00100000) != 0
      panIdCompression := (b0 &&& 0b01000000) != 0
      reserved := (b0 &&& 0b10000000) != 0
      sequenceNumberSuppression := (b1 &&& 0b00000001) != 0
      informationElementsPresent := (b1 &&& 0b00000010) != 0
      destAddrMode := destAddrMode
      frameVersion := (b1 >>> 4) &&& 0b00000011
      srcAddrMode := srcAddrMode }, rest)
  | _ => .err "Not enough data to parse Ieee802154FrameControl"

/-- `Ieee802154FrameControl::to_bytes` (`ieee_802154.rs:87-102`). -/
def Ieee802154FrameControl.toBytes (control : Ieee802154FrameControl) : List UInt8 :=
  [ (control.frameType.toU8 <<< 0)
      ||| (control.securityEnabled.toUInt8 <<< 3)
      ||| (control.framePending.toUInt8 <<< 4)
      ||| (control.ackRequest.toUInt8 <<< 5)
      ||| (control.panIdCompression.toUInt8 <<< 6)
      ||| (control.reserved.toUInt8 <<< 7),
    (control.sequenceNumberSuppression.toUInt8 <<< 0)
      ||| (control.informationElementsPresent.toUInt8 <<< 1)
      ||| (control.destAddrMode.toU8 <<< 2)
      ||| (control.frameVersion <<< 4)
      ||| (control.srcAddrMode.toU8 <<< 6) ]

/-- `Ieee802154Address` (`ieee_802154.rs:138-142`). -/
inductive Ieee802154Address where
  | nwk (nwk : Nwk)
  | eui64 (eui64 : Eui64)
  deriving DecidableEq, Repr

/-- The bytes of an address (`ieee_802154.rs:270-273`, `284-287`). -/
def Ieee802154Address.toBytes : Ieee802154Address → List UInt8
  | .nwk addr => addr.toBytes
  | .eui64 addr => addr.toBytes

/-- `Ieee802154Frame` (`ieee_802154.rs:144-156`). -/
structure Ieee802154Frame where
  frameControl : Ieee802154FrameControl
  sequenceNumber : Option UInt8
  destPanId : Option PanId
  destAddress : Option Ieee802154Address
  srcPanId : Option PanId
  srcAddress : Option Ieee802154Address
  payload : List UInt8
  fcs : UInt16
  deriving DecidableEq, Repr

namespace Ieee802154Frame

/-! ## The frame check sequence -/

/-- The update of `compute_fcs` with the low four bits of a byte. -/
def fcsNibble (crc : UInt16) (c : UInt8) : UInt16 :=
  let q : UInt8 := ((crc &&& 0x0F).toUInt8 ^^^ c) &&& 0x0F
  (crc >>> 4) ^^^ (q.toUInt16 * 0x1081)

/-- The body of the loop of `compute_fcs`: the low four bits of the byte, then the high ones. -/
def fcsByte (crc : UInt16) (c : UInt8) : UInt16 := fcsNibble (fcsNibble crc (c >>> 0)) (c >>> 4)

/-- `compute_fcs` (`ieee_802154.rs:299-311`). -/
def computeFcs (data : List UInt8) : UInt16 := data.foldl fcsByte 0x0000

/-! ## Decoding -/

/-- The address of an addressing mode. -/
def deserializeAddress : Ieee802154AddressingMode → StepDecoder String (Option Ieee802154Address)
  | .short, remaining => do
    let (nwk, remaining) ← Nwk.deserialize remaining
    .ok (some (.nwk nwk), remaining)
  | .long, remaining => do
    let (eui64, remaining) ← Eui64.deserialize remaining
    .ok (some (.eui64 eui64), remaining)
  | .none, remaining => .ok (none, remaining)

/-- The source PAN id (`ieee_802154.rs:208-217`): with compression it is that of the
    destination. -/
def deserializeSrcPanId (control : Ieee802154FrameControl) (destPanId : Option PanId) :
    StepDecoder String (Option PanId) := fun remaining =>
  if control.panIdCompression then .ok (destPanId, remaining)
  else decodeOptional (control.frameType == .data) PanId.deserialize remaining

/-- The fields behind the check of the frame check sequence (`ieee_802154.rs:171-243`). -/
def deserializeFields (remaining : List UInt8) (fcs : UInt16) : Outcome String Ieee802154Frame := do
  let (frameControl, remaining) ← Ieee802154FrameControl.deserialize remaining
  let (sequenceNumber, remaining) ←
    decodeOptional (!frameControl.sequenceNumberSuppression) takeByte remaining
  -- the PAN id of the destination is there whenever its address is
  let (destPanId, remaining) ←
    decodeOptional (frameControl.destAddrMode != .none) PanId.deserialize remaining
  let (destAddress, remaining) ← deserializeAddress frameControl.destAddrMode remaining
  let (srcPanId, remaining) ← deserializeSrcPanId frameControl destPanId remaining
  let (srcAddress, remaining) ← deserializeAddress frameControl.srcAddrMode remaining
  .ok {
    frameControl := frameControl
    sequenceNumber := sequenceNumber
    destPanId := destPanId
    destAddress := destAddress
    srcPanId := srcPanId
    srcAddress := srcAddress
    payload := remaining
    fcs := fcs }

/-- `Ieee802154Frame::from_bytes` (`ieee_802154.rs:159-244`). -/
def fromBytes (data : List UInt8) : Outcome String Ieee802154Frame :=
  if data.length < 2 + 2 then .err "Data too short to contain a frame"
  else
    match data.drop (data.length - 2) with
    | [lo, hi] =>
      let fcs := u16FromLeBytes lo hi
      let remaining := data.take (data.length - 2)
      if computeFcs remaining ≠ fcs then .err "Invalid FCS"
      else deserializeFields remaining fcs
    -- not reached: the data has at least four bytes
    | _ => .panic "index out of bounds"

/-- `Ieee802154Frame::from_bytes_without_fcs` (`ieee_802154.rs:246-252`). -/
def fromBytesWithoutFcs (data : List UInt8) : Outcome String Ieee802154Frame :=
  fromBytes (data ++ u16ToLeBytes (computeFcs data))

/-! ## Encoding -/

/-- The bytes that `to_bytes` computes the frame check sequence of (`ieee_802154.rs:255-291`). -/
def body (frame : Ieee802154Frame) : List UInt8 :=
  frame.frameControl.toBytes ++
    encodeOptional (fun seq => [seq]) frame.sequenceNumber ++
    encodeOptional PanId.toBytes frame.destPanId ++
    encodeOptional Ieee802154Address.toBytes frame.destAddress ++
    (if !frame.frameControl.panIdCompression then encodeOptional PanId.toBytes frame.srcPanId
      else []) ++
    encodeOptional Ieee802154Address.toBytes frame.srcAddress ++
    frame.payload

/-- `Ieee802154Frame::to_bytes` (`ieee_802154.rs:254-297`). -/
def toBytes (frame : Ieee802154Frame) : List UInt8 :=
  frame.body ++ u16ToLeBytes (computeFcs frame.body)

end Ieee802154Frame

end ZigpySpinel.Ieee802154
