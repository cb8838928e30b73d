import ZigpySpinel.Python.ZigpyTypes

/-!
# IEEE 802.15.4 frames of the Python package (`zigbee_types.py:19-192`)

The frame control, which governs the fields behind it, the frame and its check sequence. The
header is read from the data with the check sequence still behind it, and the last two of
the bytes that remain are taken off the payload. A bit field starts at the least significant
bit, and a value of an enumeration that has no name is accepted. Integers of `_compute_fcs`
have no width: nothing is cut off, and `to_bytes` raises for what does not fit.
-/

namespace ZigpySpinel.Python
open Lib

/-! ## The frame control -/

/-- `IEEE802154FrameType` (`zigbee_types.py:19-23`). -/
inductive IEEE802154FrameType where
  | beacon
  | data
  | ack
  | command
  | undefined0x04
  | undefined0x05
  | undefined0x06
  | undefined0x07
  deriving DecidableEq, Repr

/-- The value of a frame type. -/
def IEEE802154FrameType.value : IEEE802154FrameType → Nat
  | .beacon => 0b000
  | .data => 0b001
  | .ack => 0b010
  | .command => 0b011
  | .undefined0x04 => 0b100
  | .undefined0x05 => 0b101
  | .undefined0x06 => 0b110
  | .undefined0x07 => 0b111

/-- The member, or the one `zigpy` makes up, with this value. -/
def IEEE802154FrameType.ofBits (bits : BitVec 3) : IEEE802154FrameType :=
  if bits = 0b000 then .beacon
  else if bits = 0b001 then .data
  else if bits = 0b010 then .ack
  else if bits = 0b011 then .command
  else if bits = 0b100 then .undefined0x04
  else if bits = 0b101 then .undefined0x05
  else if bits = 0b110 then .undefined0x06
  else .undefined0x07

/-- `IEEE802154AddressingMode` (`zigbee_types.py:26-29`). -/
inductive IEEE802154AddressingMode where
  | none
  | undefined0x01
  | short
  | long
  deriving DecidableEq, Repr

/-- The value of an addressing mode. -/
def IEEE802154AddressingMode.value : IEEE802154AddressingMode → Nat
  | .none => 0b00
  | .undefined0x01 => 0b01
  | .short => 0b10
  | .long => 0b11

def IEEE802154AddressingMode.ofBits (bits : BitVec 2) : IEEE802154AddressingMode :=
  if bits = 0b00 then .none
  else if bits = 0b01 then .undefined0x01
  else if bits = 0b10 then .short
  else .long

/-- `IEEE802154FrameControl` (`zigbee_types.py:32-43`). -/
structure IEEE802154FrameControl where
  frameType : IEEE802154FrameType
  securityEnabled : Bool
  framePending : Bool
  ackRequest : Bool
  panIdCompression : Bool
  reserved : Bool
  sequenceNumberSuppression : Bool
  informationElementsPresent : Bool
  destAddrMode : IEEE802154AddressingMode
  frameVersion : BitVec 2
  srcAddrMode : IEEE802154AddressingMode
  deriving DecidableEq, Repr

/-- `serialize` of a frame control: 3 bits and five flags, then two flags and three times 2
    bits. -/
def IEEE802154FrameControl.serialize (control : IEEE802154FrameControl) : List UInt8 :=
  [ UInt8.ofNat (control.frameType.value + 2 ^ 3 * control.securityEnabled.toNat +
      2 ^ 4 * control.framePending.toNat + 2 ^ 5 * control.ackRequest.toNat +
      2 ^ 6 * control.panIdCompression.toNat + 2 ^ 7 * control.reserved.toNat),
    UInt8.ofNat (control.sequenceNumberSuppression.toNat +
      2 * control.informationElementsPresent.toNat + 2 ^ 2 * control.destAddrMode.value +
      2 ^ 4 * control.frameVersion.toNat + 2 ^ 6 * control.srcAddrMode.value) ]

/-- The frame control in two bytes. -/
def IEEE802154FrameControl.ofBytes (b0 b1 : UInt8) : IEEE802154FrameControl where
  frameType := .ofBits (BitVec.ofNat 3 b0.toNat)
  securityEnabled := b0.toNat.testBit 3
  framePending := b0.toNat.testBit 4
  ackRequest := b0.toNat.testBit 5
  panIdCompression := b0.toNat.testBit 6
  reserved := b0.toNat.testBit 7
  sequenceNumberSuppression := b1.toNat.testBit 0
  informationElementsPresent := b1.toNat.testBit 1
  destAddrMode := .ofBits (BitVec.ofNat 2 (b1.toNat / 2 ^ 2))
  frameVersion := BitVec.ofNat 2 (b1.toNat / 2 ^ 4)
  srcAddrMode := .ofBits (BitVec.ofNat 2 (b1.toNat / 2 ^ 6))

/-- `IEEE802154FrameControl.deserialize`. -/
def IEEE802154FrameControl.deserialize : Deserializer IEEE802154FrameControl
  | b0 :: b1 :: data => .ok (.ofBytes b0 b1, data)
  | _ => .error (.valueError "")

/-! ## The frame -/

/-- `t.NWK | t.EUI64` -/
inductive Address where
  | nwk (nwk : Nwk)
  | eui64 (eui64 : Eui64)
  deriving DecidableEq, Repr

/-- `serialize` of an address. -/
def Address.serialize : Address → List UInt8
  | .nwk addr => addr.toBytes
  | .eui64 addr => addr.toBytes

/-- `IEEE802154Frame` (`zigbee_types.py:80-89`). -/
structure IEEE802154Frame where
  frameControl : IEEE802154FrameControl
  sequenceNumber : Option UInt8
  destPanId : Option UInt16
  destAddress : Option Address
  srcPanId : Option UInt16
  srcAddress : Option Address
  payload : List UInt8
  fcs : Option (List UInt8)
  deriving DecidableEq, Repr

namespace IEEE802154Frame

/-- The address of an addressing mode. -/
def deserializeAddress : IEEE802154AddressingMode → Deserializer (Option Address)
  | .short, data => do
    let (nwk, data) ← nwkDeserialize data
    .ok (some (.nwk nwk), data)
  | .long, data => do
    let (eui64, data) ← eui64Deserialize data
    .ok (some (.eui64 eui64), data)
  | _, data => .ok (none, data)

/-- Whether an address belongs to an addressing mode. -/
def hasAddress : IEEE802154AddressingMode → Bool
  | .short => true
  | .long => true
  | _ => false

/-- Whether a source PAN id belongs to the header. -/
def hasSrcPanId (control : IEEE802154FrameControl) : Bool :=
  !control.panIdCompression && (control.frameType == .data || control.frameType == .command)

/-- The source PAN id (`zigbee_types.py:114-122`). -/
def deserializeSrcPanId (control : IEEE802154FrameControl) (destPanId : Option UInt16) :
    Deserializer (Option UInt16) := fun data =>
  if control.panIdCompression then .ok (destPanId, data)
  else deserializeIf (control.frameType == .data || control.frameType == .command)
    uint16Deserialize data

/-- `from_bytes` (`zigbee_types.py:91-143`). -/
def fromBytes (data : List UInt8) : Except PyException IEEE802154Frame := do
  let fcs := data.drop (data.length - 2)
  let (frameControl, data) ← IEEE802154FrameControl.deserialize data
  let (sequenceNumber, data) ←
    deserializeIf (!frameControl.sequenceNumberSuppression) uint8Deserialize data
  let (destPanId, data) ←
    deserializeIf (hasAddress frameControl.destAddrMode) uint16Deserialize data
  let (destAddress, data) ← deserializeAddress frameControl.destAddrMode data
  let (srcPanId, data) ← deserializeSrcPanId frameControl destPanId data
  let (srcAddress, data) ← deserializeAddress frameControl.srcAddrMode data
  let payload := data.take (data.length - 2)
  .ok {
    frameControl := frameControl
    sequenceNumber := sequenceNumber
    destPanId := destPanId
    destAddress := destAddress
    srcPanId := srcPanId
    srcAddress := srcAddress
    payload := payload
    fcs := some fcs }

/-! ## The frame check sequence -/

/-- The update of `_compute_fcs` with the low four bits of a number. -/
def fcsNibble (crc c : Nat) : Nat :=
  let q := (crc ^^^ c) &&& 15
  (crc / 16) ^^^ (q * 0x1081)

/-- The body of the loop of `_compute_fcs`: the low-order four bits, then the high four. -/
def fcsByte (crc : Nat) (c : UInt8) : Nat := fcsNibble (fcsNibble crc c.toNat) (c.toNat / 16)

/-- `_compute_fcs` (`zigbee_types.py:181-192`). -/
def computeFcs (data : List UInt8) : Except PyException (List UInt8) :=
  let crc := data.foldl fcsByte 0x0000
  toBytesLittle crc 2

/-! ## Writing -/

/-- `field.serialize()` under a condition: `None` has no such attribute. -/
def serializeIf {α : Type} (condition : Bool) (enc : α → List UInt8) (field : Option α) :
    Except PyException (List UInt8) :=
  match condition with
  | true => do
    let a ← orRaise field .attributeError
    .ok (enc a)
  | false => .ok []

/-- The commands that are written without a source PAN id (`zigbee_types.py:165-168`). -/
def isBeaconRequest (frame : IEEE802154Frame) : Bool :=
  frame.frameControl.frameType == .command && frame.payload == [0x07]

/-- What `serialize` computes the check sequence of (`zigbee_types.py:146-177`). -/
def serializeBody (frame : IEEE802154Frame) : Except PyException (List UInt8) := do
  let control := frame.frameControl
  let sequenceNumber ←
    serializeIf (!control.sequenceNumberSuppression) (fun b => [b]) frame.sequenceNumber
  let destPanId ← serializeIf (hasAddress control.destAddrMode) u16ToLeBytes frame.destPanId
  let destAddress ← serializeIf (hasAddress control.destAddrMode) Address.serialize frame.destAddress
  let srcPanId ←
    serializeIf (hasSrcPanId control && !frame.isBeaconRequest) u16ToLeBytes frame.srcPanId
  let srcAddress ← serializeIf (hasAddress control.srcAddrMode) Address.serialize frame.srcAddress
  .ok (control.serialize ++ sequenceNumber ++ destPanId ++ destAddress ++ srcPanId ++ srcAddress ++
    frame.payload)

/-- `serialize` (`zigbee_types.py:145-179`). -/
def serialize (frame : IEEE802154Frame) : Except PyException (List UInt8) := do
  let data ← frame.serializeBody
  let fcs ← computeFcs data
  .ok (data ++ fcs)

end IEEE802154Frame

end ZigpySpinel.Python
