import ZigpySpinel.Python.ZigbeeTypes
import ZigpySpinel.Python.ZigpyTypes

/-!
# Zigbee frames as the Python package reads them (`zigbee_types.py`)

The bit structs of these frames fill whole bytes with their fields, the first field in the
lowest bits. A value of an enumeration that has no name is accepted.
-/

namespace ZigpySpinel.Python
open Lib

/-! ## Network frames -/

/-- The member, or the one `zigpy` makes up, with this value. -/
def ZigbeeNwkFrameType.ofBits (bits : BitVec 2) : ZigbeeNwkFrameType :=
  if bits = 0b00 then .data
  else if bits = 0b01 then .command
  else if bits = 0b10 then .undefined0x02
  else .undefined0x03

def ZigbeeNwkRouteDiscovery.ofBits (bits : BitVec 2) : ZigbeeNwkRouteDiscovery :=
  if bits = 0b00 then .suppress
  else if bits = 0b01 then .enable
  else if bits = 0b10 then .withMulticast
  else .undefined0x03

/-- `ZigbeeNwkFrameControl.deserialize`: 2, 4 and 2 bits, then six flags and 2 bits. -/
def ZigbeeNwkFrameControl.deserialize : Deserializer ZigbeeNwkFrameControl
  | b0 :: b1 :: data =>
    .ok ({
      frameType := .ofBits (BitVec.ofNat 2 b0.toNat)
      protocolVersion := BitVec.ofNat 4 (b0.toNat / 2 ^ 2)
      discoverRoute := .ofBits (BitVec.ofNat 2 (b0.toNat / 2 ^ 6))
      multicast := b1.toNat.testBit 0
      security := b1.toNat.testBit 1
      sourceRoute := b1.toNat.testBit 2
      destination := b1.toNat.testBit 3
      extendedSource := b1.toNat.testBit 4
      endDeviceInitiator := b1.toNat.testBit 5
      reserved := BitVec.ofNat 2 (b1.toNat / 2 ^ 6) }, data)
  | _ => .error (.valueError "")

/-- The source route in `ZigbeeNwkHeader.deserialize` (`zigbee_types.py:256-262`): the relay
    index and the relays. -/
def ZigbeeNwkHeader.deserializeSourceRoute : Deserializer (UInt8 × List Nwk) := fun data => do
  let (relayCount, data) ← uint8Deserialize data
  let (relayIndex, data) ← uint8Deserialize data
  let (sourceRoute, data) ← deserializeTimes nwkDeserialize relayCount.toNat data
  .ok ((relayIndex, sourceRoute), data)

/-- `ZigbeeNwkHeader.deserialize` (`zigbee_types.py:232-278`). -/
def ZigbeeNwkHeader.deserialize : Deserializer ZigbeeNwkHeader := fun data => do
  let (frameControl, data) ← ZigbeeNwkFrameControl.deserialize data
  let (destination, data) ← nwkDeserialize data
  let (source, data) ← nwkDeserialize data
  let (radius, data) ← uint8Deserialize data
  let (sequenceNumber, data) ← uint8Deserialize data
  let (destinationIeee, data) ← deserializeIf frameControl.destination eui64Deserialize data
  let (sourceIeee, data) ← deserializeIf frameControl.extendedSource eui64Deserialize data
  let (multicastControl, data) ← deserializeIf frameControl.multicast uint8Deserialize data
  let (route, data) ← deserializeIf frameControl.sourceRoute deserializeSourceRoute data
  .ok ({
    frameControl := frameControl
    destination := destination
    source := source
    radius := radius
    sequenceNumber := sequenceNumber
    destinationIeee := destinationIeee
    sourceIeee := sourceIeee
    multicastControl := multicastControl
    sourceRouteRelayIndex := route.map (·.1)
    sourceRoute := route.map (·.2) }, data)

def ZigbeeNwkSecurityHeaderKeyId.ofBits (bits : BitVec 2) : ZigbeeNwkSecurityHeaderKeyId :=
  if bits = 0x00 then .dataKey
  else if bits = 0x01 then .networkKey
  else if bits = 0x02 then .keyTransportKey
  else .keyLoadKey

def ZigbeeNwkSecurityLevel.ofBits (bits : BitVec 3) : ZigbeeNwkSecurityLevel :=
  if bits = 0x00 then .noSecurity
  else if bits = 0x01 then .aesCbcMac32
  else if bits = 0x02 then .aesCbcMac64
  else if bits = 0x03 then .aesCbcMac128
  else if bits = 0x04 then .aesCtr
  else if bits = 0x05 then .aesCcm32
  else if bits = 0x06 then .aesCcm64
  else .aesCcm128

/-- `ZigbeeNwkSecurityHeaderControlField.deserialize`: 3, 2, 1 and 2 bits. -/
def ZigbeeNwkSecurityHeaderControlField.deserialize :
    Deserializer ZigbeeNwkSecurityHeaderControlField
  | b :: data =>
    .ok ({
      securityLevel := .ofBits (BitVec.ofNat 3 b.toNat)
      keyId := .ofBits (BitVec.ofNat 2 (b.toNat / 2 ^ 3))
      extendedNonce := b.toNat.testBit 5
      reserved := BitVec.ofNat 2 (b.toNat / 2 ^ 6) }, data)
  | [] => .error (.valueError "")

/-- `ZigbeeNwkAuxHeader.deserialize` (`zigbee_types.py:340-360`). -/
def ZigbeeNwkAuxHeader.deserialize : Deserializer ZigbeeNwkAuxHeader := fun data => do
  let (securityControl, data) ← ZigbeeNwkSecurityHeaderControlField.deserialize data
  let (frameCounter, data) ← uint32Deserialize data
  let (extendedSource, data) ← deserializeIf securityControl.extendedNonce eui64Deserialize data
  let (keySequenceNumber, data) ← uint8Deserialize data
  .ok ({
    securityControl := securityControl
    frameCounter := frameCounter
    extendedSource := extendedSource
    keySequenceNumber := keySequenceNumber }, data)

/-- `ZigbeeNwkFrame.from_bytes` (`zigbee_types.py:395-407`). The frame is an encrypted one,
    whether it is secured or not. -/
def ZigbeeNwkFrame.fromBytes (data : List UInt8) : Except PyException EncryptedZigbeeNwkFrame := do
  let (nwkHeader, data) ← ZigbeeNwkHeader.deserialize data
  let (auxHeader, data) ←
    deserializeIf nwkHeader.frameControl.security ZigbeeNwkAuxHeader.deserialize data
  .ok { nwkHeader := nwkHeader, auxHeader := auxHeader, payload := data }

/-- `ZigbeeNwkFrame.serialize` (`zigbee_types.py:409-417`). -/
def ZigbeeNwkFrame.serialize (frame : ZigbeeNwkFrame) : Except PyException (List UInt8) := do
  let data ← frame.nwkHeader.serialize
  match frame.auxHeader with
  | some auxHeader => do
    let aux ← auxHeader.serialize
    .ok (data ++ aux ++ frame.payload)
  | none => .ok (data ++ frame.payload)

/-! ## Application support frames -/

def ZigbeeApsFrameType.ofBits (bits : BitVec 2) : ZigbeeApsFrameType :=
  if bits = 0b00 then .data
  else if bits = 0b01 then .undefined0x01
  else if bits = 0b10 then .ack
  else .undefined0x03

def ZigbeeApsDeliveryMode.ofBits (bits : BitVec 2) : ZigbeeApsDeliveryMode :=
  if bits = 0b00 then .unicast
  else if bits = 0b01 then .undefined0x01
  else if bits = 0b10 then .broadcast
  else .undefined0x03

/-- `ZigbeeApsFrameControl.deserialize`: 2, 2, 1, 1, 1 and 1 bits. -/
def ZigbeeApsFrameControl.deserialize : Deserializer ZigbeeApsFrameControl
  | b :: data =>
    .ok ({
      frameType := .ofBits (BitVec.ofNat 2 b.toNat)
      deliveryMode := .ofBits (BitVec.ofNat 2 (b.toNat / 2 ^ 2))
      reserved := b.toNat.testBit 4
      security := b.toNat.testBit 5
      ackRequest := b.toNat.testBit 6
      extendedHeader := b.toNat.testBit 7 }, data)
  | [] => .error (.valueError "")

/-- `ZigbeeApsFrame.from_bytes` (`zigbee_types.py:603-621`). -/
def ZigbeeApsFrame.fromBytes (data : List UInt8) : Except PyException ZigbeeApsFrame := do
  let (frameControl, data) ← ZigbeeApsFrameControl.deserialize data
  let (destinationEndpoint, data) ← uint8Deserialize data
  let (clusterId, data) ← uint16Deserialize data
  let (profileId, data) ← uint16Deserialize data
  let (sourceEndpoint, data) ← uint8Deserialize data
  let (counter, data) ← uint8Deserialize data
  .ok {
    frameControl := frameControl
    destinationEndpoint := destinationEndpoint
    clusterId := clusterId
    profileId := profileId
    sourceEndpoint := sourceEndpoint
    counter := counter
    asdu := data }

end ZigpySpinel.Python
