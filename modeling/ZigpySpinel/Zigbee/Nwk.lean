import ZigpySpinel.Types

/-!
# Zigbee network frames (`zigbee_nwk.rs`)

The network header with its bit-packed frame control and its optional fields, the
auxiliary security header, and the frame. A decoder returns the value with the bytes that
remain, an index past the end is a panic, and `to_bytes` of a source route panics when
its relay count does not match.
-/

namespace ZigpySpinel.Zigbee
open Lib

/-- `NwkFrameType` (`zigbee_nwk.rs:18-23`). -/
inductive NwkFrameType where
  | data
  | command
  | interpan
  deriving DecidableEq, Repr

/-- `frame_type as u8`. -/
def NwkFrameType.toU8 : NwkFrameType → UInt8
  | .data => 0b00
  | .command => 0b01
  | .interpan => 0b11

/-- `NwkFrameType::try_from` (`zigbee_nwk.rs:25-36`). -/
def NwkFrameType.tryFrom (value : UInt8) : Outcome String NwkFrameType :=
  if value = 0b00 then .ok .data
  else if value = 0b01 then .ok .command
  else if value = 0b11 then .ok .interpan
  else .err "Invalid frame type"

/-- `NwkRouteDiscovery` (`zigbee_nwk.rs:38-43`). -/
inductive NwkRouteDiscovery where
  | suppress
  | enable
  | withMulticast
  deriving DecidableEq, Repr

/-- `discover_route as u8`. -/
def NwkRouteDiscovery.toU8 : NwkRouteDiscovery → UInt8
  | .suppress => 0b00
  | .enable => 0b01
  | .withMulticast => 0b10

/-- `NwkRouteDiscovery::try_from` (`zigbee_nwk.rs:45-56`). -/
def NwkRouteDiscovery.tryFrom (value : UInt8) : Outcome String NwkRouteDiscovery :=
  if value = 0b00 then .ok .suppress
  else if value = 0b01 then .ok .enable
  else if value = 0b10 then .ok .withMulticast
  else .err "Invalid route discovery"

/-- `NwkFrameControl` (`zigbee_nwk.rs:58-70`). -/
structure NwkFrameControl where
  frameType : NwkFrameType
  protocolVersion : UInt8
  discoverRoute : NwkRouteDiscovery
  multicast : Bool
  security : Bool
  sourceRoute : Bool
  destination : Bool
  extendedSource : Bool
  endDeviceInitiator : Bool
  reserved : UInt8
  deriving DecidableEq, Repr

/-- `NwkFrameControl::deserialize` (`zigbee_nwk.rs:73-93`). -/
def NwkFrameControl.deserialize : StepDecoder String NwkFrameControl
  | b0 :: b1 :: rest => do
    let frameType ← NwkFrameType.tryFrom ((b0 >>> 0) &&& 0b11)
    let discoverRoute ← NwkRouteDiscovery.tryFrom ((b0 >>> 6) &&& 0b11)
    .ok ({
      frameType := frameType
      protocolVersion := (b0 >>> 2) &&& 0b1111
      discoverRoute := discoverRoute
      multicast := (b1 >>> 0) &&& 0b1 == 1
      security := (b1 >>> 1) &&& 0b1 == 1
      sourceRoute := (b1 >>> 2) &&& 0b1 == 1
      destination := (b1 >>> 3) &&& 0b1 == 1
      extendedSource := (b1 >>> 4) &&& 0b1 == 1
      endDeviceInitiator := (b1 >>> 5) &&& 0b1 == 1
      reserved := (b1 >>> 6) &&& 0b11 }, rest)
  | _ => .err "Not enough data to parse NwkFrameControl"

/-- `NwkFrameControl::to_bytes` (`zigbee_nwk.rs:95-108`). -/
def NwkFrameControl.toBytes (control : NwkFrameControl) : List UInt8 :=
  [ ((control.frameType.toU8 &&& 0b11) <<< 0)
      ||| ((control.protocolVersion &&& 0b1111) <<< 2)
      ||| ((control.discoverRoute.toU8 &&& 0b11) <<< 6),
    ((control.multicast.toUInt8 &&& 0b1) <<< 0)
      ||| ((control.security.toUInt8 &&& 0b1) <<< 1)
      ||| ((control.sourceRoute.toUInt8 &&& 0b1) <<< 2)
      ||| ((control.destination.toUInt8 &&& 0b1) <<< 3)
      ||| ((control.extendedSource.toUInt8 &&& 0b1) <<< 4)
      ||| ((control.endDeviceInitiator.toUInt8 &&& 0b1) <<< 5)
      ||| ((control.reserved &&& 0b11) <<< 6) ]

/-- `NwkSourceRoute` (`zigbee_nwk.rs:111-116`). -/
structure NwkSourceRoute where
  relayCount : UInt8
  relayIndex : UInt8
  relays : List Nwk
  deriving DecidableEq, Repr

/-- `NwkSourceRoute::deserialize` (`zigbee_nwk.rs:119-144`). -/
def NwkSourceRoute.deserialize : StepDecoder String NwkSourceRoute
  | relayCount :: relayIndex :: remaining => do
    let (relays, remaining) ← decodeTimes Nwk.deserialize relayCount.toNat remaining
    .ok ({ relayCount := relayCount, relayIndex := relayIndex, relays := relays }, remaining)
  | _ => .err "Not enough data to parse NwkSourceRoute"

/-- `NwkSourceRoute::to_bytes` (`zigbee_nwk.rs:146-161`). -/
def NwkSourceRoute.toBytes (route : NwkSourceRoute) : Outcome String (List UInt8) :=
  if route.relayCount ≠ UInt8.ofNat route.relays.length then
    .panic "Relay count does not match number of relays"
  else .ok ([route.relayCount] ++ [route.relayIndex] ++ route.relays.flatMap Nwk.toBytes)

/-- `NwkHeader` (`zigbee_nwk.rs:164-175`). -/
structure NwkHeader where
  frameControl : NwkFrameControl
  destination : Nwk
  source : Nwk
  radius : UInt8
  sequenceNumber : UInt8
  destinationIeee : Option Eui64
  sourceIeee : Option Eui64
  multicastControl : Option UInt8
  sourceRoute : Option NwkSourceRoute
  deriving DecidableEq, Repr

/-- `NwkHeader::deserialize` (`zigbee_nwk.rs:178-250`). -/
def NwkHeader.deserialize (bytes : List UInt8) : Outcome String (NwkHeader × List UInt8) :=
  if bytes.length < 8 then .err "Not enough data to parse NwkHeader"
  else do
    let remaining := bytes
    let (frameControl, remaining) ← NwkFrameControl.deserialize remaining
    let (destination, remaining) ← Nwk.deserialize remaining
    let (source, remaining) ← Nwk.deserialize remaining
    let (radius, remaining) ← takeByte remaining
    let (sequenceNumber, remaining) ← takeByte remaining
    let (destinationIeee, remaining) ←
      decodeOptional frameControl.destination Eui64.deserialize remaining
    let (sourceIeee, remaining) ←
      decodeOptional frameControl.extendedSource Eui64.deserialize remaining
    let (multicastControl, remaining) ← decodeOptional frameControl.multicast takeByte remaining
    let (sourceRoute, remaining) ←
      decodeOptional frameControl.sourceRoute NwkSourceRoute.deserialize remaining
    .ok ({
      frameControl := frameControl
      destination := destination
      source := source
      radius := radius
      sequenceNumber := sequenceNumber
      destinationIeee := destinationIeee
      sourceIeee := sourceIeee
      multicastControl := multicastControl
      sourceRoute := sourceRoute }, remaining)

/-- `NwkHeader::to_bytes` (`zigbee_nwk.rs:252-278`). -/
def NwkHeader.toBytes (header : NwkHeader) : Outcome String (List UInt8) := do
  let bytes := header.frameControl.toBytes
  let bytes := bytes ++ header.destination.toBytes
  let bytes := bytes ++ header.source.toBytes
  let bytes := bytes ++ [header.radius]
  let bytes := bytes ++ [header.sequenceNumber]
  let bytes := bytes ++ encodeOptional Eui64.toBytes header.destinationIeee
  let bytes := bytes ++ encodeOptional Eui64.toBytes header.sourceIeee
  let bytes := bytes ++ encodeOptional (fun control => [control]) header.multicastControl
  match header.sourceRoute with
  | some sourceRoute => do
    let route ← sourceRoute.toBytes
    .ok (bytes ++ route)
  | none => .ok bytes

/-! ## The auxiliary security header -/

/-- `NwkSecurityHeaderKeyId` (`zigbee_nwk.rs:281-287`). -/
inductive NwkSecurityHeaderKeyId where
  | dataKey
  | networkKey
  | keyTransportKey
  | keyLoadKey
  deriving DecidableEq, Repr

/-- `key_id as u8`. -/
def NwkSecurityHeaderKeyId.toU8 : NwkSecurityHeaderKeyId → UInt8
  | .dataKey => 0x00
  | .networkKey => 0x01
  | .keyTransportKey => 0x02
  | .keyLoadKey => 0x03

/-- `NwkSecurityHeaderKeyId::try_from` (`zigbee_nwk.rs:289-301`). -/
def NwkSecurityHeaderKeyId.tryFrom (value : UInt8) : Outcome String NwkSecurityHeaderKeyId :=
  if value = 0x00 then .ok .dataKey
  else if value = 0x01 then .ok .networkKey
  else if value = 0x02 then .ok .keyTransportKey
  else if value = 0x03 then .ok .keyLoadKey
  else .err "Invalid Nwk security header key ID"

/-- `NwkSecurityLevel` (`zigbee_nwk.rs:303-313`). -/
inductive NwkSecurityLevel where
  | noSecurity
  | mic32
  | mic64
  | mic128
  | enc
  | encMic32
  | encMic64
  | encMic128
  deriving DecidableEq, Repr

/-- `security_level as u8`. -/
def NwkSecurityLevel.toU8 : NwkSecurityLevel → UInt8
  | .noSecurity => 0x00
  | .mic32 => 0x01
  | .mic64 => 0x02
  | .mic128 => 0x03
  | .enc => 0x04
  | .encMic32 => 0x05
  | .encMic64 => 0x06
  | .encMic128 => 0x07

/-- `NwkSecurityLevel::try_from` (`zigbee_nwk.rs:315-331`). -/
def NwkSecurityLevel.tryFrom (value : UInt8) : Outcome String NwkSecurityLevel :=
  if value = 0x00 then .ok .noSecurity
  else if value = 0x01 then .ok .mic32
  else if value = 0x02 then .ok .mic64
  else if value = 0x03 then .ok .mic128
  else if value = 0x04 then .ok .enc
  else if value = 0x05 then .ok .encMic32
  else if value = 0x06 then .ok .encMic64
  else if value = 0x07 then .ok .encMic128
  else .err "Invalid Nwk security level"

/-- `NwkSecurityHeaderControlField` (`zigbee_nwk.rs:333-340`). -/
structure NwkSecurityHeaderControlField where
  securityLevel : NwkSecurityLevel
  keyId : NwkSecurityHeaderKeyId
  extendedSource : Bool
  requireVerifiedFrameCounter : Bool
  reserved : UInt8
  deriving DecidableEq, Repr

/-- `NwkSecurityHeaderControlField::deserialize` (`zigbee_nwk.rs:343-358`). -/
def NwkSecurityHeaderControlField.deserialize : StepDecoder String NwkSecurityHeaderControlField
  | byte :: rest => do
    let securityLevel ← NwkSecurityLevel.tryFrom ((byte >>> 0) &&& 0b111)
    let keyId ← NwkSecurityHeaderKeyId.tryFrom ((byte >>> 3) &&& 0b11)
    .ok ({
      securityLevel := securityLevel
      keyId := keyId
      extendedSource := (byte >>> 5) &&& 0b1 == 1
      requireVerifiedFrameCounter := (byte >>> 6) &&& 0b1 == 1
      reserved := (byte >>> 7) &&& 0b1 }, rest)
  | [] => .err "Not enough data to parse NwkSecurityHeaderControlField"

/-- `NwkSecurityHeaderControlField::to_bytes` (`zigbee_nwk.rs:360-366`). -/
def NwkSecurityHeaderControlField.toBytes (control : NwkSecurityHeaderControlField) :
    List UInt8 :=
  [ (control.securityLevel.toU8 &&& (0b111 : UInt8))
      ||| ((control.keyId.toU8 &&& 0b11) <<< 3)
      ||| (control.extendedSource.toUInt8 <<< 5)
      ||| (control.requireVerifiedFrameCounter.toUInt8 <<< 6)
      ||| ((control.reserved &&& 0b1) <<< 7) ]

/-- `NwkAuxHeader` (`zigbee_nwk.rs:369-375`). -/
structure NwkAuxHeader where
  securityControl : NwkSecurityHeaderControlField
  frameCounter : UInt32
  extendedSource : Option Eui64
  keySequenceNumber : UInt8
  deriving DecidableEq, Repr

/-- `u32::from_le_bytes([remaining[0], …, remaining[3]])` together with
    `remaining = &remaining[4..]`: past the end the index panics. -/
def takeU32Le : StepDecoder String UInt32
  | b0 :: b1 :: b2 :: b3 :: rest => .ok (u32FromLeBytes b0 b1 b2 b3, rest)
  | _ => .panic "index out of bounds"

/-- `NwkAuxHeader::deserialize` (`zigbee_nwk.rs:378-412`). -/
def NwkAuxHeader.deserialize (bytes : List UInt8) : Outcome String (NwkAuxHeader × List UInt8) :=
  if bytes.length < 6 then .err "Not enough data to parse NwkAuxHeader"
  else do
    let remaining := bytes
    let (securityControl, remaining) ← NwkSecurityHeaderControlField.deserialize remaining
    let (frameCounter, remaining) ← takeU32Le remaining
    let (extendedSource, remaining) ←
      decodeOptional securityControl.extendedSource Eui64.deserialize remaining
    let (keySequenceNumber, remaining) ← takeByte remaining
    .ok ({
      securityControl := securityControl
      frameCounter := frameCounter
      extendedSource := extendedSource
      keySequenceNumber := keySequenceNumber }, remaining)

/-- `NwkAuxHeader::to_bytes` (`zigbee_nwk.rs:414-427`). -/
def NwkAuxHeader.toBytes (header : NwkAuxHeader) : List UInt8 :=
  header.securityControl.toBytes ++ u32ToLeBytes header.frameCounter ++
    encodeOptional Eui64.toBytes header.extendedSource ++ [header.keySequenceNumber]

/-! ## Frames -/

/-- `NwkFrame` (`zigbee_nwk.rs:545-553`). -/
structure NwkFrame where
  nwkHeader : NwkHeader
  auxHeader : Option NwkAuxHeader
  payload : List UInt8
  encrypted : Bool
  deriving DecidableEq, Repr

/-- `NwkFrame::from_bytes` (`zigbee_nwk.rs:556-577`). -/
def NwkFrame.fromBytes (bytes : List UInt8) : Outcome String NwkFrame := do
  let (nwkHeader, remaining) ← NwkHeader.deserialize bytes
  let (auxHeader, remaining) ←
    decodeOptional nwkHeader.frameControl.security NwkAuxHeader.deserialize remaining
  let encrypted := nwkHeader.frameControl.security
  .ok { nwkHeader := nwkHeader, auxHeader := auxHeader, payload := remaining, encrypted := encrypted }

/-- `NwkFrame::to_bytes` (`zigbee_nwk.rs:579-591`). -/
def NwkFrame.toBytes (frame : NwkFrame) : Outcome String (List UInt8) := do
  let bytes ← frame.nwkHeader.toBytes
  let bytes := bytes ++ encodeOptional NwkAuxHeader.toBytes frame.auxHeader
  .ok (bytes ++ frame.payload)

end ZigpySpinel.Zigbee
