import ZigpySpinel.Lib.Codec

/-!
# Zigbee application support frames (`zigbee_aps.rs`)

The frame control and the frame, with decoder and encoder as they are written: the
decoder reads the two ids with `from_le_bytes`, the encoder writes them with
`to_be_bytes`.
-/

namespace ZigpySpinel.Zigbee
open Lib

/-- `ApsFrameType` (`zigbee_aps.rs:5-10`). -/
inductive ApsFrameType where
  | data
  | command
  | interpan
  deriving DecidableEq, Repr

/-- `frame_type as u8`. -/
def ApsFrameType.toU8 : ApsFrameType → UInt8
  | .data => 0b00
  | .command => 0b10
  | .interpan => 0b11

/-- `ApsFrameType::try_from` (`zigbee_aps.rs:12-23`). -/
def ApsFrameType.tryFrom (value : UInt8) : Outcome String ApsFrameType :=
  if value = 0b00 then .ok .data
  else if value = 0b10 then .ok .command
  else if value = 0b11 then .ok .interpan
  else .err "Invalid APS frame type"

/-- `ApsDeliveryMode` (`zigbee_aps.rs:25-30`). -/
inductive ApsDeliveryMode where
  | unicast
  | broadcast
  | multicast
  deriving DecidableEq, Repr

/-- `delivery_mode as u8`. -/
def ApsDeliveryMode.toU8 : ApsDeliveryMode → UInt8
  | .unicast => 0b00
  | .broadcast => 0b10
  | .multicast => 0b11

/-- `ApsDeliveryMode::try_from` (`zigbee_aps.rs:32-43`). -/
def ApsDeliveryMode.tryFrom (value : UInt8) : Outcome String ApsDeliveryMode :=
  if value = 0b00 then .ok .unicast
  else if value = 0b10 then .ok .broadcast
  else if value = 0b11 then .ok .multicast
  else .err "Invalid APS delivery mode"

/-- `ApsFrameControl` (`zigbee_aps.rs:45-53`). -/
structure ApsFrameControl where
  frameType : ApsFrameType
  deliveryMode : ApsDeliveryMode
  reserved : UInt8
  security : Bool
  ackRequest : Bool
  extendedHeader : Bool
  deriving DecidableEq, Repr

/-- `ApsFrameControl::deserialize` (`zigbee_aps.rs:56-72`). -/
def ApsFrameControl.deserialize : StepDecoder String ApsFrameControl
  | byte :: rest => do
    let frameType ← ApsFrameType.tryFrom ((byte >>> 0) &&& 0b11)
    let deliveryMode ← ApsDeliveryMode.tryFrom ((byte >>> 2) &&& 0b11)
    .ok ({
      frameType := frameType
      deliveryMode := deliveryMode
      reserved := (byte >>> 4) &&& 0b1
      security := (byte >>> 5) &&& 0b1 == 1
      ackRequest := (byte >>> 6) &&& 0b1 == 1
      extendedHeader := (byte >>> 7) &&& 0b1 == 1 }, rest)
  | [] => .err "Not enough data to parse ApsFrameControl"

/-- `ApsFrameControl::to_bytes` (`zigbee_aps.rs:74-81`). -/
def ApsFrameControl.toBytes (control : ApsFrameControl) : List UInt8 :=
  [ ((control.frameType.toU8 &&& 0b11) <<< 0)
      ||| ((control.deliveryMode.toU8 &&& 0b11) <<< 2)
      ||| ((control.reserved &&& 0b1) <<< 4)
      ||| ((control.security.toUInt8 &&& 0b1) <<< 5)
      ||| ((control.ackRequest.toUInt8 &&& 0b1) <<< 6)
      ||| ((control.extendedHeader.toUInt8 &&& 0b1) <<< 7) ]

/-- `ApsFrame` (`zigbee_aps.rs:84-93`). -/
structure ApsFrame where
  frameControl : ApsFrameControl
  destinationEndpoint : UInt8
  clusterId : UInt16
  profileId : UInt16
  sourceEndpoint : UInt8
  counter : UInt8
  asdu : List UInt8
  deriving DecidableEq, Repr

/-- `ApsFrame::from_bytes` (`zigbee_aps.rs:96-118`). -/
def ApsFrame.fromBytes (bytes : List UInt8) : Outcome String ApsFrame :=
  if bytes.length < 8 then .err "Not enough data to parse ApsFrame"
  else do
    let (frameControl, remaining) ← ApsFrameControl.deserialize bytes
    match remaining with
    | r0 :: r1 :: r2 :: r3 :: r4 :: r5 :: r6 :: asdu =>
      .ok {
        frameControl := frameControl
        destinationEndpoint := r0
        clusterId := u16FromLeBytes r1 r2
        profileId := u16FromLeBytes r3 r4
        sourceEndpoint := r5
        counter := r6
        asdu := asdu }
    | _ => .panic "index out of bounds"

/-- `ApsFrame::to_bytes` (`zigbee_aps.rs:120-132`). -/
def ApsFrame.toBytes (frame : ApsFrame) : List UInt8 :=
  frame.frameControl.toBytes ++ [frame.destinationEndpoint] ++ u16ToBeBytes frame.clusterId ++
    u16ToBeBytes frame.profileId ++ [frame.sourceEndpoint] ++ [frame.counter] ++ frame.asdu

end ZigpySpinel.Zigbee
