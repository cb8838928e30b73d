import ZigpySpinel.Python.PacketCallback

/-!
# Sent packets (`application.py:123-212`)

`send_packet` increments the frame counter, puts the encrypted network frame into an 802.15.4
frame and sends this one. On the 802.15.4 level a packet for a group or a broadcast address goes
to everybody, whatever its network address is. Packets whose destination is a long address are
left out.
-/

namespace ZigpySpinel.Python
open Lib

/-- `t.AddrMode` of a destination with a short address. -/
inductive AddrMode where
  | group
  | nwk
  | broadcast
  deriving DecidableEq, Repr

/-- A packet with the mode of its destination. -/
structure OutgoingPacket extends ZigbeePacket where
  dstAddrMode : AddrMode
  deriving DecidableEq, Repr

/-- `ieee_broadcast` (`application.py:125-128`). -/
def OutgoingPacket.ieeeBroadcast (packet : OutgoingPacket) : Bool :=
  packet.dstAddrMode == .broadcast || packet.dstAddrMode == .group

/-- `dest_address` (`application.py:148`). -/
def OutgoingPacket.destAddress (packet : OutgoingPacket) : Nwk :=
  if packet.ieeeBroadcast then ⟨0xFFFF⟩ else packet.dstAddress

variable (encryptBlock : Key → Block → Block)

/-- The frame of a packet around its network frame (`application.py:132-210`). Its frame control
    is that of the replies. -/
def packetIeeeFrame (app : PacketApp) (packet : OutgoingPacket)
    (nwkFrame : Option DecryptedZigbeeNwkFrame) : Except PyException IEEE802154Frame := do
  let sequenceNumber ← orRaise (uint8T packet.tsn) (.valueError "")
  let nwkFrame ← orRaise nwkFrame (.valueError "")
  let encrypted ← nwkFrame.encrypt encryptBlock app.key
  let payload ← encrypted.serialize
  .ok {
    frameControl := replyFrameControl
    sequenceNumber := some sequenceNumber
    destPanId := some app.panId
    destAddress := some (.nwk packet.destAddress)
    srcPanId := none
    srcAddress := some (.nwk packet.srcAddress)
    payload := payload
    fcs := none }

/-- `send_packet` (`application.py:123-212`). -/
def sendPacket (answers : Answers) (packet : OutgoingPacket) (s : CallbackState) :
    CallbackState × Except PyException Unit :=
  let (app, nwkFrame) := AppState.sendPacket packet.toZigbeePacket s.app.toAppState
  let s := { s with app := { s.app with toAppState := app } }
  match packetIeeeFrame encryptBlock s.app packet nwkFrame with
  | .error e => (s, .error e)
  | .ok frame =>
    match sendSpinelFrame answers frame 5 s with
    | (s, .error e) => (s, .error e)
    | (s, .ok _) => (s, .ok ())

end ZigpySpinel.Python
