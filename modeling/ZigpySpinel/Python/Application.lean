import ZigpySpinel.Python.ZigbeeTypes

/-!
# Network frames of the Python application (`zigbee/application.py`)

The application encrypts network frames in three places. Each of them increments the frame
counter, then builds its frame; a conversion that raises leaves the counter incremented.
-/

namespace ZigpySpinel.Python
open Lib

/-- What the frames are built from: the network key and the node of
    `self.state` (`application.py:565-630`). -/
structure AppState where
  key : Key
  txCounter : Int
  seq : Int
  nwk : Nwk
  ieee : Eui64
  deriving DecidableEq, Repr

/-- A packet as `send_packet` gets it. The numbers are converted when the frame is built. -/
structure ZigbeePacket where
  srcAddress : Nwk
  dstAddress : Nwk
  radius : Int
  tsn : Int
  srcEp : Int
  dstEp : Int
  clusterId : Int
  profileId : Int
  ackRequested : Bool
  data : List UInt8
  deriving DecidableEq, Repr

namespace AppState

/-- `ieee` of the node, `"00:12:4b:00:1c:a1:b8:46"`, lowest byte first. -/
def nodeIeee : Eui64 where
  value := ⟨[0x46, 0xb8, 0xa1, 0x1c, 0x00, 0x4b, 0x12, 0x00], rfl⟩

/-- `load_network_info` (`application.py:565-630`) with the number in the file. -/
def loadNetworkInfo (frameCounter : Int) : AppState where
  key := ⟨[0x3e, 0x38, 0x3b, 0xad, 0x1c, 0x31, 0xd7, 0x21, 0x3b, 0x9c, 0xb3, 0x3f, 0x92, 0xf3,
    0x76, 0x93], rfl⟩
  txCounter := frameCounter + 1000
  seq := 0
  nwk := ⟨0x0000⟩
  ieee := nodeIeee

/-- The security control that all three places give to the auxiliary header. -/
def securityControl : ZigbeeNwkSecurityHeaderControlField where
  securityLevel := .noSecurity
  keyId := .networkKey
  extendedNonce := true
  reserved := 0b00

/-- The auxiliary header that all three places build (`application.py:175-189`, `374-388`,
    `468-482`). -/
def auxHeader (app : AppState) : Option ZigbeeNwkAuxHeader := do
  let frameCounter ← uint32T app.txCounter
  let keySequenceNumber ← uint8T app.seq
  some {
    securityControl := securityControl
    frameCounter := frameCounter
    extendedSource := some app.ieee
    keySequenceNumber := keySequenceNumber }

/-- `tx_counter += 1` -/
def increment (app : AppState) : AppState := { app with txCounter := app.txCounter + 1 }

/-- The network frame of `send_packet` (`application.py:151-207`). -/
def packetFrame (app : AppState) (packet : ZigbeePacket) : Option DecryptedZigbeeNwkFrame := do
  let radius ← uint8T (if packet.radius = 0 then 30 else packet.radius)
  let sequenceNumber ← uint8T packet.tsn
  let auxHeader ← app.auxHeader
  let destinationEndpoint ← uint8T packet.dstEp
  let clusterId ← uint16T packet.clusterId
  let profileId ← uint16T packet.profileId
  let sourceEndpoint ← uint8T packet.srcEp
  let counter ← uint8T packet.tsn
  let aps : ZigbeeApsFrame := {
    frameControl := {
      frameType := .data
      deliveryMode := .unicast
      reserved := false
      security := false
      ackRequest := packet.ackRequested
      extendedHeader := false }
    destinationEndpoint := destinationEndpoint
    clusterId := clusterId
    profileId := profileId
    sourceEndpoint := sourceEndpoint
    counter := counter
    asdu := packet.data }
  some {
    nwkHeader := {
      frameControl := {
        frameType := .data
        protocolVersion := 2
        discoverRoute := .suppress
        multicast := false
        security := true
        sourceRoute := false
        destination := false
        extendedSource := false
        endDeviceInitiator := false
        reserved := 0b00 }
      destination := packet.dstAddress
      source := packet.srcAddress
      radius := radius
      sequenceNumber := sequenceNumber
      destinationIeee := none
      sourceIeee := none
      multicastControl := none
      sourceRouteRelayIndex := none
      sourceRoute := none }
    auxHeader := some auxHeader
    payload := aps.serialize }

/-- The network frame of a route reply (`application.py:350-396`). -/
def routeReplyFrame (app : AppState) (received : ZigbeeNwkHeader) :
    Option DecryptedZigbeeNwkFrame := do
  let auxHeader ← app.auxHeader
  some {
    nwkHeader := {
      frameControl := {
        frameType := .command
        protocolVersion := 2
        discoverRoute := .suppress
        multicast := false
        security := true
        sourceRoute := false
        destination := true
        extendedSource := true
        endDeviceInitiator := false
        reserved := 0b00 }
      destination := received.source
      source := app.nwk
      radius := 30
      sequenceNumber := received.sequenceNumber
      destinationIeee := received.sourceIeee
      sourceIeee := some app.ieee
      multicastControl := none
      sourceRouteRelayIndex := none
      sourceRoute := none }
    auxHeader := some auxHeader
    payload := [0x02, 0x00, 0x12] ++ app.nwk.toBytes ++ app.nwk.toBytes ++ [1] }

/-- The network frame of an APS ACK (`application.py:442-500`). -/
def apsAckFrame (app : AppState) (received : ZigbeeNwkHeader) (aps : ZigbeeApsFrame) :
    Option DecryptedZigbeeNwkFrame := do
  let radius ← uint8T (received.radius.toNat - 1)
  let auxHeader ← app.auxHeader
  let ack : ZigbeeApsFrame := {
    frameControl := {
      frameType := .ack
      deliveryMode := .unicast
      reserved := false
      security := false
      ackRequest := false
      extendedHeader := false }
    destinationEndpoint := aps.sourceEndpoint
    clusterId := aps.clusterId
    profileId := aps.profileId
    sourceEndpoint := aps.destinationEndpoint
    counter := aps.counter
    asdu := [] }
  some {
    nwkHeader := {
      frameControl := {
        frameType := .data
        protocolVersion := 2
        discoverRoute := .suppress
        multicast := false
        security := true
        sourceRoute := false
        destination := false
        extendedSource := false
        endDeviceInitiator := false
        reserved := 0b00 }
      destination := received.source
      source := received.destination
      radius := radius
      sequenceNumber := received.sequenceNumber
      destinationIeee := none
      sourceIeee := none
      multicastControl := none
      sourceRouteRelayIndex := none
      sourceRoute := none }
    auxHeader := some auxHeader
    payload := ack.serialize }

/-- `send_packet` (`application.py:123-212`): the state after it and the frame that it encrypts,
    if the numbers fit. -/
def sendPacket (packet : ZigbeePacket) (app : AppState) :
    AppState × Option DecryptedZigbeeNwkFrame :=
  (app.increment, app.increment.packetFrame packet)

/-- The route reply of the packet callback (`application.py:322-402`). -/
def sendRouteReply (received : ZigbeeNwkHeader) (app : AppState) :
    AppState × Option DecryptedZigbeeNwkFrame :=
  (app.increment, app.increment.routeReplyFrame received)

/-- The APS ACK of the packet callback (`application.py:418-506`). -/
def sendApsAck (received : ZigbeeNwkHeader) (aps : ZigbeeApsFrame) (app : AppState) :
    AppState × Option DecryptedZigbeeNwkFrame :=
  (app.increment, app.increment.apsAckFrame received aps)

end AppState

end ZigpySpinel.Python
