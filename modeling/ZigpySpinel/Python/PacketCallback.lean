import ZigpySpinel.Python.Application
import ZigpySpinel.Python.Ieee802154
import ZigpySpinel.Python.SpinelTypes
import ZigpySpinel.Python.ZigbeeParsing

/-!
# Received packets (`application.py:214-530`)

`_async_spinel_packet_callback` runs as a task of its own: an exception ends it, and what it
has done so far stays done. It answers route requests, acknowledges data frames that ask for
it, and gives data frames to `zigpy`. What the radio answers to the attempts to send a frame is
a parameter. Log messages, the numbers in them and the pauses between attempts are left out.
-/

namespace ZigpySpinel.Python
open Lib

/-- What the callback reads of `self.state`. -/
structure PacketApp extends AppState where
  panId : UInt16
  channel : Int
  deriving DecidableEq, Repr

/-- `load_network_info` (`application.py:565-630`) with the number in the file. -/
def PacketApp.loadNetworkInfo (frameCounter : Int) : PacketApp where
  toAppState := AppState.loadNetworkInfo frameCounter
  panId := 0x9f0d
  channel := 20

/-- `t.AddrModeAddress` with `t.AddrMode.NWK`. -/
inductive AddrModeAddress where
  | nwk (address : Nwk)
  deriving DecidableEq, Repr

/-- The `t.ZigbeePacket` that `zigpy` gets (`application.py:508-526`). -/
structure ReceivedPacket where
  src : AddrModeAddress
  srcEp : UInt8
  dst : AddrModeAddress
  dstEp : UInt8
  tsn : UInt8
  profileId : UInt16
  clusterId : UInt16
  data : List UInt8
  txOptions : Nat
  radius : UInt8
  lqi : Nat
  rssi : Int
  deriving DecidableEq, Repr

/-- What the callback does to others. -/
inductive CallbackEffect where
  | setProperty (propertyId : PropertyID) (value : List UInt8)
  | packetReceived (packet : ReceivedPacket)
  deriving DecidableEq, Repr

/-- The application in a run of the callback, with what the run has done so far. -/
structure CallbackState where
  app : PacketApp
  effects : List CallbackEffect
  deriving DecidableEq, Repr

/-- What `set_property` (`spinel.py:201-221`) returns or raises in each attempt. -/
abbrev Answers : Type := Nat → Except PyException (PropertyID × List UInt8)

def PropertyID.lastStatus : PropertyID := ⟨0, by decide⟩

def PropertyID.streamRaw : PropertyID := ⟨113, by decide⟩

/-- `Status.NO_ACK` (`spinel_types.py:245`). Every byte is a `Status`. -/
def noAck : UInt8 := 17

namespace CallbackState

/-- The callback begins. -/
def start (app : PacketApp) : CallbackState where
  app := app
  effects := []

def log (s : CallbackState) (effect : CallbackEffect) : CallbackState :=
  { s with effects := s.effects ++ [effect] }

/-- The packets given to `zigpy`, and the values of `STREAM_RAW` given to the radio. -/
def received (s : CallbackState) : List ReceivedPacket :=
  s.effects.filterMap fun
    | .packetReceived packet => some packet
    | .setProperty _ _ => none

def transmitted (s : CallbackState) : List (List UInt8) :=
  s.effects.filterMap fun
    | .packetReceived _ => none
    | .setProperty _ value => some value

end CallbackState

/-! ## Sending a frame -/

/-- The value of `STREAM_RAW` for a frame (`application.py:229-250`). -/
def streamRawValue (channel : Int) (frame : IEEE802154Frame) : Except PyException (List UInt8) := do
  let data ← frame.serialize
  let length ← orRaise (uint16T data.length) (.valueError "")
  let channel ← orRaise (uint8T channel) (.valueError "")
  -- CCA backoff attempts, CCA retries, four flags, delays, channel after the transmission
  .ok (u16ToLeBytes length ++ data ++ [channel] ++ [1] ++ [4] ++ [1] ++ [1] ++ [0] ++ [1] ++ [0] ++
    [0] ++ [channel])

/-- The status in an answer (`application.py:254-255`). -/
def statusOf (answer : Except PyException (PropertyID × List UInt8)) : Except PyException UInt8 := do
  let (propertyId, data) ← answer
  if propertyId ≠ .lastStatus then .error .assertionError
  else
    match data with
    | status :: _ => .ok status
    | [] => .error .indexError

/-- The loop of `_send_spinel_frame` (`application.py:214-279`): it ends with the first status
    other than `NO_ACK`, and without one after the last attempt. -/
def sendAttempts (answers : Answers) (frame : IEEE802154Frame) :
    (remaining attempt : Nat) → CallbackState →
      CallbackState × Except PyException (Option UInt8)
  | 0, _, s => (s, .ok none)
  | remaining + 1, attempt, s =>
    match streamRawValue s.app.channel frame with
    | .error e => (s, .error e)
    | .ok value =>
      let s := s.log (.setProperty .streamRaw value)
      match statusOf (answers attempt) with
      | .error e => (s, .error e)
      | .ok status =>
        if status = noAck then sendAttempts answers frame remaining (attempt + 1) s
        else (s, .ok (some status))

/-- `_send_spinel_frame`. -/
def sendSpinelFrame (answers : Answers) (frame : IEEE802154Frame) (attempts : Nat)
    (s : CallbackState) : CallbackState × Except PyException (Option UInt8) :=
  sendAttempts answers frame attempts 0 s

/-! ## Replies -/

/-- The frame control of a reply (`application.py:328-341`, `424-437`). -/
def replyFrameControl : IEEE802154FrameControl where
  frameType := .data
  securityEnabled := false
  framePending := false
  ackRequest := true
  panIdCompression := true
  reserved := false
  sequenceNumberSuppression := false
  informationElementsPresent := false
  destAddrMode := .short
  frameVersion := 0b00
  srcAddrMode := .short

variable (encryptBlock : Key → Block → Block)

/-- The frame of a reply around an encrypted network frame (`application.py:326-400`,
    `422-504`). -/
def replyFrame (key : Key) (ieeeFrame : IEEE802154Frame) (reply : Option DecryptedZigbeeNwkFrame) :
    Except PyException IEEE802154Frame := do
  let sequenceNumber ← orRaise ieeeFrame.sequenceNumber .typeError
  let reply ← orRaise reply (.valueError "")
  let encrypted ← reply.encrypt encryptBlock key
  let payload ← encrypted.serialize
  .ok {
    frameControl := replyFrameControl
    sequenceNumber := some sequenceNumber
    destPanId := ieeeFrame.destPanId
    destAddress := ieeeFrame.srcAddress
    srcPanId := none
    srcAddress := ieeeFrame.destAddress
    payload := payload
    fcs := none }

/-- A reply that one of the two places makes. -/
def sendReply (answers : Answers) (attempts : Nat) (ieeeFrame : IEEE802154Frame)
    (place : AppState → AppState × Option DecryptedZigbeeNwkFrame) (s : CallbackState) :
    CallbackState × Except PyException (Option UInt8) :=
  let (app, reply) := place s.app.toAppState
  let s := { s with app := { s.app with toAppState := app } }
  match replyFrame encryptBlock app.key ieeeFrame reply with
  | .error e => (s, .error e)
  | .ok frame => sendSpinelFrame answers frame attempts s

/-- The route reply (`application.py:322-403`). -/
def sendRouteReply (answers : Answers) (ieeeFrame : IEEE802154Frame) (header : ZigbeeNwkHeader)
    (s : CallbackState) : CallbackState × Except PyException (Option UInt8) :=
  sendReply encryptBlock answers 5 ieeeFrame (AppState.sendRouteReply header) s

/-- The APS ACK (`application.py:418-506`). -/
def sendApsAck (answers : Answers) (ieeeFrame : IEEE802154Frame) (header : ZigbeeNwkHeader)
    (aps : ZigbeeApsFrame) (s : CallbackState) :
    CallbackState × Except PyException (Option UInt8) :=
  sendReply encryptBlock answers 1 ieeeFrame (AppState.sendApsAck header aps) s

/-! ## The callback -/

/-- The frame in a value of `STREAM_RAW` (`application.py:285-289`). -/
def parseFrame (value : List UInt8) : Except PyException IEEE802154Frame := do
  let (frameLen, data) ← uint16Deserialize value
  IEEE802154Frame.fromBytes (data.take frameLen.toNat)

/-- The frame has a short destination below `0xFF00` that is not the own address
    (`application.py:303-308`). -/
def PacketApp.addressedElsewhere (app : PacketApp) (frame : IEEE802154Frame) : Bool :=
  frame.frameControl.destAddrMode == .short &&
    match frame.destAddress with
    | some (.nwk nwk) => decide (nwk.value < 0xFF00) && nwk != app.nwk
    -- not reached: `from_bytes` reads a short address in this mode
    | _ => false

/-- The frame is ignored (`application.py:292-309`). -/
def PacketApp.ignores (app : PacketApp) (frame : IEEE802154Frame) : Bool :=
  frame.frameControl.frameType != .data || frame.destPanId != some app.panId ||
    app.addressedElsewhere frame

/-- A frame that is for this node, with its network frame as received and decrypted. -/
structure ReceivedFrame where
  ieeeFrame : IEEE802154Frame
  nwkFrame : EncryptedZigbeeNwkFrame
  decrypted : DecryptedZigbeeNwkFrame
  deriving DecidableEq, Repr

/-- The callback up to the decrypted frame (`application.py:284-320`), `none` for a frame that
    is ignored. -/
def receive (app : PacketApp) (value : List UInt8) : Except PyException (Option ReceivedFrame) := do
  let ieeeFrame ← parseFrame value
  if app.ignores ieeeFrame then .ok none
  else do
    let nwkFrame ← ZigbeeNwkFrame.fromBytes ieeeFrame.payload
    let decrypted ← nwkFrame.decrypt encryptBlock app.key
    .ok (some { ieeeFrame := ieeeFrame, nwkFrame := nwkFrame, decrypted := decrypted })

/-- A network command with the id of a route request (`application.py:322-326`). -/
def isRouteRequest (frame : DecryptedZigbeeNwkFrame) : Except PyException Bool :=
  if frame.nwkHeader.frameControl.frameType = .command then
    match frame.payload with
    | commandId :: _ => .ok (commandId == 0x01)
    | [] => .error .indexError
  else .ok false

/-- The packet of a data frame (`application.py:508-526`). -/
def receivedPacket (header : ZigbeeNwkHeader) (aps : ZigbeeApsFrame) : ReceivedPacket where
  src := .nwk header.source
  srcEp := aps.sourceEndpoint
  dst := .nwk header.destination
  dstEp := aps.destinationEndpoint
  tsn := aps.counter
  profileId := aps.profileId
  clusterId := aps.clusterId
  data := aps.asdu
  txOptions := 0
  radius := header.radius
  lqi := 0
  rssi := 0

/-- The callback from the application frame on (`application.py:412-530`). -/
def handleAps (answers : Answers) (r : ReceivedFrame) (aps : ZigbeeApsFrame) (s : CallbackState) :
    CallbackState × Except PyException Unit :=
  if aps.frameControl.frameType ≠ .data then (s, .ok ())
  else if aps.frameControl.ackRequest then
    match sendApsAck encryptBlock answers r.ieeeFrame r.nwkFrame.nwkHeader aps s with
    | (s, .error e) => (s, .error e)
    | (s, .ok _) => (s.log (.packetReceived (receivedPacket r.decrypted.nwkHeader aps)), .ok ())
  else (s.log (.packetReceived (receivedPacket r.decrypted.nwkHeader aps)), .ok ())

/-- The callback from the decrypted frame on (`application.py:322-530`). -/
def handleFrame (answers : Answers) (r : ReceivedFrame) (s : CallbackState) :
    CallbackState × Except PyException Unit :=
  match isRouteRequest r.decrypted with
  | .error e => (s, .error e)
  | .ok true =>
    match sendRouteReply encryptBlock answers r.ieeeFrame r.nwkFrame.nwkHeader s with
    | (s, .error e) => (s, .error e)
    | (s, .ok _) => (s, .ok ())
  | .ok false =>
    if r.decrypted.nwkHeader.frameControl.frameType ≠ .data then (s, .ok ())
    else
      match ZigbeeApsFrame.fromBytes r.decrypted.payload with
      | .error e => (s, .error e)
      | .ok aps => handleAps encryptBlock answers r aps s

/-- `_async_spinel_packet_callback` (`application.py:284-530`). -/
def packetCallback (answers : Answers) (app : PacketApp) (value : List UInt8) :
    CallbackState × Except PyException Unit :=
  let s := CallbackState.start app
  match receive encryptBlock app value with
  | .error e => (s, .error e)
  | .ok none => (s, .ok ())
  | .ok (some r) => handleFrame encryptBlock answers r s

end ZigpySpinel.Python
