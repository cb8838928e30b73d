import ZigpySpinel.Ieee802154.Frame
import ZigpySpinel.Lib.Channel
import ZigpySpinel.Spinel.Properties
import ZigpySpinel.Spinel.Reader
import ZigpySpinel.Spinel.RxFrame

/-!
# Capturing packets (`tools/packet_capture.rs`)

The main task sends five requests one after the other, registers a channel for the updates of
`STREAM_RAW` and prints the packets that it takes out of the channel. Beside it the reader
handles the frames of each read one by one, and a full channel does not hold it up. The tasks
run on several threads: between two frames of a read the main task may take a packet, but not
the lock, which the reader holds. A panic of the main task ends the process.
-/

namespace ZigpySpinel.Tools
open Lib Spinel Ieee802154

/-! ## The requests before the capture -/

/-- A request of the main task. -/
inductive Request where
  | getNcpVersion
  | propValueSet (propertyId : UInt32) (value : List UInt8) (failure : String)
  deriving DecidableEq, Repr

namespace Request

/-- The requests in their order (`packet_capture.rs:18-45`). -/
def all : List Request :=
  [.getNcpVersion,
    .propValueSet SpinelPropertyId.phyEnabled [1] "Failed to enable the PHY",
    .propValueSet SpinelPropertyId.macPromiscuousMode [2] "Failed to set the MAC promiscuous mode",
    .propValueSet SpinelPropertyId.phyChan [20] "Failed to set the PHY",
    .propValueSet SpinelPropertyId.macRawStreamEnabled [1] "Failed to enable the RAW stream"]

/-- The command of the request. -/
def commandId : Request → UInt8
  | .getNcpVersion => SpinelCommandId.propValueGet
  | .propValueSet _ _ _ => SpinelCommandId.propValueSet

/-- The payload of the request. -/
def payload : Request → Outcome String (List UInt8)
  | .getNcpVersion => packedUint21ToBytes SpinelPropertyId.ncpVersion
  | .propValueSet propertyId value _ => do
    let request ← packedUint21ToBytes propertyId
    .ok (request ++ value)

/-- What the main task does with the end of the request: it goes on or it panics. -/
def finish (result : Except SpinelSendError SpinelFrame) : Request → Outcome Empty Unit
  | .getNcpVersion => do
    let _ncpVersion ← (Spinel.getNcpVersion fun _ _ => result).expect "Invalid UTF-8 string"
    .ok ()
  | .propValueSet propertyId value failure => do
    let _rsp ← (Spinel.propValueSet (fun _ _ => result) propertyId value).expect failure
    .ok ()

end Request

/-! ## Packets -/

/-- The identity of the channel for `STREAM_RAW` (`packet_capture.rs:47`). -/
def streamRawTx : ReceiverId := 0

/-- What the main task does with a value of the channel (`packet_capture.rs:56-68`): the packet
    that it prints, if any. -/
def capturedPacket (streamRawProp : SpinelFramePropValueIs) :
    Outcome Empty (Option (SpinelRxFrame × Ieee802154Frame)) :=
  match SpinelRxFrame.fromBytes streamRawProp.value with
  | .ok packet =>
    match Ieee802154Frame.fromBytesWithoutFcs packet.psdu with
    | .ok ieeeFrame => .ok (some (packet, ieeeFrame))
    | .err _ => .ok none
    | .panic message => .panic message
  -- "Error parsing packet"
  | .err _ => .ok none
  | .panic message => .panic message

/-! ## The tasks -/

/-- Where the main task stands. -/
inductive Main where
  /-- in front of the first of these requests, or of the registration if there is none -/
  | requesting (todo : List Request)
  /-- the call of the request has not ended for the main task -/
  | awaiting (call : SenderId) (request : Request) (todo : List Request)
  /-- in the loop that takes packets out of the channel -/
  | listening
  | panicked

/-- The process. -/
structure PacketCapture where
  client : SpinelClient
  /-- the reader has not left its loop -/
  reading : Bool
  /-- the frames of the current read that the reader has not handled; while there are any it
      holds the lock -/
  parsed : List SpinelFrame
  main : Main
  streamRaw : BoundedChannel SpinelFramePropValueIs 32
  /-- what the main task has taken out of the channel -/
  received : List SpinelFramePropValueIs
  /-- "Received packet" -/
  printed : List (SpinelRxFrame × Ieee802154Frame)

/-- The steps of the two tasks. -/
inductive CaptureAction where
  /-- `port.read` returns these bytes, and the reader parses them under the lock -/
  | read (bytes : List UInt8)
  /-- `port.read` returns an error -/
  | readFailed
  /-- the reader handles the next frame of the read -/
  | handle
  /-- the next request is prepared under the lock -/
  | request
  /-- a step of the call of the request -/
  | call (action : Action)
  /-- the main task goes on behind the request -/
  | answered
  /-- the channel is registered under the lock -/
  | listen
  /-- the main task takes a value out of the channel -/
  | recv
  deriving DecidableEq, Repr

namespace PacketCapture

variable (crcKermit : List UInt8 → UInt16)

/-- Behind `client.spawn_reader()` (`packet_capture.rs:15-16`). -/
def new : PacketCapture where
  client := .new
  reading := true
  parsed := []
  main := .requesting Request.all
  streamRaw := .empty
  received := []
  printed := []

/-- The reader parses what it has read (`spinel_client.rs:160-169`, `spinel.rs:567`). -/
def read (s : PacketCapture) (bytes : List UInt8) : PacketCapture :=
  match bytes with
  | [] => { s with reading := false }
  | bytes =>
    let (protocol, frames) := s.client.protocol.parseFramesFromBytes crcKermit bytes
    { s with client := { s.client with protocol := protocol }, parsed := frames }

/-- What an effect of the protocol object sends into the channel. -/
def toStreamRaw : Effect → Option SpinelFramePropValueIs
  | .sendPropertyUpdate receiver propValueIs =>
    if receiver = streamRawTx then some propValueIs else none
  | .sendResponse _ _ => none
  | .dropSender _ => none
  | .noReceiver _ => none
  | .parseFailed _ => none
  | .unhandledUnsolicited _ => none
  | .unmatched _ => none

/-- The reader handles one frame (`spinel.rs:567-569`). -/
def handle (s : PacketCapture) (frame : SpinelFrame) (frames : List SpinelFrame) : PacketCapture :=
  let (_, effects) := s.client.protocol.handleInboundFrame frame
  { s with
    client := s.client.received frame
    parsed := frames
    streamRaw := (effects.filterMap toStreamRaw).foldl BoundedChannel.send s.streamRaw }

/-- The first locked section of the next request. -/
def request (s : PacketCapture) (request : Request) (todo : List Request) : PacketCapture :=
  match request.payload with
  | .ok payload =>
    { s with
      client := s.client.prepared request.commandId payload
      main := .awaiting s.client.nextCall request todo }
  | .err _ => { s with main := .panicked }
  | .panic _ => { s with main := .panicked }

/-- The main task behind a request. -/
def answered (s : PacketCapture) (request : Request) (todo : List Request)
    (result : Except SpinelSendError SpinelFrame) : PacketCapture :=
  match request.finish result with
  | .ok () => { s with main := .requesting todo }
  | .err _ => { s with main := .panicked }
  | .panic _ => { s with main := .panicked }

/-- `set_property_update_receiver` for `STREAM_RAW` (`packet_capture.rs:49-52`). -/
def listen (s : PacketCapture) : PacketCapture :=
  let protocol :=
    s.client.protocol.setPropertyUpdateReceiver SpinelPropertyId.streamRaw streamRawTx
  { s with client := { s.client with protocol := protocol }, main := .listening }

/-- A pass of the main task's loop (`packet_capture.rs:56-68`). -/
def recv (s : PacketCapture) (streamRawProp : SpinelFramePropValueIs)
    (streamRaw : BoundedChannel SpinelFramePropValueIs 32) : PacketCapture :=
  let s := { s with streamRaw := streamRaw, received := s.received ++ [streamRawProp] }
  match capturedPacket streamRawProp with
  | .ok packet => { s with printed := s.printed ++ packet.toList }
  | .err _ => { s with main := .panicked }
  | .panic _ => { s with main := .panicked }

/-- Steps of a call that are taken under the lock. -/
def Locked : Action → Bool
  | .prepare _ _ => true
  | .inbound _ => true
  | .cancel _ => true
  | .written _ => false
  | .writeFailed _ => false
  | .resolved _ => false
  | .elapsed _ => false

/-- The state after a step, if the step can be taken. -/
def step (s : PacketCapture) : CaptureAction → Option PacketCapture
  | .read bytes =>
    if s.reading ∧ s.parsed = [] ∧ bytes.length ≤ readerBufferSize then some (s.read crcKermit bytes)
    else none
  | .readFailed => if s.reading ∧ s.parsed = [] then some { s with reading := false } else none
  | .handle =>
    match s.parsed with
    | [] => none
    | frame :: frames => some (s.handle frame frames)
  | .request =>
    match s.main, s.parsed with
    | .requesting (request :: todo), [] => some (s.request request todo)
    | _, _ => none
  | .call action =>
    match action with
    | .prepare _ _ => none
    | .inbound _ => none
    | action =>
      if Locked action ∧ s.parsed ≠ [] then none
      else (s.client.step action).map fun client => { s with client := client }
  | .answered =>
    match s.main with
    | .awaiting call request todo =>
      match (s.client.calls call).map SendCommand.phase with
      | some (.returned result) => some (s.answered request todo result)
      | _ => none
    | _ => none
  | .listen =>
    match s.main, s.parsed with
    | .requesting [], [] => some s.listen
    | _, _ => none
  | .recv =>
    match s.main, s.streamRaw.recv with
    | .listening, some (streamRawProp, streamRaw) => some (s.recv streamRawProp streamRaw)
    | _, _ => none

/-- Any interleaving of the two tasks, up to a panic. -/
def Step (s : PacketCapture) (action : CaptureAction) (s' : PacketCapture) : Prop :=
  s.main ≠ .panicked ∧ s.step crcKermit action = some s'

end PacketCapture

end ZigpySpinel.Tools
