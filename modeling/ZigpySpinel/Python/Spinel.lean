import Mathlib.Logic.Function.Basic
import ZigpySpinel.Python.SpinelTypes

/-!
# The Spinel protocol of the Python package (`spinel.py`)

`SpinelProtocol` with the fields it has from `SerialProtocol` (`common.py:121-154`). A
dictionary is the function that looks its keys up. The futures to which `_pending_frames`
refers are kept beside it. What a call does to the outside is returned as an `Effect`, and an
exception that leaves the call as `raised`: what the call has changed until then stays.
-/

namespace ZigpySpinel.Python
open Lib

/-- A future of `send_frame`, by the number of the call that created it. -/
abbrev FutureId : Type := Nat

/-- A property listener. -/
abbrev ListenerId : Type := Nat

/-- An `asyncio.Future` for a response. -/
inductive Future where
  | pending
  | done (response : SpinelFrame)
  deriving DecidableEq, Repr

/-- What a call does besides changing the protocol object. -/
inductive Effect where
  /-- "Decoded HDLC frame" -/
  | decodedHdlcFrame (frame : HDLCLiteFrame)
  /-- `self.frame_received(spinel_frame)` -/
  | frameReceived (frame : SpinelFrame)
  /-- `listener(data)` -/
  | callListener (listener : ListenerId) (data : List UInt8)
  /-- `self._transport.write(data)` -/
  | write (data : List UInt8)
  /-- an exception that the event loop gets from `data_received` -/
  | unhandled (exception : PyException)
  deriving DecidableEq, Repr

/-- `SpinelProtocol` (`spinel.py:27-34`, `common.py:124-127`). -/
structure SpinelProtocol where
  buffer : List UInt8
  /-- whether `_transport` is set -/
  connected : Bool
  transactionId : Nat
  pendingFrames : Nat → Option FutureId
  futures : FutureId → Future
  propertyListeners : PropertyID → List ListenerId

/-- What a call of a method leaves behind. -/
structure Called where
  protocol : SpinelProtocol
  effects : List Effect := []
  raised : Option PyException := none

/-- `bytearray.partition` with a separator of one byte. -/
def partition (separator : UInt8) (bytes : List UInt8) : List UInt8 × List UInt8 × List UInt8 :=
  match bytes.findIdx? (· == separator) with
  | some index => (bytes.take index, [separator], bytes.drop (index + 1))
  | none => (bytes, [], [])

namespace SpinelProtocol

/-- `SpinelProtocol()` (`spinel.py:28-34`). -/
def new : SpinelProtocol where
  buffer := []
  connected := false
  transactionId := 1
  pendingFrames := fun _ => none
  futures := fun _ => .pending
  propertyListeners := fun _ => []

/-- `add_property_listener` (`spinel.py:223-226`). -/
def addPropertyListener (s : SpinelProtocol) (propertyId : PropertyID) (callback : ListenerId) :
    SpinelProtocol :=
  { s with
    propertyListeners :=
      Function.update s.propertyListeners propertyId (s.propertyListeners propertyId ++ [callback]) }

/-- `remove_property_listener` (`spinel.py:228-231`). -/
def removePropertyListener (s : SpinelProtocol) (propertyId : PropertyID) (callback : ListenerId) :
    Except PyException SpinelProtocol :=
  if callback ∈ s.propertyListeners propertyId then
    .ok { s with
      propertyListeners :=
        Function.update s.propertyListeners propertyId
          ((s.propertyListeners propertyId).erase callback) }
  else .error (.valueError "")

/-! ## Received frames -/

/-- `set_result` on a future. -/
def setResult (s : SpinelProtocol) (future : FutureId) (frame : SpinelFrame) :
    Except PyException SpinelProtocol :=
  match s.futures future with
  | .pending => .ok { s with futures := Function.update s.futures future (.done frame) }
  | .done _ => .error .invalidStateError

/-- The request that waits for this frame. -/
def pendingFuture (s : SpinelProtocol) (frame : SpinelFrame) : Option FutureId :=
  frame.header.transactionId.bind (fun tid => s.pendingFrames tid.toNat)

/-- The first half of `frame_received` (`spinel.py:74-75`). The request stays in
    `_pending_frames`. -/
def completeRequest (s : SpinelProtocol) (frame : SpinelFrame) : Except PyException SpinelProtocol :=
  match s.pendingFuture frame with
  | some future => s.setResult future frame
  | none => .ok s

/-- The property that a frame with a new value is about, and the value
    (`spinel.py:78-79`). -/
def changedProperty (frame : SpinelFrame) : Except PyException (PropertyID × List UInt8) := do
  let (propId, data) ← PackedUInt21.deserialize frame.data
  let propId ← PropertyID.ofValue propId.value
  .ok (propId, data)

/-- The second half of `frame_received` (`spinel.py:77-90`). What a listener raises is
    caught. -/
def callListeners (s : SpinelProtocol) (frame : SpinelFrame) : Except PyException (List Effect) :=
  if frame.commandId = .propValueIs then do
    let (propId, data) ← changedProperty frame
    .ok ((s.propertyListeners propId).map (fun listener => .callListener listener data))
  else .ok []

/-- `frame_received` (`spinel.py:71-90`). -/
def frameReceived (s : SpinelProtocol) (frame : SpinelFrame) : Called :=
  match s.completeRequest frame with
  | .error e => { protocol := s, raised := some e }
  | .ok s =>
    match s.callListeners frame with
    | .error e => { protocol := s, raised := some e }
    | .ok effects => { protocol := s, effects := effects }

section Receive

variable (crc16Kermit : List UInt8 → UInt16)

/-- What a pass of the receive loop does with a nonempty chunk (`spinel.py:53-69`). -/
def chunkReceived (s : SpinelProtocol) (chunk : List UInt8) : Called :=
  match HDLCLiteFrame.fromBytes crc16Kermit chunk with
  | .error (.valueError _) => { protocol := s }
  | .error e => { protocol := s, raised := some e }
  | .ok hdlcFrame =>
    match SpinelFrame.fromBytes hdlcFrame.data with
    | .error (.valueError _) => { protocol := s, effects := [.decodedHdlcFrame hdlcFrame] }
    | .error e => { protocol := s, effects := [.decodedHdlcFrame hdlcFrame], raised := some e }
    | .ok spinelFrame =>
      let called := s.frameReceived spinelFrame
      { called with
        effects := .decodedHdlcFrame hdlcFrame :: .frameReceived spinelFrame :: called.effects }

/-- One pass of the receive loop (`spinel.py:39-69`), `none` where it ends. -/
def receivePass (st : Called) : Option Called :=
  if st.raised.isSome then none
  else if st.protocol.buffer = [] then none
  else
    let (chunk, flag, rest) := partition HDLCSpecial.flag.value st.protocol.buffer
    -- the buffer is assigned `chunk`, which is all of it
    if flag = [] then none
    else
      let protocol := { st.protocol with buffer := rest }
      if chunk = [] then some { st with protocol := protocol }
      else
        let called := protocol.chunkReceived crc16Kermit chunk
        some { called with effects := st.effects ++ called.effects }

/-- `data_received` (`spinel.py:36-69`, `common.py:146-148`). -/
def dataReceived (s : SpinelProtocol) (data : List UInt8) : Called :=
  Loop.exec (receivePass crc16Kermit) (fun st => st.protocol.buffer.length)
    { protocol := { s with buffer := s.buffer ++ data } }

end Receive

/-! ## Sent frames -/

/-- `send_data` (`common.py:139-144`): the bytes that are written to the transport. -/
def sendData (s : SpinelProtocol) (data : List UInt8) : Except PyException (List UInt8) :=
  if s.connected then .ok data else .error .assertionError

/-- The line of `send_frame` that sends the frame (`spinel.py:137`, `spinel.py:143`). -/
def transmit (crc16Kermit : List UInt8 → UInt16) (s : SpinelProtocol) (frame : SpinelFrame) :
    Except PyException (List UInt8) := do
  let data ← frame.serialize
  s.sendData (HDLCLiteFrame.serialize crc16Kermit { data := data })

/-- The transaction id of the next request (`spinel.py:124`). -/
def nextTransactionId (s : SpinelProtocol) : Nat := (s.transactionId + 1) % (0b1111 - 1)

/-- The id under which the next request waits (`spinel.py:125`). -/
def nextTid (s : SpinelProtocol) : Nat := 1 + s.nextTransactionId

/-- The next request is put in `_pending_frames` (`spinel.py:123-128`). -/
def registerRequest (s : SpinelProtocol) (future : FutureId) : SpinelProtocol :=
  { s with
    transactionId := s.nextTransactionId
    pendingFrames := Function.update s.pendingFrames s.nextTid (some future)
    futures := Function.update s.futures future .pending }

/-- `self._pending_frames.pop(tid, None)` (`spinel.py:162`). -/
def popRequest (s : SpinelProtocol) (tid : Nat) : SpinelProtocol :=
  { s with pendingFrames := Function.update s.pendingFrames tid none }

end SpinelProtocol

/-- The frame with its transaction id replaced (`spinel.py:131-133`). -/
def SpinelFrame.withTransactionId (frame : SpinelFrame) (tid : Nat) : SpinelFrame :=
  { frame with header := { frame.header with transactionId := some (BitVec.ofNat 4 tid) } }

end ZigpySpinel.Python
