import Mathlib.Logic.Function.Basic
import ZigpySpinel.Lib.Loop
import ZigpySpinel.Spinel.Frame
import ZigpySpinel.Spinel.Hdlc

/-!
# The Spinel protocol object (`spinel.rs:476-637`)

`SpinelProtocol` owns the receive buffer and the table of requests that wait for a
response. A `HashMap` is the function that looks its keys up. The two kinds of
channel ends it holds are represented by the identity of their channel; what a call
does to the outside (a send on a channel, a sender that is dropped, a line on
standard error) is returned as an `Effect`.
-/

namespace ZigpySpinel.Spinel
open Lib

/-- The identity of a `oneshot` channel, of which the table holds the sender. -/
abbrev SenderId : Type := Nat

/-- The identity of an `mpsc` channel for property updates or unsolicited frames. -/
abbrev ReceiverId : Type := Nat

/-- `SpinelProtocol` (`spinel.rs:476-484`). -/
structure SpinelProtocol where
  buffer : List UInt8
  ignoringUntilNextFlag : Bool
  nextTid : UInt8
  pendingFrames : UInt8 → Option SenderId
  unsolicitedFrameReceiver : Option ReceiverId
  propertyUpdateReceivers : UInt32 → Option ReceiverId

/-- What a call does besides changing the protocol object. -/
inductive Effect where
  /-- `sender.send(frame)` on the oneshot channel of a request -/
  | sendResponse (sender : SenderId) (frame : SpinelFrame)
  /-- a oneshot sender that leaves the table unused and is dropped -/
  | dropSender (sender : SenderId)
  /-- `sender.try_send(prop_value_is)` -/
  | sendPropertyUpdate (receiver : ReceiverId) (propValueIs : SpinelFramePropValueIs)
  /-- "No receiver for property update" -/
  | noReceiver (propValueIs : SpinelFramePropValueIs)
  /-- "Failed to parse PropValueIs frame" -/
  | parseFailed (frame : SpinelFrame)
  /-- "Unhandled unsolicited frame" -/
  | unhandledUnsolicited (frame : SpinelFrame)
  /-- "Unsolicited or unmatched frame" -/
  | unmatched (frame : SpinelFrame)
  deriving DecidableEq, Repr

namespace SpinelProtocol

/-- `SpinelProtocol::new` (`spinel.rs:487-496`). -/
def new : SpinelProtocol where
  buffer := []
  ignoringUntilNextFlag := true
  nextTid := 1
  pendingFrames := fun _ => none
  unsolicitedFrameReceiver := none
  propertyUpdateReceivers := fun _ => none

/-- `set_unsolicited_frame_receiver` (`spinel.rs:498-500`). -/
def setUnsolicitedFrameReceiver (s : SpinelProtocol) (tx : ReceiverId) : SpinelProtocol :=
  { s with unsolicitedFrameReceiver := some tx }

/-- `set_property_update_receiver` (`spinel.rs:502-508`). -/
def setPropertyUpdateReceiver (s : SpinelProtocol) (propertyId : UInt32) (tx : ReceiverId) :
    SpinelProtocol :=
  { s with propertyUpdateReceivers := Function.update s.propertyUpdateReceivers propertyId (some tx) }

/-! ## The receive buffer -/

section Parse

variable (crcKermit : List UInt8 → UInt16)

/-- The two nested matches of the parsing loop (`spinel.rs:534-546`): the frame that
    is pushed for a nonempty segment, if it decodes. -/
def parseSegment (segment : List UInt8) : Option SpinelFrame :=
  match HdlcLiteFrame.fromBytes crcKermit segment with
  | .ok frame =>
    match SpinelFrame.fromBytes frame.data with
    | .ok parsedFrame => some parsedFrame
    | .err _ => none
    | .panic _ => none
  | .err _ => none
  | .panic _ => none

/-- The locals of the parsing loop: the two fields of the protocol object it changes,
    `into` and `num_parsed_frames`. -/
structure ParseState where
  buffer : List UInt8
  ignoring : Bool
  into : List SpinelFrame
  numParsedFrames : Nat
  deriving DecidableEq, Repr

/-- One pass of the parsing loop (`spinel.rs:519-552`), `none` at its `break`. -/
def parsePass (st : ParseState) : Option ParseState :=
  match st.buffer.findIdx? (· == HdlcSpecial.flag.toU8) with
  | none => none
  | some index =>
    -- the buffer is not drained here: the next pass finds the same flag
    if st.ignoring then some { st with ignoring := false }
    else
      let st :=
        if index > 0 then
          match parseSegment crcKermit (st.buffer.take index) with
          | some parsedFrame =>
            { st with
              into := st.into ++ [parsedFrame]
              numParsedFrames := st.numParsedFrames + 1 }
          | none => st
        else st
      some { st with buffer := st.buffer.drop (index + 1) }

/-- A pass drains the buffer or clears the ignore flag. -/
def ParseState.measure (st : ParseState) : Nat := st.buffer.length + st.ignoring.toNat

/-- The locals with which the loop starts, once the received bytes are in the buffer. -/
def parseStart (s : SpinelProtocol) (bytes : List UInt8) (into : List SpinelFrame) : ParseState where
  buffer := s.buffer ++ bytes
  ignoring := s.ignoringUntilNextFlag
  into := into
  numParsedFrames := 0

/-- The protocol object, `into` and the returned count where the loop breaks. -/
def parseResult (s : SpinelProtocol) (st : ParseState) : SpinelProtocol × List SpinelFrame × Nat :=
  ({ s with buffer := st.buffer, ignoringUntilNextFlag := st.ignoring }, st.into,
    st.numParsedFrames)

/-- `parse_frames_from_bytes_into` (`spinel.rs:510-555`). -/
def parseFramesFromBytesInto (s : SpinelProtocol) (bytes : List UInt8) (into : List SpinelFrame) :
    SpinelProtocol × List SpinelFrame × Nat :=
  parseResult s (Loop.exec (parsePass crcKermit) ParseState.measure (parseStart s bytes into))

/-- `parse_frames_from_bytes` (`spinel.rs:557-562`). -/
def parseFramesFromBytes (s : SpinelProtocol) (bytes : List UInt8) :
    SpinelProtocol × List SpinelFrame :=
  let (s, frames, _) := s.parseFramesFromBytesInto crcKermit bytes []
  (s, frames)

end Parse

/-! ## Requests and responses -/

/-- `handle_inbound_frame` (`spinel.rs:572-604`). -/
def handleInboundFrame (s : SpinelProtocol) (frame : SpinelFrame) : SpinelProtocol × List Effect :=
  let tid := frame.header.transactionId
  if tid = 0 then
    if frame.commandId = SpinelCommandId.propValueIs then
      match SpinelFramePropValueIs.fromBytes frame.payload with
      | .ok propValueIs =>
        match s.propertyUpdateReceivers propValueIs.propertyId with
        | some sender => (s, [.sendPropertyUpdate sender propValueIs])
        | none => (s, [.noReceiver propValueIs])
      | .err _ => (s, [.parseFailed frame])
      | .panic _ => (s, [.parseFailed frame])
    else (s, [.unhandledUnsolicited frame])
  else
    match s.pendingFrames tid with
    | some sender =>
      ({ s with pendingFrames := Function.update s.pendingFrames tid none },
        [.sendResponse sender frame])
    | none => (s, [.unmatched frame])

/-- The `for` loop of `handle_inbound_bytes`. -/
def handleInboundFrames (s : SpinelProtocol) : List SpinelFrame → SpinelProtocol × List Effect
  | [] => (s, [])
  | frame :: frames =>
    let (s, effects) := s.handleInboundFrame frame
    let (s, more) := handleInboundFrames s frames
    (s, effects ++ more)

/-- `handle_inbound_bytes` (`spinel.rs:564-570`). -/
def handleInboundBytes (crcKermit : List UInt8 → UInt16) (s : SpinelProtocol)
    (bytes : List UInt8) : SpinelProtocol × List Effect :=
  let (s, frames) := s.parseFramesFromBytes crcKermit bytes
  s.handleInboundFrames frames

/-- `prepare_request` (`spinel.rs:606-632`). `channel` is the new oneshot channel, and
    the sender that `insert` replaces is dropped. -/
def prepareRequest (s : SpinelProtocol) (channel : SenderId) (commandId : UInt8)
    (payload : List UInt8) : SpinelProtocol × SpinelFrame × List Effect :=
  let tid := s.nextTid
  let header : SpinelHeader := { flag := 0b10, networkLinkId := 0, transactionId := tid }
  let frame : SpinelFrame := { header := header, commandId := commandId, payload := payload }
  ({ s with
      nextTid := 1 + tid % 7
      pendingFrames := Function.update s.pendingFrames tid (some channel) },
    frame,
    match s.pendingFrames tid with
    | some replaced => [.dropSender replaced]
    | none => [])

/-- `cancel_request` (`spinel.rs:634-636`). -/
def cancelRequest (s : SpinelProtocol) (tid : UInt8) : SpinelProtocol × List Effect :=
  ({ s with pendingFrames := Function.update s.pendingFrames tid none },
    match s.pendingFrames tid with
    | some removed => [.dropSender removed]
    | none => [])

end SpinelProtocol

end ZigpySpinel.Spinel
