import ZigpySpinel.Spinel.Reader

/-!
# Property updates of a client (`spinel.rs:502-508`, `spinel.rs:564-604`)

The users of a client register the sender of a channel for a property, under the lock and at any
time. The reader sends the updates of the property to the channel that was registered last.
Beside the client the state keeps the frames that the reader has handed over, and what came of
them.
-/

namespace ZigpySpinel.Spinel
open Lib

/-- A client with its reader, and what the reader has done so far. -/
structure TracedClient where
  reader : ReaderClient
  /-- what `handle_inbound_frame` was called with -/
  frames : List SpinelFrame
  /-- what its calls have done -/
  effects : List Effect

/-- The steps of the calls, of the reader and of those who register channels. -/
inductive TracedAction where
  | reader (action : ReaderAction)
  /-- `set_property_update_receiver` under the lock -/
  | setPropertyUpdateReceiver (propertyId : UInt32) (tx : ReceiverId)
  deriving DecidableEq, Repr

variable (crcKermit : List UInt8 → UInt16)

/-- The frames that a step hands to `handle_inbound_frame` (`spinel.rs:567-569`). -/
def ReaderAction.handed (s : SpinelProtocol) : ReaderAction → List SpinelFrame
  | .read [] => []
  | .read bytes => (s.parseFramesFromBytes crcKermit bytes).2
  | .readFailed => []
  | .call _ => []

/-- What `handle_inbound_frame` does in a step. -/
def ReaderAction.effects (s : SpinelProtocol) : ReaderAction → List Effect
  | .read [] => []
  | .read bytes => (s.handleInboundBytes crcKermit bytes).2
  | .readFailed => []
  | .call _ => []

namespace TracedClient

/-- A new client whose reader has been started. -/
def new : TracedClient where
  reader := .new
  frames := []
  effects := []

def protocol (c : TracedClient) : SpinelProtocol := c.reader.client.protocol

/-- The channel that is registered for a property. -/
def receiver (c : TracedClient) (propertyId : UInt32) : Option ReceiverId :=
  c.protocol.propertyUpdateReceivers propertyId

/-- A channel is registered for a property. -/
def setPropertyUpdateReceiver (c : TracedClient) (propertyId : UInt32) (tx : ReceiverId) :
    TracedClient :=
  let protocol := c.protocol.setPropertyUpdateReceiver propertyId tx
  { c with reader := { c.reader with client := { c.reader.client with protocol := protocol } } }

/-- The state after a step, if the step can be taken. -/
def step (c : TracedClient) : TracedAction → Option TracedClient
  | .reader action =>
    (c.reader.step crcKermit action).map fun reader =>
      { reader := reader
        frames := c.frames ++ action.handed crcKermit c.protocol
        effects := c.effects ++ action.effects crcKermit c.protocol }
  | .setPropertyUpdateReceiver propertyId tx => some (c.setPropertyUpdateReceiver propertyId tx)

/-- Any interleaving of the calls, the reader and the registrations. -/
def Step (c : TracedClient) (action : TracedAction) (c' : TracedClient) : Prop :=
  c.step crcKermit action = some c'

end TracedClient

/-- The value of the property that an effect sends, behind the channel that it is sent to. -/
def Effect.sentFor (propertyId : UInt32) : Effect → Option (ReceiverId × List UInt8)
  | .sendPropertyUpdate receiver propValueIs =>
    if propValueIs.propertyId = propertyId then some (receiver, propValueIs.value) else none
  | .sendResponse _ _ => none
  | .dropSender _ => none
  | .noReceiver _ => none
  | .parseFailed _ => none
  | .unhandledUnsolicited _ => none
  | .unmatched _ => none

end ZigpySpinel.Spinel
