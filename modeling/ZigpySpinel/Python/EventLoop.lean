import ZigpySpinel.Lib.Transition
import ZigpySpinel.Python.Spinel

/-!
# Concurrent requests of the Python package (`spinel.py:114-179`)

`send_frame` is a coroutine. It runs without interruption up to the next `await` and from
there on when the event loop resumes it. An `Action` is one such stretch of one call, or a
callback of the transport. The loop may take them in any order: a call that waits may time
out although its response has come, and it may be cancelled.
-/

namespace ZigpySpinel.Python
open Lib

/-- Where a call of `send_frame` stands. -/
inductive SendPhase where
  /-- `await asyncio.shield(future)` (`spinel.py:147`) in this attempt -/
  | awaiting (attempt : Nat)
  /-- `await asyncio.sleep(retry_delay)` (`spinel.py:160`) behind this attempt -/
  | sleeping (attempt : Nat)
  /-- the call has returned or raised -/
  | finished (result : Except PyException (Option SpinelFrame))

/-- A call of `send_frame` with the locals that are used behind an `await`. -/
structure SendFrame where
  tid : Nat
  newFrame : SpinelFrame
  retries : Int
  phase : SendPhase

/-- The call has neither returned nor raised. -/
def SendFrame.Unfinished (call : SendFrame) : Prop :=
  match call.phase with
  | .awaiting _ => True
  | .sleeping _ => True
  | .finished _ => False

/-- The protocol object, its `send_frame` calls and everything that has been done so far. -/
structure EventLoop where
  protocol : SpinelProtocol
  calls : FutureId → Option SendFrame
  nextCall : FutureId
  trace : List Effect

/-- What the event loop runs. -/
inductive Action where
  /-- `connection_made` (`common.py:133-137`) -/
  | connectionMade
  | addPropertyListener (propertyId : PropertyID) (callback : ListenerId)
  | removePropertyListener (propertyId : PropertyID) (callback : ListenerId)
  | dataReceived (data : List UInt8)
  /-- a new call of `send_frame`, up to its first `await` -/
  | sendFrame (frame : SpinelFrame) (waitResponse : Bool) (retries : Int)
  /-- the response arrives at the call -/
  | resolved (call : FutureId)
  /-- the timeout of the attempt elapses -/
  | timedOut (call : FutureId)
  /-- the retry delay is over -/
  | retry (call : FutureId)
  /-- the task of the call is cancelled -/
  | cancelled (call : FutureId)

namespace EventLoop

/-- An event loop with a new protocol object. -/
def new : EventLoop where
  protocol := .new
  calls := fun _ => none
  nextCall := 0
  trace := []

/-- The call goes on from here. -/
def withCall (l : EventLoop) (id : FutureId) (call : SendFrame) : EventLoop :=
  { l with calls := Function.update l.calls id (some call) }

def log (l : EventLoop) (effects : List Effect) : EventLoop :=
  { l with trace := l.trace ++ effects }

/-- The call leaves the `try` block, and with it `_pending_frames` (`spinel.py:161-162`). -/
def finish (l : EventLoop) (id : FutureId) (call : SendFrame)
    (result : Except PyException (Option SpinelFrame)) : EventLoop :=
  { l with protocol := l.protocol.popRequest call.tid }.withCall id
    { call with phase := .finished result }

variable (crc16Kermit : List UInt8 → UInt16)

/-- A pass of the `for` loop up to its first `await` that blocks (`spinel.py:141-147`): a
    response that has come is returned at once. -/
def attempt (l : EventLoop) (id : FutureId) (call : SendFrame) (attempt : Nat) : EventLoop :=
  match l.protocol.transmit crc16Kermit call.newFrame with
  | .error e => l.finish id call (.error e)
  | .ok data =>
    match l.protocol.futures id with
    | .done response => (l.log [.write data]).finish id call (.ok (some response))
    | .pending => (l.log [.write data]).withCall id { call with phase := .awaiting attempt }

/-- A request that waits for no response (`spinel.py:135-138`). -/
def sendOnly (l : EventLoop) (id : FutureId) (call : SendFrame) : EventLoop :=
  match l.protocol.transmit crc16Kermit call.newFrame with
  | .error e => l.withCall id { call with phase := .finished (.error e) }
  | .ok data => (l.log [.write data]).withCall id { call with phase := .finished (.ok none) }

/-- `send_frame` up to its first `await` (`spinel.py:123-147`). -/
def sendFrame (l : EventLoop) (frame : SpinelFrame) (waitResponse : Bool) (retries : Int) :
    EventLoop :=
  let id := l.nextCall
  let tid := l.protocol.nextTid
  let call : SendFrame := {
    tid := tid
    newFrame := frame.withTransactionId tid
    retries := retries
    phase := .awaiting 0 }
  let l := { l with protocol := l.protocol.registerRequest id, nextCall := id + 1 }
  if !waitResponse then l.sendOnly crc16Kermit id call
  -- without an attempt the loop ends at once, and "Unreachable" is reached
  else if retries + 1 ≤ 0 then l.finish id call (.error .assertionError)
  else l.attempt crc16Kermit id call 0

/-- `send_command` (`spinel.py:166-179`) up to its first `await`. -/
def sendCommand (l : EventLoop) (commandId : CommandID) (data : List UInt8) (waitResponse : Bool)
    (retries : Int) : EventLoop :=
  let header : SpinelHeader := { transactionId := none, networkLinkId := 0, flag := 0b10 }
  l.sendFrame crc16Kermit { header := header, commandId := commandId, data := data } waitResponse
    retries

/-- The future is done, and the call returns its result (`spinel.py:147`). -/
def resolved (l : EventLoop) (id : FutureId) (call : SendFrame) : Option EventLoop :=
  match call.phase, l.protocol.futures id with
  | .awaiting _, .done response => some (l.finish id call (.ok (some response)))
  | _, _ => none

/-- The handler of `asyncio.TimeoutError` (`spinel.py:148-160`). -/
def timedOut (l : EventLoop) (id : FutureId) (call : SendFrame) : Option EventLoop :=
  match call.phase with
  | .awaiting attempt =>
    if attempt ≥ call.retries then some (l.finish id call (.error .timeoutError))
    else some (l.withCall id { call with phase := .sleeping attempt })
  | _ => none

/-- The next attempt. -/
def retry (l : EventLoop) (id : FutureId) (call : SendFrame) : Option EventLoop :=
  match call.phase with
  | .sleeping attempt => some (l.attempt crc16Kermit id call (attempt + 1))
  | _ => none

/-- `asyncio.CancelledError` is raised where the call waits. -/
def cancelled (l : EventLoop) (id : FutureId) (call : SendFrame) : Option EventLoop :=
  match call.phase with
  | .finished _ => none
  | _ => some (l.finish id call (.error .cancelledError))

/-- The callback of the transport: an exception goes to the event loop. -/
def dataReceived (l : EventLoop) (data : List UInt8) : EventLoop :=
  let called := l.protocol.dataReceived crc16Kermit data
  { l with protocol := called.protocol }.log (called.effects ++ called.raised.toList.map Effect.unhandled)

/-- One action, `none` where it is not possible. -/
def step (l : EventLoop) : Action → Option EventLoop
  | .connectionMade => some { l with protocol := { l.protocol with connected := true } }
  | .addPropertyListener propertyId callback =>
    some { l with protocol := l.protocol.addPropertyListener propertyId callback }
  | .removePropertyListener propertyId callback =>
    match l.protocol.removePropertyListener propertyId callback with
    | .ok protocol => some { l with protocol := protocol }
    -- the exception goes to the caller
    | .error _ => some l
  | .dataReceived data => some (l.dataReceived crc16Kermit data)
  | .sendFrame frame waitResponse retries =>
    some (l.sendFrame crc16Kermit frame waitResponse retries)
  | .resolved id => do l.resolved id (← l.calls id)
  | .timedOut id => do l.timedOut id (← l.calls id)
  | .retry id => do l.retry crc16Kermit id (← l.calls id)
  | .cancelled id => do l.cancelled id (← l.calls id)

/-- The steps of the event loop. -/
def Step (l : EventLoop) (action : Action) (l' : EventLoop) : Prop :=
  l.step crc16Kermit action = some l'

end EventLoop

end ZigpySpinel.Python
