import ZigpySpinel.Python.SendPacket
import ZigpySpinel.Lib.Transition

/-!
# Concurrent tasks of the application (`application.py:123-530`)

`send_packet` and the packet callback are coroutines. Each runs without interruption up to the
next `await` that blocks: it waits for the answer to an attempt, or it pauses behind `NO_ACK`.
A stretch is what it does between two of them. The event loop takes the stretches of all calls
in any order, and a call may be cancelled where it waits.
-/

namespace ZigpySpinel.Python
open Lib

/-- A coroutine of the application. -/
inductive Call where
  | sendPacket (packet : OutgoingPacket)
  | packetCallback (value : List UInt8)
  deriving DecidableEq, Repr

/-- A call inside `_send_spinel_frame`, with the locals that are used behind an `await`. -/
structure Sending where
  frame : IEEE802154Frame
  /-- the attempts behind this one -/
  remaining : Nat
  attempt : Nat
  /-- whether it is in `asyncio.sleep` behind `NO_ACK` -/
  pausing : Bool
  /-- what the callback hands over afterwards -/
  delivers : Option ReceivedPacket
  deriving DecidableEq, Repr

/-- Where a call stands. -/
inductive CallProgress where
  | running (sending : Sending)
  | finished (result : Except PyException Unit)
  | cancelled
  deriving DecidableEq, Repr

/-- What a stretch does, and where it leaves the call. -/
structure Stretch where
  effects : List CallbackEffect
  progress : CallProgress
  deriving DecidableEq, Repr

namespace Stretch

/-- The call raises. -/
def raises (e : PyException) : Stretch where
  effects := []
  progress := .finished (.error e)

/-- The call returns, with a packet for `zigpy` if it has one. -/
def returns (delivers : Option ReceivedPacket) : Stretch where
  effects := delivers.toList.map .packetReceived
  progress := .finished (.ok ())

/-- The head of the loop of `_send_spinel_frame` (`application.py:215-250`): another attempt, or
    the end of the loop. -/
def sends (channel : Int) (frame : IEEE802154Frame) (delivers : Option ReceivedPacket) :
    (remaining attempt : Nat) → Stretch
  | 0, _ => returns delivers
  | remaining + 1, attempt =>
    match streamRawValue channel frame with
    | .error e => raises e
    | .ok value => {
        effects := [.setProperty .streamRaw value]
        progress := .running {
          frame := frame
          remaining := remaining
          attempt := attempt
          pausing := false
          delivers := delivers } }

end Stretch

/-- The stretch that follows an answer (`application.py:253-279`). -/
def Sending.answered (sending : Sending) (answer : Except PyException (PropertyID × List UInt8)) :
    Stretch :=
  match statusOf answer with
  | .error e => .raises e
  | .ok status =>
    if status = noAck then { effects := [], progress := .running { sending with pausing := true } }
    else .returns sending.delivers

/-- The stretch that follows a pause. -/
def Sending.resumed (sending : Sending) (channel : Int) : Stretch :=
  .sends channel sending.frame sending.delivers sending.remaining (sending.attempt + 1)

variable (encryptBlock : Key → Block → Block)

/-- A reply up to its first attempt, with what is handed over afterwards. -/
def beginReply (attempts : Nat) (ieeeFrame : IEEE802154Frame)
    (place : AppState → AppState × Option DecryptedZigbeeNwkFrame)
    (delivers : Option ReceivedPacket) (app : PacketApp) : PacketApp × Stretch :=
  let (state, reply) := place app.toAppState
  let app := { app with toAppState := state }
  match replyFrame encryptBlock app.key ieeeFrame reply with
  | .error e => (app, .raises e)
  | .ok frame => (app, .sends app.channel frame delivers attempts 0)

/-- The first stretch of `send_packet` (`application.py:123-212`). -/
def beginSendPacket (packet : OutgoingPacket) (app : PacketApp) : PacketApp × Stretch :=
  let (state, nwkFrame) := AppState.sendPacket packet.toZigbeePacket app.toAppState
  let app := { app with toAppState := state }
  match packetIeeeFrame encryptBlock app packet nwkFrame with
  | .error e => (app, .raises e)
  | .ok frame => (app, .sends app.channel frame none 5 0)

/-- The first stretch of the callback behind the decrypted frame (`application.py:322-530`). -/
def beginFrame (r : ReceivedFrame) (app : PacketApp) : PacketApp × Stretch :=
  match isRouteRequest r.decrypted with
  | .error e => (app, .raises e)
  | .ok true =>
    beginReply encryptBlock 5 r.ieeeFrame (AppState.sendRouteReply r.nwkFrame.nwkHeader) none app
  | .ok false =>
    if r.decrypted.nwkHeader.frameControl.frameType ≠ .data then (app, .returns none)
    else
      match ZigbeeApsFrame.fromBytes r.decrypted.payload with
      | .error e => (app, .raises e)
      | .ok aps =>
        let packet := receivedPacket r.decrypted.nwkHeader aps
        if aps.frameControl.frameType ≠ .data then (app, .returns none)
        else if aps.frameControl.ackRequest then
          beginReply encryptBlock 1 r.ieeeFrame (AppState.sendApsAck r.nwkFrame.nwkHeader aps)
            (some packet) app
        else (app, .returns (some packet))

/-- The first stretch of the callback. -/
def beginPacketCallback (value : List UInt8) (app : PacketApp) : PacketApp × Stretch :=
  match receive encryptBlock app value with
  | .error e => (app, .raises e)
  | .ok none => (app, .returns none)
  | .ok (some r) => beginFrame encryptBlock r app

/-- The first stretch of a call. -/
def Call.begin (call : Call) (app : PacketApp) : PacketApp × Stretch :=
  match call with
  | .sendPacket packet => beginSendPacket encryptBlock packet app
  | .packetCallback value => beginPacketCallback encryptBlock value app

/-- The whole call without an interruption. -/
def Call.run (call : Call) (answers : Answers) (app : PacketApp) :
    CallbackState × Except PyException Unit :=
  match call with
  | .sendPacket packet => Python.sendPacket encryptBlock answers packet (.start app)
  | .packetCallback value => Python.packetCallback encryptBlock answers app value

/-! ## The event loop -/

/-- A call with the answers that it has got. -/
structure CallRecord where
  call : Call
  answers : List (Except PyException (PropertyID × List UInt8))
  progress : CallProgress
  deriving DecidableEq, Repr

/-- The application, its calls in the order in which they were started, and what they have done
    to others, in the order in which it happened, each with the number of the call. -/
structure Tasks where
  app : PacketApp
  calls : List CallRecord
  effects : List (Nat × CallbackEffect)

/-- What the event loop does. -/
inductive TaskAction where
  | start (call : Call)
  | answer (index : Nat) (answer : Except PyException (PropertyID × List UInt8))
  | resume (index : Nat)
  | cancel (index : Nat)

namespace Tasks

/-- An application without calls. -/
def new (app : PacketApp) : Tasks where
  app := app
  calls := []
  effects := []

/-- What one of the calls has done. -/
def effectsOf (t : Tasks) (index : Nat) : List CallbackEffect :=
  t.effects.filterMap fun effect => if effect.1 = index then some effect.2 else none

/-- A call takes a stretch. -/
def take (t : Tasks) (index : Nat) (record : CallRecord) (stretch : Stretch) : Tasks :=
  { t with
    calls := t.calls.set index { record with progress := stretch.progress }
    effects := t.effects ++ stretch.effects.map fun effect => (index, effect) }

/-- A new call takes its first stretch. -/
def start (t : Tasks) (call : Call) : Tasks :=
  let (app, stretch) := call.begin encryptBlock t.app
  { app := app
    calls := t.calls ++ [{ call := call, answers := [], progress := stretch.progress }]
    effects := t.effects ++ stretch.effects.map fun effect => (t.calls.length, effect) }

/-- The answer to an attempt arrives at the call. -/
def answer (t : Tasks) (index : Nat) (record : CallRecord)
    (answer : Except PyException (PropertyID × List UInt8)) : Option Tasks :=
  match record.progress with
  | .running sending =>
    if sending.pausing then none
    else some (t.take index { record with answers := record.answers ++ [answer] }
      (sending.answered answer))
  | _ => none

/-- The pause of the call is over. -/
def resume (t : Tasks) (index : Nat) (record : CallRecord) : Option Tasks :=
  match record.progress with
  | .running sending =>
    if sending.pausing then some (t.take index record (sending.resumed t.app.channel)) else none
  | _ => none

/-- `asyncio.CancelledError` is raised where the call waits. -/
def cancel (t : Tasks) (index : Nat) (record : CallRecord) : Option Tasks :=
  match record.progress with
  | .running _ => some (t.take index record { effects := [], progress := .cancelled })
  | _ => none

/-- The state after an action, `none` where it is not possible. -/
def step (t : Tasks) : TaskAction → Option Tasks
  | .start call => some (t.start encryptBlock call)
  | .answer index a => do t.answer index (← t.calls[index]?) a
  | .resume index => do t.resume index (← t.calls[index]?)
  | .cancel index => do t.cancel index (← t.calls[index]?)

/-- The steps of the event loop. -/
def Step (t : Tasks) (action : TaskAction) (t' : Tasks) : Prop :=
  t.step encryptBlock action = some t'

end Tasks

/-! ## One call after the other -/

/-- The calls one after the other, each without an interruption and with answers of its own. -/
def sequential (answers : Nat → Answers) (app : PacketApp) (calls : List Call) :
    PacketApp × List (CallbackState × Except PyException Unit) :=
  calls.foldl
    (fun (app, results) call =>
      let result := call.run encryptBlock (answers results.length) app
      (result.1.app, results ++ [result]))
    (app, [])

end ZigpySpinel.Python
