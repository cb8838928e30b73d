import ZigpySpinel.Python.EventLoop
import ZigpySpinel.Python.PacketCallback

/-!
# Waiting for a property (`spinel.py:233-269`)

`wait_for_property` reads the values of a property from the queue of an asynchronous
generator, whose listener is `queue.put_nowait`. The listener is there when the call first
waits. It is removed when the call is cancelled; a call that returns leaves the generator
behind, and the event loop closes it later. `reset` goes from its command to the waiting
without an `await` that blocks.
-/

namespace ZigpySpinel.Python
open Lib

/-- `ResetReason` (`spinel_types.py:213-216`). -/
inductive ResetReason where
  | platform
  | stack
  | bootloader
  deriving DecidableEq, Repr

def ResetReason.value : ResetReason → UInt8
  | platform => 1
  | stack => 2
  | bootloader => 3

/-- `serialize` of an `enum8`. -/
def ResetReason.serialize (reason : ResetReason) : List UInt8 := [reason.value]

/-- `Status.RESET_POWER_ON` (`spinel_types.py:255`). -/
def resetPowerOn : UInt8 := 112

/-- Where a call of `wait_for_property` stands. -/
inductive WaitPhase where
  /-- `await queue.get()` (`spinel.py:242`) -/
  | waiting
  /-- the call has returned, and its generator is still open -/
  | returned
  /-- the generator has been closed -/
  | closed
  | cancelled
  /-- the `finally` block has raised -/
  | raised (exception : PyException)
  deriving DecidableEq, Repr

/-- A call of `wait_for_property`, with the queue of its generator. -/
structure PropertyWait where
  propertyId : PropertyID
  value : List UInt8
  queue : List (List UInt8)
  phase : WaitPhase

/-- The listener of the call is registered. -/
def PropertyWait.Listening (wait : PropertyWait) : Prop :=
  wait.phase = .waiting ∨ wait.phase = .returned

/-- The loops of the call and of its generator, up to the next `await` that blocks
    (`spinel.py:241-243`, `spinel.py:248-250`). -/
def PropertyWait.next (wait : PropertyWait) : List (List UInt8) → PropertyWait
  | [] => { wait with queue := [] }
  | changedValue :: queue =>
    if changedValue = wait.value then { wait with queue := queue, phase := .returned }
    else wait.next queue

/-- What a listener was called with. -/
def Effect.heardBy (listener : ListenerId) : Effect → Option (List UInt8)
  | .callListener called data => if called = listener then some data else none
  | _ => none

/-- `queue.put_nowait` for each call of the listener. -/
def PropertyWait.put (wait : PropertyWait) (values : List (List UInt8)) : PropertyWait :=
  { wait with queue := wait.queue ++ values }

/-- The event loop with the calls of `wait_for_property`, each under its listener. Other
    listeners have numbers as well. -/
structure PropertyWaits where
  loop : EventLoop
  waits : ListenerId → Option PropertyWait
  nextListener : ListenerId

inductive WaitAction where
  | loop (action : Action)
  /-- somebody else creates a listener -/
  | newListener
  | waitForProperty (propertyId : PropertyID) (value : List UInt8)
  | reset (resetType : ResetReason)
  /-- the queue of the call has an item -/
  | resumed (listener : ListenerId)
  | cancelled (listener : ListenerId)
  /-- `aclose` of the generator of a call that has returned -/
  | closed (listener : ListenerId)

namespace PropertyWaits

def new : PropertyWaits where
  loop := .new
  waits := fun _ => none
  nextListener := 0

def withWait (s : PropertyWaits) (listener : ListenerId) (wait : PropertyWait) : PropertyWaits :=
  { s with waits := Function.update s.waits listener (some wait) }

/-- The listener of an action is one of those that belong to no call. -/
def Foreign (s : PropertyWaits) : Action → Prop
  | .addPropertyListener _ listener => listener < s.nextListener ∧ s.waits listener = none
  | .removePropertyListener _ listener => listener < s.nextListener ∧ s.waits listener = none
  | _ => True

instance (s : PropertyWaits) : (action : Action) → Decidable (s.Foreign action)
  | .addPropertyListener _ listener =>
    inferInstanceAs (Decidable (listener < s.nextListener ∧ s.waits listener = none))
  | .removePropertyListener _ listener =>
    inferInstanceAs (Decidable (listener < s.nextListener ∧ s.waits listener = none))
  | .connectionMade => isTrue trivial
  | .dataReceived _ => isTrue trivial
  | .sendFrame _ _ _ => isTrue trivial
  | .resolved _ => isTrue trivial
  | .timedOut _ => isTrue trivial
  | .retry _ => isTrue trivial
  | .cancelled _ => isTrue trivial

/-- The event loop goes on, and the queues get what the listeners are called with. -/
def goOn (s : PropertyWaits) (loop : EventLoop) : PropertyWaits :=
  { s with
    loop := loop
    waits := fun listener => (s.waits listener).map (fun wait =>
      wait.put ((loop.trace.drop s.loop.trace.length).filterMap (Effect.heardBy listener))) }

/-- `wait_for_property` up to its first `await` (`spinel.py:236-242`, `spinel.py:247-248`). -/
def waitForProperty (s : PropertyWaits) (propertyId : PropertyID) (value : List UInt8) :
    PropertyWaits :=
  let wait : PropertyWait := {
    propertyId := propertyId
    value := value
    queue := []
    phase := .waiting }
  let loop := { s.loop with
    protocol := s.loop.protocol.addPropertyListener propertyId s.nextListener }
  { s with loop := loop, nextListener := s.nextListener + 1 }.withWait s.nextListener wait

/-- The call has raised. -/
def hasRaised (loop : EventLoop) (id : FutureId) : Bool :=
  match (loop.calls id).map SendFrame.phase with
  | some (.finished (.error _)) => true
  | _ => false

variable (crc16Kermit : List UInt8 → UInt16)

/-- `reset` up to its first `await` that blocks (`spinel.py:252-269`). -/
def reset (s : PropertyWaits) (resetType : ResetReason) : PropertyWaits :=
  let id := s.loop.nextCall
  let s := s.goOn (s.loop.sendCommand crc16Kermit .reset resetType.serialize false 3)
  if hasRaised s.loop id then s
  -- `asyncio.sleep`, behind which nothing follows
  else if resetType = .bootloader then s
  else s.waitForProperty .lastStatus [resetPowerOn]

/-- The `finally` block (`spinel.py:244-245`), and what it leaves the call in. -/
def finallyBlock (s : PropertyWaits) (listener : ListenerId) (wait : PropertyWait)
    (phase : WaitPhase) : PropertyWaits :=
  match s.loop.protocol.removePropertyListener wait.propertyId listener with
  | .ok protocol =>
    { s with loop := { s.loop with protocol := protocol } }.withWait listener
      { wait with phase := phase }
  | .error e => s.withWait listener { wait with phase := .raised e }

/-- The task of the call runs. -/
def resumed (s : PropertyWaits) (listener : ListenerId) (wait : PropertyWait) :
    Option PropertyWaits :=
  if wait.phase = .waiting ∧ wait.queue ≠ [] then
    some (s.withWait listener (wait.next wait.queue))
  else none

def cancelled (s : PropertyWaits) (listener : ListenerId) (wait : PropertyWait) :
    Option PropertyWaits :=
  if wait.phase = .waiting then some (s.finallyBlock listener wait .cancelled) else none

def closed (s : PropertyWaits) (listener : ListenerId) (wait : PropertyWait) :
    Option PropertyWaits :=
  if wait.phase = .returned then some (s.finallyBlock listener wait .closed) else none

/-- One action, `none` where it is not possible. -/
def step (s : PropertyWaits) : WaitAction → Option PropertyWaits
  | .loop action =>
    if s.Foreign action then (s.loop.step crc16Kermit action).map s.goOn else none
  | .newListener => some { s with nextListener := s.nextListener + 1 }
  | .waitForProperty propertyId value => some (s.waitForProperty propertyId value)
  | .reset resetType => some (s.reset crc16Kermit resetType)
  | .resumed listener => do s.resumed listener (← s.waits listener)
  | .cancelled listener => do s.cancelled listener (← s.waits listener)
  | .closed listener => do s.closed listener (← s.waits listener)

def Step (s : PropertyWaits) (action : WaitAction) (s' : PropertyWaits) : Prop :=
  s.step crc16Kermit action = some s'

end PropertyWaits

end ZigpySpinel.Python
