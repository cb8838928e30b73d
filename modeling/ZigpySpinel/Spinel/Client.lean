import ZigpySpinel.Lib.Transition
import ZigpySpinel.Spinel.Protocol

/-!
# Concurrent calls of a client (`spinel_client.rs:131-218`)

All clones of a `SpinelClient` share one protocol object behind a mutex. A call of
`send_command` goes through five points: the locked `prepare_request`, the write to the
port, the wait for its oneshot receiver, and, if the wait fails, the locked
`cancel_request`. Between these points the other calls and the reader take their steps.
A call is named by the number of calls before it, and so is the oneshot channel it made.
-/

namespace ZigpySpinel.Spinel
open Lib

/-- `SpinelSendError` (`spinel_client.rs:137-142`). -/
inductive SpinelSendError where
  | ioError
  | channelClosed
  | timeout
  deriving DecidableEq, Repr

/-- What the receiver of a oneshot channel finds in it: nothing yet, the value that was
    sent, or that the sender was dropped unused. -/
inductive Channel where
  | empty
  | value (frame : SpinelFrame)
  | closed
  deriving DecidableEq, Repr

/-- The sender is dropped: a value that was sent before stays. -/
def Channel.dropSender : Channel → Channel
  | .empty => .closed
  | .value frame => .value frame
  | .closed => .closed

/-- The points of `send_command` (`spinel_client.rs:184-217`) at which other tasks run. -/
inductive Phase where
  /-- the request is prepared, `port.write` has not returned -/
  | writing
  /-- in `timeout(TIMEOUT, rx)` -/
  | waiting
  /-- in one of the two error arms, before the lock is taken -/
  | cancelling (error : SpinelSendError)
  | returned (result : Except SpinelSendError SpinelFrame)

/-- A call of `send_command` (`spinel_client.rs:179-218`). -/
structure SendCommand where
  frame : SpinelFrame
  channel : Channel
  phase : Phase

namespace SendCommand

/-- `frame.header.transaction_id`, the id that `cancel_request` is given. -/
def tid (call : SendCommand) : UInt8 := call.frame.header.transactionId

/-- `port.write` returns `Ok` (`spinel_client.rs:198-201`). -/
def written (call : SendCommand) : Option SendCommand :=
  match call.phase with
  | .writing => some { call with phase := .waiting }
  | .waiting => none
  | .cancelling _ => none
  | .returned _ => none

/-- `port.write` returns an error: `?` ends the call at once (`spinel_client.rs:198-201`). -/
def writeFailed (call : SendCommand) : Option SendCommand :=
  match call.phase with
  | .writing => some { call with phase := .returned (.error .ioError) }
  | .waiting => none
  | .cancelling _ => none
  | .returned _ => none

/-- The receiver resolves (`spinel_client.rs:204-210`). -/
def resolved (call : SendCommand) : Option SendCommand :=
  match call.phase with
  | .waiting =>
    match call.channel with
    | .empty => none
    | .value frame => some { call with phase := .returned (.ok frame) }
    | .closed => some { call with phase := .cancelling .channelClosed }
  | .writing => none
  | .cancelling _ => none
  | .returned _ => none

/-- The time runs out (`spinel_client.rs:211-216`). `timeout` looks at the receiver first,
    so what has come of its channel counts, not the time. -/
def elapsed (call : SendCommand) : Option SendCommand :=
  match call.phase with
  | .waiting =>
    match call.channel with
    | .empty => some { call with phase := .cancelling .timeout }
    | .value _ => none
    | .closed => none
  | .writing => none
  | .cancelling _ => none
  | .returned _ => none

theorem written_eq_some {call call' : SendCommand} (h : call.written = some call') :
    call.phase = .writing ∧ call' = { call with phase := .waiting } := by
  rcases call with ⟨frame, channel, phase⟩
  cases phase with
  | writing =>
    cases h
    exact ⟨rfl, rfl⟩
  | waiting => cases h
  | cancelling error => cases h
  | returned result => cases h

theorem writeFailed_eq_some {call call' : SendCommand} (h : call.writeFailed = some call') :
    call.phase = .writing ∧ call' = { call with phase := .returned (.error .ioError) } := by
  rcases call with ⟨frame, channel, phase⟩
  cases phase with
  | writing =>
    cases h
    exact ⟨rfl, rfl⟩
  | waiting => cases h
  | cancelling error => cases h
  | returned result => cases h

/-- The receiver resolves to a response, or to an error that the call is going to cancel for. -/
theorem resolved_eq_some {call call' : SendCommand} (h : call.resolved = some call') :
    call.phase = .waiting ∧
      ((∃ response, call.channel = .value response ∧
          call' = { call with phase := .returned (.ok response) }) ∨
        (call.channel = .closed ∧ call' = { call with phase := .cancelling .channelClosed })) := by
  rcases call with ⟨frame, channel, phase⟩
  cases phase with
  | waiting =>
    cases channel with
    | empty => cases h
    | value response =>
      cases h
      exact ⟨rfl, Or.inl ⟨response, rfl, rfl⟩⟩
    | closed =>
      cases h
      exact ⟨rfl, Or.inr ⟨rfl, rfl⟩⟩
  | writing => cases h
  | cancelling error => cases h
  | returned result => cases h

theorem elapsed_eq_some {call call' : SendCommand} (h : call.elapsed = some call') :
    call.phase = .waiting ∧ call.channel = .empty ∧
      call' = { call with phase := .cancelling .timeout } := by
  rcases call with ⟨frame, channel, phase⟩
  cases phase with
  | waiting =>
    cases channel with
    | empty =>
      cases h
      exact ⟨rfl, rfl, rfl⟩
    | value response => cases h
    | closed => cases h
  | writing => cases h
  | cancelling error => cases h
  | returned result => cases h

/-- The call can still get to its `cancel_request`: it is on its way there, or it has not
    found its response. -/
def MayCancel (call : SendCommand) : Prop :=
  match call.phase with
  | .writing => ∀ frame, call.channel ≠ .value frame
  | .waiting => ∀ frame, call.channel ≠ .value frame
  | .cancelling _ => True
  | .returned _ => False

end SendCommand

/-- The protocol object that all clones share, and the calls so far. -/
structure SpinelClient where
  protocol : SpinelProtocol
  calls : SenderId → Option SendCommand
  nextCall : Nat

/-- The steps of the calls and of the reader. -/
inductive Action where
  /-- a new call, up to the end of its first locked section -/
  | prepare (commandId : UInt8) (payload : List UInt8)
  | written (call : SenderId)
  | writeFailed (call : SenderId)
  /-- the reader hands a frame to the protocol object -/
  | inbound (frame : SpinelFrame)
  | resolved (call : SenderId)
  | elapsed (call : SenderId)
  /-- the locked `cancel_request` of a call -/
  | cancel (call : SenderId)
  deriving DecidableEq, Repr

namespace SpinelClient

/-- `SpinelClient::new`, before any call. -/
def new : SpinelClient where
  protocol := .new
  calls := fun _ => none
  nextCall := 0

/-- What a call sees of an effect of the protocol object on its channel. -/
def deliver (calls : SenderId → Option SendCommand) : Effect → SenderId → Option SendCommand
  | .sendResponse sender frame =>
    Function.update calls sender
      ((calls sender).map fun call => { call with channel := .value frame })
  | .dropSender sender =>
    Function.update calls sender
      ((calls sender).map fun call => { call with channel := call.channel.dropSender })
  | .sendPropertyUpdate _ _ => calls
  | .noReceiver _ => calls
  | .parseFailed _ => calls
  | .unhandledUnsolicited _ => calls
  | .unmatched _ => calls

/-- One call has gone on. -/
def withCall (c : SpinelClient) (id : SenderId) (call : SendCommand) : SpinelClient :=
  { c with calls := Function.update c.calls id (some call) }

@[simp] theorem withCall_calls_self (c : SpinelClient) (id : SenderId) (call : SendCommand) :
    (c.withCall id call).calls id = some call := Function.update_self ..

@[simp] theorem withCall_protocol (c : SpinelClient) (id : SenderId) (call : SendCommand) :
    (c.withCall id call).protocol = c.protocol := rfl

theorem withCall_calls_of_ne (c : SpinelClient) {id id' : SenderId} (h : id' ≠ id)
    (call : SendCommand) : (c.withCall id call).calls id' = c.calls id' :=
  Function.update_of_ne h ..

/-- One call takes a step of its own. -/
def stepCall (c : SpinelClient) (id : SenderId) (f : SendCommand → Option SendCommand) :
    Option SpinelClient :=
  match c.calls id with
  | some call =>
    match f call with
    | some call' => some (c.withCall id call')
    | none => none
  | none => none

/-- A new call runs up to the end of its first locked section (`spinel_client.rs:184-187`). -/
def prepared (c : SpinelClient) (commandId : UInt8) (payload : List UInt8) : SpinelClient :=
  let (protocol, frame, effects) := c.protocol.prepareRequest c.nextCall commandId payload
  { protocol := protocol
    calls := Function.update (effects.foldl deliver c.calls) c.nextCall
      (some { frame := frame, channel := .empty, phase := .writing })
    nextCall := c.nextCall + 1 }

/-- The reader hands a frame to the protocol object (`spinel_client.rs:162-165`). -/
def received (c : SpinelClient) (frame : SpinelFrame) : SpinelClient :=
  let (protocol, effects) := c.protocol.handleInboundFrame frame
  { c with protocol := protocol, calls := effects.foldl deliver c.calls }

/-- The second locked section of a call (`spinel_client.rs:207-209`, `212-215`). -/
def cancelled (c : SpinelClient) (id : SenderId) (call : SendCommand) (error : SpinelSendError) :
    SpinelClient :=
  let (protocol, effects) := c.protocol.cancelRequest call.tid
  { c with
    protocol := protocol
    calls := Function.update (effects.foldl deliver c.calls) id
      (some { call with phase := .returned (.error error) }) }

/-- The state after a step, if the step can be taken. -/
def step (c : SpinelClient) : Action → Option SpinelClient
  | .prepare commandId payload => some (c.prepared commandId payload)
  | .written id => c.stepCall id SendCommand.written
  | .writeFailed id => c.stepCall id SendCommand.writeFailed
  | .inbound frame => some (c.received frame)
  | .resolved id => c.stepCall id SendCommand.resolved
  | .elapsed id => c.stepCall id SendCommand.elapsed
  | .cancel id =>
    match c.calls id with
    | some call =>
      match call.phase with
      | .cancelling error => some (c.cancelled id call error)
      | .writing => none
      | .waiting => none
      | .returned _ => none
    | none => none

section Step

variable (c : SpinelClient)

@[simp] theorem prepared_nextCall (commandId : UInt8) (payload : List UInt8) :
    (c.prepared commandId payload).nextCall = c.nextCall + 1 := rfl

@[simp] theorem prepared_pendingFrames (commandId : UInt8) (payload : List UInt8) :
    (c.prepared commandId payload).protocol.pendingFrames =
      Function.update c.protocol.pendingFrames c.protocol.nextTid (some c.nextCall) := rfl

/-- The effect of a new request on the older calls: the sender it replaces is dropped. -/
def prepareEffects : List Effect :=
  match c.protocol.pendingFrames c.protocol.nextTid with
  | some replaced => [.dropSender replaced]
  | none => []

@[simp] theorem prepared_calls (commandId : UInt8) (payload : List UInt8) :
    (c.prepared commandId payload).calls =
      Function.update (c.prepareEffects.foldl deliver c.calls) c.nextCall
        (some {
          frame := {
            header := { flag := 0b10, networkLinkId := 0, transactionId := c.protocol.nextTid }
            commandId := commandId
            payload := payload }
          channel := .empty
          phase := .writing }) := rfl

@[simp] theorem received_nextCall (frame : SpinelFrame) :
    (c.received frame).nextCall = c.nextCall := rfl

@[simp] theorem received_protocol (frame : SpinelFrame) :
    (c.received frame).protocol = (c.protocol.handleInboundFrame frame).1 := rfl

@[simp] theorem received_calls (frame : SpinelFrame) :
    (c.received frame).calls = (c.protocol.handleInboundFrame frame).2.foldl deliver c.calls := rfl

variable (id : SenderId) (call : SendCommand) (error : SpinelSendError)

@[simp] theorem cancelled_nextCall : (c.cancelled id call error).nextCall = c.nextCall := rfl

@[simp] theorem cancelled_pendingFrames :
    (c.cancelled id call error).protocol.pendingFrames =
      Function.update c.protocol.pendingFrames call.tid none := rfl

@[simp] theorem cancelled_calls :
    (c.cancelled id call error).calls =
      Function.update ((c.protocol.cancelRequest call.tid).2.foldl deliver c.calls) id
        (some { call with phase := .returned (.error error) }) := rfl

end Step

/-- Any interleaving of the calls and the reader. -/
def Step (c : SpinelClient) (action : Action) (c' : SpinelClient) : Prop :=
  c.step action = some c'

/-- The steps one after the other, as far as they can be taken. -/
def stepAll (c : SpinelClient) (actions : List Action) : Option SpinelClient :=
  actions.foldlM step c

theorem run_of_stepAll {c c' : SpinelClient} {actions : List Action}
    (h : c.stepAll actions = some c') : Run Step c actions c' :=
  Run.of_foldlM h

/-- The `cancel_request` of a call takes the entry of another call out of the table. -/
def CancelsOther (c : SpinelClient) (action : Action) (c' : SpinelClient) : Prop :=
  ∃ id call other, action = .cancel id ∧ c.calls id = some call ∧ other ≠ id ∧
    c.protocol.pendingFrames call.tid = some other ∧ c'.protocol.pendingFrames call.tid = none

/-- A request is prepared only while no call that can still cancel holds its id. -/
def NextTidUnclaimed (c : SpinelClient) : Action → Prop
  | .prepare _ _ => ∀ id call, c.calls id = some call → call.MayCancel →
      call.tid ≠ c.protocol.nextTid
  | .written _ => True
  | .writeFailed _ => True
  | .inbound _ => True
  | .resolved _ => True
  | .elapsed _ => True
  | .cancel _ => True

end SpinelClient

end ZigpySpinel.Spinel
