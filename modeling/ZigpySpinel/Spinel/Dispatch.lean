import ZigpySpinel.Lib.Transition
import ZigpySpinel.Spinel.Protocol

/-!
# Requests over a whole run

A run of a protocol object as its users drive it: requests are prepared, frames come in
and requests are cancelled, in any order. Beside the object the state keeps the number
of requests so far, which names the oneshot channel of the next one, and the history of
the calls, newest first. What a request is owed is said of the history alone
(`Outstanding`); the table of the protocol object does not occur in it.
-/

namespace ZigpySpinel.Spinel
open Lib

/-- One call of the three functions that touch the table of pending requests. -/
inductive Op where
  | prepareRequest (commandId : UInt8) (payload : List UInt8)
  | handleInboundFrame (frame : SpinelFrame)
  | cancelRequest (tid : UInt8)
  deriving DecidableEq, Repr

/-- What a call did. -/
inductive Event where
  | prepared (request : SenderId) (tid : UInt8)
  | received (effects : List Effect)
  | cancelled (tid : UInt8)
  deriving DecidableEq, Repr

/-- The protocol object with its history. -/
structure Dispatch where
  protocol : SpinelProtocol
  nextChannel : Nat
  history : List Event

namespace Dispatch

/-- Right after `SpinelProtocol::new()`. -/
def start : Dispatch where
  protocol := .new
  nextChannel := 0
  history := []

/-- The call, with a new oneshot channel for every request. -/
def apply (s : Dispatch) : Op → Dispatch
  | .prepareRequest commandId payload =>
    let (protocol, frame, _) := s.protocol.prepareRequest s.nextChannel commandId payload
    { protocol := protocol
      nextChannel := s.nextChannel + 1
      history := .prepared s.nextChannel frame.header.transactionId :: s.history }
  | .handleInboundFrame frame =>
    let (protocol, effects) := s.protocol.handleInboundFrame frame
    { s with protocol := protocol, history := .received effects :: s.history }
  | .cancelRequest tid =>
    { s with
      protocol := (s.protocol.cancelRequest tid).1
      history := .cancelled tid :: s.history }

section Apply

variable (s : Dispatch)

@[simp] theorem apply_prepareRequest_pendingFrames (commandId : UInt8) (payload : List UInt8) :
    (s.apply (.prepareRequest commandId payload)).protocol.pendingFrames =
      Function.update s.protocol.pendingFrames s.protocol.nextTid (some s.nextChannel) := rfl

@[simp] theorem apply_prepareRequest_nextTid (commandId : UInt8) (payload : List UInt8) :
    (s.apply (.prepareRequest commandId payload)).protocol.nextTid =
      1 + s.protocol.nextTid % 7 := rfl

@[simp] theorem apply_prepareRequest_nextChannel (commandId : UInt8) (payload : List UInt8) :
    (s.apply (.prepareRequest commandId payload)).nextChannel = s.nextChannel + 1 := rfl

@[simp] theorem apply_prepareRequest_history (commandId : UInt8) (payload : List UInt8) :
    (s.apply (.prepareRequest commandId payload)).history =
      .prepared s.nextChannel s.protocol.nextTid :: s.history := rfl

@[simp] theorem apply_handleInboundFrame_protocol (frame : SpinelFrame) :
    (s.apply (.handleInboundFrame frame)).protocol = (s.protocol.handleInboundFrame frame).1 := rfl

@[simp] theorem apply_handleInboundFrame_nextChannel (frame : SpinelFrame) :
    (s.apply (.handleInboundFrame frame)).nextChannel = s.nextChannel := rfl

@[simp] theorem apply_handleInboundFrame_history (frame : SpinelFrame) :
    (s.apply (.handleInboundFrame frame)).history =
      .received (s.protocol.handleInboundFrame frame).2 :: s.history := rfl

@[simp] theorem apply_cancelRequest_pendingFrames (tid : UInt8) :
    (s.apply (.cancelRequest tid)).protocol.pendingFrames =
      Function.update s.protocol.pendingFrames tid none := rfl

@[simp] theorem apply_cancelRequest_nextTid (tid : UInt8) :
    (s.apply (.cancelRequest tid)).protocol.nextTid = s.protocol.nextTid := rfl

@[simp] theorem apply_cancelRequest_nextChannel (tid : UInt8) :
    (s.apply (.cancelRequest tid)).nextChannel = s.nextChannel := rfl

@[simp] theorem apply_cancelRequest_history (tid : UInt8) :
    (s.apply (.cancelRequest tid)).history = .cancelled tid :: s.history := rfl

end Apply

/-- Calls follow each other in any order. -/
def Step (s : Dispatch) (op : Op) (t : Dispatch) : Prop := t = s.apply op

/-- `prepare_request` is called only while its next transaction id is not a key of the table. -/
def NextTidFree (s : Dispatch) : Op → Prop
  | .prepareRequest _ _ => s.protocol.pendingFrames s.protocol.nextTid = none
  | .handleInboundFrame _ => True
  | .cancelRequest _ => True

theorem run_foldl (ops : List Op) (s : Dispatch) : Run Step s ops (ops.foldl apply s) := by
  induction ops generalizing s with
  | nil => exact .nil s
  | cons op ops ih => exact .cons rfl (ih (s.apply op))

end Dispatch

/-! ## What a request is owed -/

/-- The frame that an effect sends to a request, if it does. -/
def Effect.sentTo (request : SenderId) : Effect → Option SpinelFrame
  | .sendResponse sender frame => if sender = request then some frame else none
  | .dropSender _ => none
  | .sendPropertyUpdate _ _ => none
  | .noReceiver _ => none
  | .parseFailed _ => none
  | .unhandledUnsolicited _ => none
  | .unmatched _ => none

/-- The frames that a call sends to a request. -/
def Event.sentTo (request : SenderId) : Event → List SpinelFrame
  | .prepared _ _ => []
  | .received effects => effects.filterMap (Effect.sentTo request)
  | .cancelled _ => []

/-- The frames that a request has been sent, newest first. -/
def responses (history : List Event) (request : SenderId) : List SpinelFrame :=
  history.flatMap (Event.sentTo request)

/-- The request was prepared with this transaction id, and since then it was neither
    answered nor cancelled. -/
def Outstanding (history : List Event) (request : SenderId) (tid : UInt8) : Prop :=
  ∃ since before, history = since ++ .prepared request tid :: before ∧
    responses since request = [] ∧ .cancelled tid ∉ since

theorem not_outstanding_nil (request : SenderId) (tid : UInt8) : ¬ Outstanding [] request tid := by
  rintro ⟨since, before, h, -, -⟩
  simp at h

/-- A request is outstanding after one more call if the call prepared it, or if it was
    outstanding and the call neither answered nor cancelled it. -/
theorem outstanding_cons (event : Event) (history : List Event) (request : SenderId) (tid : UInt8) :
    Outstanding (event :: history) request tid ↔
      event = .prepared request tid ∨
        (Outstanding history request tid ∧ event.sentTo request = [] ∧ event ≠ .cancelled tid) := by
  constructor
  · rintro ⟨since, before, heq, hsent, hcancel⟩
    cases since with
    | nil =>
      simp only [List.nil_append, List.cons.injEq] at heq
      exact .inl heq.1
    | cons newest since =>
      simp only [List.cons_append, List.cons.injEq] at heq
      rcases heq with ⟨rfl, hhistory⟩
      simp only [responses, List.flatMap_cons, List.append_eq_nil_iff] at hsent
      simp only [List.mem_cons, not_or] at hcancel
      exact .inr ⟨⟨since, before, hhistory, hsent.2, hcancel.2⟩, hsent.1, Ne.symm hcancel.1⟩
  · rintro (rfl | ⟨⟨since, before, rfl, hsent, hcancel⟩, hnow, hne⟩)
    · exact ⟨[], history, rfl, rfl, List.not_mem_nil⟩
    · refine ⟨event :: since, before, rfl, ?_, ?_⟩
      · rw [responses, List.flatMap_cons, hnow]
        exact hsent
      · simp only [List.mem_cons, not_or]
        exact ⟨Ne.symm hne, hcancel⟩

end ZigpySpinel.Spinel
