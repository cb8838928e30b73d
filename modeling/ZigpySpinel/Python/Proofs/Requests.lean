import ZigpySpinel.Python.EventLoop
import ZigpySpinel.Python.Proofs.ReceiveLoop

/-!
# What an action does to the requests

An action is a callback of the transport, something without an effect on the requests, the
rest of a call that is resumed, or the beginning of a new call. `step_cases` says this once,
with what each of them does to the table, the calls, the buffer and the trace. In every state
of a run, an entry of the table is under the transaction id of the call whose future it is.
-/

namespace ZigpySpinel.Python
open Lib

/-- The call that an action resumes. -/
def Action.resumed : Action → Option FutureId
  | .resolved id => some id
  | .timedOut id => some id
  | .retry id => some id
  | .cancelled id => some id
  | .sendFrame _ _ _ => none
  | .dataReceived _ => none
  | .connectionMade => none
  | .addPropertyListener _ _ => none
  | .removePropertyListener _ _ => none

/-- The bytes that an action receives. -/
def Action.received : Action → Option (List UInt8)
  | .dataReceived data => some data
  | .resolved _ => none
  | .timedOut _ => none
  | .retry _ => none
  | .cancelled _ => none
  | .sendFrame _ _ _ => none
  | .connectionMade => none
  | .addPropertyListener _ _ => none
  | .removePropertyListener _ _ => none

namespace EventLoop

/-- Nothing but writes and the protocol object, and of that not the buffer. -/
structure Quiet (l l' : EventLoop) : Prop where
  buffer : l'.protocol.buffer = l.protocol.buffer
  trace : ∃ writes : List (List UInt8), l'.trace = l.trace ++ writes.map Effect.write

/-- A stretch of a call, which is another one behind it. -/
structure Goes (l : EventLoop) (id : FutureId) (call : SendFrame) (l' : EventLoop)
    (call' : SendFrame) : Prop where
  quiet : Quiet l l'
  tid : call'.tid = call.tid
  calls : l'.calls = Function.update l.calls id (some call')
  nextCall : l'.nextCall = l.nextCall

/-- The call keeps the table as it is, or takes the entry of its transaction id out and ends. -/
def Pops (l : EventLoop) (l' : EventLoop) (call' : SendFrame) : Prop :=
  (call'.Unfinished ∧ l'.protocol.pendingFrames = l.protocol.pendingFrames) ∨
    (¬ call'.Unfinished ∧
      l'.protocol.pendingFrames = Function.update l.protocol.pendingFrames call'.tid none)

/-- The event loop with the request of a new call, before anything is sent. -/
def registered (l : EventLoop) : EventLoop :=
  { l with protocol := l.protocol.registerRequest l.nextCall, nextCall := l.nextCall + 1 }

theorem registered_pendingFrames (l : EventLoop) :
    l.registered.protocol.pendingFrames =
      Function.update l.protocol.pendingFrames l.protocol.nextTid (some l.nextCall) := rfl

theorem Quiet.refl (l : EventLoop) : Quiet l l := ⟨rfl, [], by simp⟩

theorem goes_withCall (l : EventLoop) (id : FutureId) {call call' : SendFrame}
    (htid : call'.tid = call.tid) : Goes l id call (l.withCall id call') call' :=
  ⟨⟨rfl, [], by simp [withCall]⟩, htid, rfl, rfl⟩

theorem goes_finish (l : EventLoop) (id : FutureId) (call : SendFrame)
    (result : Except PyException (Option SpinelFrame)) :
    ∃ call', Goes l id call (l.finish id call result) call' ∧
      Pops l (l.finish id call result) call' :=
  ⟨{ call with phase := .finished result },
    ⟨⟨rfl, [], by simp [finish, withCall]⟩, rfl, rfl, rfl⟩, Or.inr ⟨fun h => h, rfl⟩⟩

/-- What is written before does not change where a call goes. -/
theorem Goes.log {l l' : EventLoop} {id : FutureId} {call call' : SendFrame} {data : List UInt8}
    (h : Goes (l.log [.write data]) id call l' call') : Goes l id call l' call' := by
  obtain ⟨writes, htrace⟩ := h.quiet.trace
  refine ⟨⟨h.quiet.buffer, data :: writes, ?_⟩, h.tid, h.calls, h.nextCall⟩
  rw [htrace, EventLoop.log, List.append_assoc]
  rfl

theorem goes_write (l : EventLoop) (id : FutureId) {call call' : SendFrame} (data : List UInt8)
    (htid : call'.tid = call.tid) :
    Goes l id call ((l.log [.write data]).withCall id call') call' :=
  (goes_withCall (l.log [.write data]) id htid).log

variable (crc16Kermit : List UInt8 → UInt16)

theorem goes_attempt (l : EventLoop) (id : FutureId) (call : SendFrame) (n : Nat) :
    ∃ call', Goes l id call (l.attempt crc16Kermit id call n) call' ∧
      Pops l (l.attempt crc16Kermit id call n) call' := by
  unfold attempt
  cases l.protocol.transmit crc16Kermit call.newFrame with
  | error e => exact goes_finish l id call (.error e)
  | ok data =>
    cases l.protocol.futures id with
    | pending =>
      exact ⟨{ call with phase := .awaiting n }, goes_write l id data rfl,
        Or.inl ⟨trivial, rfl⟩⟩
    | done response =>
      obtain ⟨call', hgoes, hpops⟩ := goes_finish (l.log [.write data]) id call (.ok (some response))
      exact ⟨call', hgoes.log, hpops⟩

/-- A request that waits for no response ends and leaves the table as it is. -/
theorem goes_sendOnly (l : EventLoop) (id : FutureId) (call : SendFrame) :
    ∃ call', Goes l id call (l.sendOnly crc16Kermit id call) call' ∧ ¬ call'.Unfinished ∧
      (l.sendOnly crc16Kermit id call).protocol.pendingFrames = l.protocol.pendingFrames := by
  unfold sendOnly
  cases l.protocol.transmit crc16Kermit call.newFrame with
  | error e =>
    exact ⟨{ call with phase := .finished (.error e) }, goes_withCall l id rfl, fun h => h, rfl⟩
  | ok data =>
    exact ⟨{ call with phase := .finished (.ok none) }, goes_write l id data rfl, fun h => h,
      rfl⟩

/-- The beginning of a call: it registers its request, and goes on from there. -/
theorem sendFrame_cases (l : EventLoop) (frame : SpinelFrame) (waitResponse : Bool)
    (retries : Int) :
    ∃ call call', call.tid = l.protocol.nextTid ∧
      Goes l.registered l.nextCall call (l.sendFrame crc16Kermit frame waitResponse retries) call' ∧
      ((waitResponse = true ∧
          Pops l.registered (l.sendFrame crc16Kermit frame waitResponse retries) call') ∨
        (waitResponse = false ∧ ¬ call'.Unfinished ∧
          (l.sendFrame crc16Kermit frame waitResponse retries).protocol.pendingFrames =
            l.registered.protocol.pendingFrames)) := by
  unfold sendFrame
  refine ⟨{
    tid := l.protocol.nextTid
    newFrame := frame.withTransactionId l.protocol.nextTid
    retries := retries
    phase := .awaiting 0 }, ?_⟩
  cases waitResponse with
  | false =>
    obtain ⟨call', hgoes, hends⟩ := goes_sendOnly crc16Kermit l.registered l.nextCall _
    exact ⟨call', rfl, hgoes, Or.inr ⟨rfl, hends⟩⟩
  | true =>
    by_cases hretries : retries + 1 ≤ 0
    · obtain ⟨call', hgoes, hpops⟩ :=
        goes_finish l.registered l.nextCall _ (.error .assertionError)
      simp only [Bool.not_true, Bool.false_eq_true, if_false, if_pos hretries]
      exact ⟨call', trivial, hgoes, Or.inl ⟨trivial, hpops⟩⟩
    · obtain ⟨call', hgoes, hpops⟩ := goes_attempt crc16Kermit l.registered l.nextCall _ 0
      simp only [Bool.not_true, Bool.false_eq_true, if_false, if_neg hretries]
      exact ⟨call', trivial, hgoes, Or.inl ⟨trivial, hpops⟩⟩

/-! ## The rest of a call -/

theorem unfinished_of_awaiting {call : SendFrame} {n : Nat} (h : call.phase = .awaiting n) :
    call.Unfinished := by
  rw [SendFrame.Unfinished, h]
  trivial

theorem unfinished_of_sleeping {call : SendFrame} {n : Nat} (h : call.phase = .sleeping n) :
    call.Unfinished := by
  rw [SendFrame.Unfinished, h]
  trivial

theorem goes_resolved {l l' : EventLoop} {id : FutureId} {call : SendFrame}
    (h : l.resolved id call = some l') :
    call.Unfinished ∧ ∃ call', Goes l id call l' call' ∧ Pops l l' call' := by
  unfold EventLoop.resolved at h
  split at h
  · rename_i hphase _
    cases h
    exact ⟨unfinished_of_awaiting hphase, goes_finish l id call _⟩
  · cases h

theorem goes_timedOut {l l' : EventLoop} {id : FutureId} {call : SendFrame}
    (h : l.timedOut id call = some l') :
    call.Unfinished ∧ ∃ call', Goes l id call l' call' ∧ Pops l l' call' := by
  unfold EventLoop.timedOut at h
  split at h
  · rename_i n hphase
    refine ⟨unfinished_of_awaiting hphase, ?_⟩
    by_cases hlast : (n : Int) ≥ call.retries
    · rw [if_pos hlast] at h
      cases h
      exact goes_finish l id call _
    · rw [if_neg hlast] at h
      cases h
      exact ⟨{ call with phase := .sleeping n }, goes_withCall l id rfl, Or.inl ⟨trivial, rfl⟩⟩
  · cases h

theorem goes_retry {l l' : EventLoop} {id : FutureId} {call : SendFrame}
    (h : l.retry crc16Kermit id call = some l') :
    call.Unfinished ∧ ∃ call', Goes l id call l' call' ∧ Pops l l' call' := by
  unfold EventLoop.retry at h
  split at h
  · rename_i hphase
    cases h
    exact ⟨unfinished_of_sleeping hphase, goes_attempt crc16Kermit l id call _⟩
  · cases h

theorem goes_cancelled {l l' : EventLoop} {id : FutureId} {call : SendFrame}
    (h : l.cancelled id call = some l') :
    call.Unfinished ∧ ∃ call', Goes l id call l' call' ∧ Pops l l' call' := by
  unfold EventLoop.cancelled at h
  cases hphase : call.phase with
  | awaiting n =>
    rw [hphase] at h
    cases h
    exact ⟨unfinished_of_awaiting hphase, goes_finish l id call _⟩
  | sleeping n =>
    rw [hphase] at h
    cases h
    exact ⟨unfinished_of_sleeping hphase, goes_finish l id call _⟩
  | finished result =>
    rw [hphase] at h
    cases h

/-! ## All actions -/

/-- An action that runs no call and receives nothing. -/
structure Idle (l : EventLoop) (action : Action) (l' : EventLoop) : Prop where
  resumed : action.resumed = none
  received : action.received = none
  ne_sendFrame : ∀ frame waitResponse retries, action ≠ .sendFrame frame waitResponse retries
  quiet : Quiet l l'
  calls : l'.calls = l.calls
  nextCall : l'.nextCall = l.nextCall
  pendingFrames : l'.protocol.pendingFrames = l.protocol.pendingFrames

/-- An action that resumes a call. -/
structure Resumes (l : EventLoop) (action : Action) (l' : EventLoop) (id : FutureId)
    (call call' : SendFrame) : Prop where
  resumed : action.resumed = some id
  received : action.received = none
  call_eq : l.calls id = some call
  unfinished : call.Unfinished
  goes : Goes l id call l' call'
  pops : Pops l l' call'

/-- What an action does. -/
theorem step_cases {l l' : EventLoop} {action : Action} (h : Step crc16Kermit l action l') :
    (∃ data, action = .dataReceived data ∧ l' = l.dataReceived crc16Kermit data) ∨
    Idle l action l' ∨
    (∃ id call call', Resumes l action l' id call call') ∨
    ∃ frame waitResponse retries, action = .sendFrame frame waitResponse retries ∧
      l' = l.sendFrame crc16Kermit frame waitResponse retries := by
  cases action with
  | dataReceived data =>
    cases h
    exact Or.inl ⟨data, rfl, rfl⟩
  | connectionMade =>
    cases h
    exact Or.inr (Or.inl ⟨rfl, rfl, by simp, ⟨rfl, [], by simp⟩, rfl, rfl, rfl⟩)
  | addPropertyListener propertyId callback =>
    cases h
    exact Or.inr (Or.inl ⟨rfl, rfl, by simp, ⟨rfl, [], by simp⟩, rfl, rfl, rfl⟩)
  | removePropertyListener propertyId callback =>
    simp only [Step, step, SpinelProtocol.removePropertyListener] at h
    by_cases hmem : callback ∈ l.protocol.propertyListeners propertyId
    · rw [if_pos hmem] at h
      cases h
      exact Or.inr (Or.inl ⟨rfl, rfl, by simp, ⟨rfl, [], by simp⟩, rfl, rfl, rfl⟩)
    · rw [if_neg hmem] at h
      cases h
      exact Or.inr (Or.inl ⟨rfl, rfl, by simp, Quiet.refl l, rfl, rfl, rfl⟩)
  | sendFrame frame waitResponse retries =>
    cases h
    exact Or.inr (Or.inr (Or.inr ⟨frame, waitResponse, retries, rfl, rfl⟩))
  | resolved id =>
    obtain ⟨call, hcall, h⟩ := Option.bind_eq_some_iff.mp h
    obtain ⟨hunfinished, call', hgoes, hpops⟩ := goes_resolved h
    exact Or.inr (Or.inr (Or.inl ⟨id, call, call', rfl, rfl, hcall, hunfinished, hgoes, hpops⟩))
  | timedOut id =>
    obtain ⟨call, hcall, h⟩ := Option.bind_eq_some_iff.mp h
    obtain ⟨hunfinished, call', hgoes, hpops⟩ := goes_timedOut h
    exact Or.inr (Or.inr (Or.inl ⟨id, call, call', rfl, rfl, hcall, hunfinished, hgoes, hpops⟩))
  | retry id =>
    obtain ⟨call, hcall, h⟩ := Option.bind_eq_some_iff.mp h
    obtain ⟨hunfinished, call', hgoes, hpops⟩ := goes_retry crc16Kermit h
    exact Or.inr (Or.inr (Or.inl ⟨id, call, call', rfl, rfl, hcall, hunfinished, hgoes, hpops⟩))
  | cancelled id =>
    obtain ⟨call, hcall, h⟩ := Option.bind_eq_some_iff.mp h
    obtain ⟨hunfinished, call', hgoes, hpops⟩ := goes_cancelled h
    exact Or.inr (Or.inr (Or.inl ⟨id, call, call', rfl, rfl, hcall, hunfinished, hgoes, hpops⟩))

/-- An action receives bytes, or leaves the buffer alone and does nothing but write. -/
theorem step_received {l l' : EventLoop} {action : Action} (h : Step crc16Kermit l action l') :
    (∃ data, action = .dataReceived data ∧ l' = l.dataReceived crc16Kermit data) ∨
    (action.received = none ∧ Quiet l l') := by
  rcases step_cases crc16Kermit h with
    hreceived | hidle | ⟨id, call, call', hresumes⟩ | ⟨frame, waitResponse, retries, rfl, rfl⟩
  · exact Or.inl hreceived
  · exact Or.inr ⟨hidle.received, hidle.quiet⟩
  · exact Or.inr ⟨hresumes.received, hresumes.goes.quiet⟩
  · obtain ⟨call, call', -, hgoes, -⟩ := l.sendFrame_cases crc16Kermit frame waitResponse retries
    exact Or.inr ⟨rfl, hgoes.quiet.buffer, hgoes.quiet.trace⟩

/-! ## Entries and calls -/

/-- Every entry of the table is under the transaction id of its call. -/
structure Keyed (l : EventLoop) : Prop where
  fresh : ∀ id call, l.calls id = some call → id < l.nextCall
  entry : ∀ tid id, l.protocol.pendingFrames tid = some id →
    ∃ call, l.calls id = some call ∧ call.tid = tid

theorem keyed_new : Keyed new := by
  refine ⟨?_, ?_⟩
  · intro id call h
    cases h
  · intro tid id h
    cases h

theorem Keyed.distinctFutures {l : EventLoop} (h : Keyed l) : l.protocol.DistinctFutures := by
  intro tid tid' id hentry hentry'
  obtain ⟨call, hcall, htid⟩ := h.entry tid id hentry
  obtain ⟨call', hcall', htid'⟩ := h.entry tid' id hentry'
  rw [hcall] at hcall'
  cases hcall'
  rw [← htid, ← htid']

/-- An entry of the table that a call leaves was there before, and is not the one that the
    call takes out when it ends. -/
theorem Pops.entry {l l' : EventLoop} {call' : SendFrame} (h : Pops l l' call') {tid : Nat}
    {id : FutureId} (hentry : l'.protocol.pendingFrames tid = some id) :
    l.protocol.pendingFrames tid = some id ∧ (call'.Unfinished ∨ tid ≠ call'.tid) := by
  rcases h with ⟨hunfinished, hpending⟩ | ⟨-, hpending⟩
  · rw [hpending] at hentry
    exact ⟨hentry, Or.inl hunfinished⟩
  · rw [hpending, Function.update_apply] at hentry
    split at hentry
    · cases hentry
    · rename_i htid
      exact ⟨hentry, Or.inr htid⟩

/-- A call that goes on keeps its transaction id, and the other calls are as they were. -/
theorem Goes.keyed {l l' : EventLoop} {id : FutureId} {call call' : SendFrame}
    (h : Goes l id call l' call') (hid : id < l.nextCall)
    (hfresh : ∀ id call, l.calls id = some call → id < l.nextCall)
    (hentry : ∀ tid id', l'.protocol.pendingFrames tid = some id' →
      (id' = id ∧ call.tid = tid) ∨ (id' ≠ id ∧ ∃ other, l.calls id' = some other ∧ other.tid = tid)) :
    Keyed l' := by
  refine ⟨?_, ?_⟩
  · intro id' other hother
    rw [h.calls, Function.update_apply] at hother
    rw [h.nextCall]
    split at hother
    · rename_i hsame
      rwa [hsame]
    · exact hfresh id' other hother
  · intro tid id' hpending
    rw [h.calls]
    rcases hentry tid id' hpending with ⟨rfl, htid⟩ | ⟨hne, hother⟩
    · exact ⟨call', Function.update_self .., h.tid.trans htid⟩
    · rwa [Function.update_of_ne hne]

theorem Keyed.sendFrame {l : EventLoop} (h : Keyed l) (frame : SpinelFrame) (waitResponse : Bool)
    (retries : Int) : Keyed (l.sendFrame crc16Kermit frame waitResponse retries) := by
  obtain ⟨call, call', htid, hgoes, hpending⟩ :=
    l.sendFrame_cases crc16Kermit frame waitResponse retries
  refine hgoes.keyed (Nat.lt_succ_self _) ?_ ?_
  · intro id other hother
    exact Nat.lt_succ_of_lt (h.fresh id other hother)
  · intro tid id hentry
    have hregistered : l.registered.protocol.pendingFrames tid = some id := by
      rcases hpending with ⟨-, hpops⟩ | ⟨-, -, hkept⟩
      · exact (hpops.entry hentry).1
      · rwa [hkept] at hentry
    rw [registered_pendingFrames, Function.update_apply] at hregistered
    split at hregistered
    · rename_i hnew
      cases hregistered
      exact Or.inl ⟨rfl, htid.trans hnew.symm⟩
    · obtain ⟨other, hother, hkey⟩ := h.entry tid id hregistered
      exact Or.inr ⟨Nat.ne_of_lt (h.fresh id other hother), other, hother, hkey⟩

theorem Keyed.step {l l' : EventLoop} {action : Action} (h : Keyed l)
    (hstep : Step crc16Kermit l action l') : Keyed l' := by
  rcases step_cases crc16Kermit hstep with
    ⟨data, -, rfl⟩ | hidle | ⟨id, call, call', hresumes⟩ | ⟨frame, waitResponse, retries, -, rfl⟩
  · obtain ⟨buffer, futures, hprotocol⟩ := l.protocol.dataReceived_protocol crc16Kermit data
    refine ⟨h.fresh, ?_⟩
    intro tid id hentry
    refine h.entry tid id ?_
    rw [← hentry, dataReceived, log, hprotocol]
  · refine ⟨?_, ?_⟩
    · rw [hidle.calls, hidle.nextCall]
      exact h.fresh
    · rw [hidle.calls, hidle.pendingFrames]
      exact h.entry
  · refine hresumes.goes.keyed (h.fresh id call hresumes.call_eq) h.fresh ?_
    intro tid id' hentry
    obtain ⟨other, hother, htid⟩ := h.entry tid id' (hresumes.pops.entry hentry).1
    by_cases hsame : id' = id
    · subst hsame
      rw [hresumes.call_eq] at hother
      cases hother
      exact Or.inl ⟨rfl, htid⟩
    · exact Or.inr ⟨hsame, other, hother, htid⟩
  · exact h.sendFrame crc16Kermit frame waitResponse retries

theorem keyed_run {actions : List Action} {l : EventLoop}
    (h : Run (Step crc16Kermit) new actions l) : Keyed l :=
  h.inv Keyed (fun _ _ _ hl hstep => hl.step crc16Kermit hstep) keyed_new

end EventLoop

end ZigpySpinel.Python
