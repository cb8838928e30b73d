import ZigpySpinel.Python.Proofs.RequestIsolation
import ZigpySpinel.Python.Proofs.Robustness

/-!
# A request gets the first response with its transaction id

The future of a request is set by the first frame with its transaction id that is passed on
while the request is in the table. `settledBy` says this of all futures at once: every pass of
the receive loop keeps it. A call returns what its future holds, and its entry is under its own
transaction id as long as no later request has taken it.
-/

namespace ZigpySpinel.Python
open Lib

namespace SpinelProtocol

/-! ## Futures and frames -/

/-- A future behind frames that are passed on one after the other. -/
def settledBy (s : SpinelProtocol) (frames : List SpinelFrame) (future : FutureId) : Future :=
  match s.futures future with
  | .done response => .done response
  | .pending =>
    match frames.find? (fun frame => s.pendingFuture frame = some future) with
    | some response => .done response
    | none => .pending

theorem settledBy_of_done {s : SpinelProtocol} {future : FutureId} {response : SpinelFrame}
    (h : s.futures future = .done response) (frames : List SpinelFrame) :
    s.settledBy frames future = .done response := by
  simp only [settledBy, h]

theorem settledBy_nil (s : SpinelProtocol) : s.settledBy [] = s.futures := by
  funext future
  cases h : s.futures future with
  | done response => exact settledBy_of_done h []
  | pending => simp only [settledBy, h, List.find?_nil]

theorem pendingFuture_congr {s s' : SpinelProtocol} (h : s'.pendingFrames = s.pendingFrames) :
    s'.pendingFuture = s.pendingFuture := by
  funext frame
  rw [pendingFuture, h, pendingFuture]

/-- What later frames do depends on the table and on what earlier ones have left. -/
theorem settledBy_append {s s' : SpinelProtocol} {frames : List SpinelFrame}
    (hpending : s'.pendingFrames = s.pendingFrames) (hfutures : s'.futures = s.settledBy frames)
    (later : List SpinelFrame) : s'.settledBy later = s.settledBy (frames ++ later) := by
  funext future
  cases h : s.futures future with
  | done response =>
    have h' : s'.futures future = .done response := by
      rw [hfutures, settledBy_of_done h]
    rw [settledBy_of_done h, settledBy_of_done h']
  | pending =>
    have hnow := congrFun hfutures future
    simp only [settledBy, h] at hnow
    cases hfound : frames.find? (fun frame => s.pendingFuture frame = some future) with
    | some response =>
      rw [hfound] at hnow
      rw [settledBy_of_done hnow]
      simp only [settledBy, h, List.find?_append, hfound, Option.some_or]
    | none =>
      rw [hfound] at hnow
      simp only [settledBy, h, hnow, List.find?_append, hfound, Option.none_or,
        pendingFuture_congr hpending]

theorem frameReceived_futures (s : SpinelProtocol) (frame : SpinelFrame) :
    (s.frameReceived frame).protocol.futures = s.settledBy [frame] := by
  cases hpending : s.pendingFuture frame with
  | none =>
    have hsame : s.settledBy [frame] = s.futures := by
      rw [← settledBy_nil]
      funext future
      simp [settledBy, hpending]
    rw [hsame, frameReceived, completeRequest, hpending]
    dsimp only
    split <;> rfl
  | some answered =>
    cases hanswered : s.futures answered with
    | done response =>
      rw [frameReceived, completeRequest_of_done hpending hanswered]
      funext future
      by_cases hsame : answered = future
      · subst hsame
        rw [settledBy_of_done hanswered]
        exact hanswered
      · rw [← settledBy_nil]
        simp [settledBy, hpending, hsame]
    | pending =>
      have hfutures : (s.frameReceived frame).protocol.futures =
          Function.update s.futures answered (.done frame) := by
        simp only [frameReceived, completeRequest, hpending, setResult, hanswered]
        split <;> rfl
      rw [hfutures]
      funext future
      by_cases hsame : answered = future
      · subst hsame
        simp [settledBy, hpending, hanswered]
      · rw [Function.update_of_ne (Ne.symm hsame), ← settledBy_nil]
        simp [settledBy, hpending, hsame]

/-! ## Listeners -/

theorem addPropertyListener_count (s : SpinelProtocol) (propertyId : PropertyID)
    {callback listener : ListenerId} (h : callback ≠ listener) (changed : PropertyID) :
    ((s.addPropertyListener propertyId callback).propertyListeners changed).count listener =
      (s.propertyListeners changed).count listener := by
  simp only [addPropertyListener, Function.update_apply]
  split
  · rename_i hsame
    rw [hsame, List.count_append, List.count_singleton, beq_false_of_ne h, if_neg (by decide),
      Nat.add_zero]
  · rfl

theorem removePropertyListener_protocol {s s' : SpinelProtocol} {propertyId : PropertyID}
    {callback : ListenerId} (h : s.removePropertyListener propertyId callback = .ok s') :
    ∃ listeners, s' = { s with propertyListeners := listeners } := by
  unfold removePropertyListener at h
  split at h
  · cases h
    exact ⟨_, rfl⟩
  · cases h

theorem removePropertyListener_count {s s' : SpinelProtocol} {propertyId : PropertyID}
    {callback listener : ListenerId} (h : s.removePropertyListener propertyId callback = .ok s')
    (hne : callback ≠ listener) (changed : PropertyID) :
    (s'.propertyListeners changed).count listener =
      (s.propertyListeners changed).count listener := by
  unfold removePropertyListener at h
  split at h
  · cases h
    simp only [Function.update_apply]
    split
    · rename_i hsame
      rw [hsame, List.count_erase_of_ne (Ne.symm hne)]
    · rfl
  · cases h

/-! ## Futures over a call of `data_received` -/

variable (crc16Kermit : List UInt8 → UInt16)

theorem chunkReceived_futures (s : SpinelProtocol) (chunk : List UInt8) :
    (s.chunkReceived crc16Kermit chunk).protocol.futures =
      s.settledBy ((s.chunkReceived crc16Kermit chunk).effects.filterMap Effect.passedFrame) := by
  rw [chunkReceived_passed]
  rcases s.chunkReceived_cases crc16Kermit chunk with
    ⟨hpayload, heq⟩ | ⟨hdlcFrame, hpayload, hframe, heq⟩ | ⟨hdlcFrame, frame, hpayload, hframe, heq⟩
  · rw [heq, hpayload]
    exact s.settledBy_nil.symm
  · rw [heq, hpayload, Option.bind_some, hframe]
    exact s.settledBy_nil.symm
  · rw [heq, hpayload, Option.bind_some, hframe]
    exact s.frameReceived_futures frame

/-- The futures behind a call of `data_received`, whether or not it raises. -/
theorem dataReceived_futures (s : SpinelProtocol) (data : List UInt8) :
    (s.dataReceived crc16Kermit data).protocol.futures =
      s.settledBy ((s.dataReceived crc16Kermit data).effects.filterMap Effect.passedFrame) := by
  obtain ⟨_, _, hrun⟩ := Loop.exec_runs (receivePass_decreasing crc16Kermit)
    { protocol := { s with buffer := s.buffer ++ data } }
  obtain ⟨⟨-, hfutures⟩, -⟩ := hrun.inv
    (fun st => st.protocol.pendingFrames = s.pendingFrames ∧
      st.protocol.futures = s.settledBy (st.effects.filterMap Effect.passedFrame))
    (fun st st' hinv hpass => by
      obtain ⟨hpending, hfutures⟩ := hinv
      obtain ⟨head, tail, -, -, -, rfl⟩ := receivePass_cases crc16Kermit hpass
      generalize hs : ({ st.protocol with buffer := tail } : SpinelProtocol) = next
      have hnext : next.pendingFrames = s.pendingFrames := by
        rw [← hs]
        exact hpending
      have hnextFutures : next.futures =
          s.settledBy (st.effects.filterMap Effect.passedFrame) := by
        rw [← hs]
        exact hfutures
      obtain ⟨futures, hprotocol⟩ := next.chunkReceived_protocol crc16Kermit head
      refine ⟨?_, ?_⟩
      · rw [hprotocol]
        exact hnext
      · dsimp only
        rw [chunkReceived_futures, settledBy_append hnext hnextFutures, List.filterMap_append])
    ⟨rfl, s.settledBy_nil.symm⟩
  exact hfutures

end SpinelProtocol

namespace EventLoop

/-! ## Steps and futures -/

/-- The frames that have been passed on. -/
def frames (l : EventLoop) : List SpinelFrame := l.trace.filterMap Effect.passedFrame

/-- What an action adds to the trace. -/
def added (l l' : EventLoop) : List Effect := l'.trace.drop l.trace.length

theorem added_of_trace {l l' : EventLoop} {effects : List Effect}
    (h : l'.trace = l.trace ++ effects) : added l l' = effects := by
  rw [added, h, List.drop_left]

/-- The frame is a response to the request with this transaction id. -/
def hasTid (tid : Nat) (frame : SpinelFrame) : Bool :=
  frame.header.transactionId.map BitVec.toNat == some tid

theorem Quiet.frames {l l' : EventLoop} (h : Quiet l l') : l'.frames = l.frames := by
  obtain ⟨writes, htrace⟩ := h.trace
  have hnone : (writes.map Effect.write).filterMap Effect.passedFrame = [] := by
    rw [List.filterMap_map]
    exact List.filterMap_eq_nil_iff.mpr fun _ _ => rfl
  rw [EventLoop.frames, htrace, List.filterMap_append, hnone, List.append_nil, EventLoop.frames]

variable (crc16Kermit : List UInt8 → UInt16)

theorem dataReceived_frames (l : EventLoop) (data : List UInt8) :
    (l.dataReceived crc16Kermit data).frames =
      l.frames ++ (l.protocol.dataReceived crc16Kermit data).effects.filterMap Effect.passedFrame := by
  have hnone : ∀ raised : Option PyException,
      (raised.toList.map Effect.unhandled).filterMap Effect.passedFrame = [] := by
    intro raised
    rw [List.filterMap_map]
    exact List.filterMap_eq_nil_iff.mpr fun _ _ => rfl
  simp only [frames, dataReceived, log, List.filterMap_append, hnone, List.append_nil]

/-- The action is about another listener. -/
def Spares (action : Action) (listener : ListenerId) : Prop :=
  ∀ propertyId, action ≠ .addPropertyListener propertyId listener ∧
    action ≠ .removePropertyListener propertyId listener

section Keeps

variable {α : Type} {f : SpinelProtocol → α} (hpop : ∀ s tid, f (s.popRequest tid) = f s)

include hpop

theorem attempt_keeps (l : EventLoop) (id : FutureId) (call : SendFrame) (n : Nat) :
    f (l.attempt crc16Kermit id call n).protocol = f l.protocol := by
  unfold attempt
  split
  · exact hpop l.protocol call.tid
  · split
    · exact hpop l.protocol call.tid
    · rfl

theorem sendFrame_keeps (l : EventLoop) (frame : SpinelFrame) (waitResponse : Bool)
    (retries : Int) :
    f (l.sendFrame crc16Kermit frame waitResponse retries).protocol =
      f (l.protocol.registerRequest l.nextCall) := by
  unfold sendFrame
  dsimp only
  split
  · unfold sendOnly
    split <;> rfl
  · split
    · exact hpop _ _
    · exact attempt_keeps crc16Kermit hpop _ _ _ 0

/-- A call that goes on changes nothing of the protocol object but the table. -/
theorem resumed_keeps {l l' : EventLoop} {action : Action} {id : FutureId}
    (h : Step crc16Kermit l action l') (hresumed : action.resumed = some id) :
    f l'.protocol = f l.protocol := by
  cases action with
  | resolved id =>
    obtain ⟨call, -, h⟩ := Option.bind_eq_some_iff.mp h
    unfold EventLoop.resolved at h
    split at h
    · cases h
      exact hpop l.protocol call.tid
    · cases h
  | timedOut id =>
    obtain ⟨call, -, h⟩ := Option.bind_eq_some_iff.mp h
    unfold EventLoop.timedOut at h
    split at h
    · split at h
      · cases h
        exact hpop l.protocol call.tid
      · cases h
        rfl
    · cases h
  | retry id =>
    obtain ⟨call, -, h⟩ := Option.bind_eq_some_iff.mp h
    unfold EventLoop.retry at h
    split at h
    · cases h
      exact attempt_keeps crc16Kermit hpop l id call _
    · cases h
  | cancelled id =>
    obtain ⟨call, -, h⟩ := Option.bind_eq_some_iff.mp h
    unfold EventLoop.cancelled at h
    split at h
    · cases h
    · cases h
      exact hpop l.protocol call.tid
  | sendFrame frame waitResponse retries => cases hresumed
  | dataReceived data => cases hresumed
  | connectionMade => cases hresumed
  | addPropertyListener propertyId callback => cases hresumed
  | removePropertyListener propertyId callback => cases hresumed

end Keeps

/-- A new request has a future of its own. -/
theorem sendFrame_futures (l : EventLoop) (frame : SpinelFrame) (waitResponse : Bool)
    (retries : Int) :
    (l.sendFrame crc16Kermit frame waitResponse retries).protocol.futures =
      Function.update l.protocol.futures l.nextCall .pending :=
  sendFrame_keeps crc16Kermit (f := SpinelProtocol.futures) (fun _ _ => rfl) l frame waitResponse retries

/-- What is left to the other actions: the connection, and the listeners they are about. -/
theorem idle_eq {l l' : EventLoop} {action : Action} (h : Step crc16Kermit l action l')
    (hidle : Idle l action l') :
    ∃ connected listeners,
      l' = { l with
        protocol := { l.protocol with connected := connected, propertyListeners := listeners } } ∧
      (l.protocol.connected = true → connected = true) ∧
      ∀ listener, Spares action listener → ∀ propertyId,
        (listeners propertyId).count listener =
          (l.protocol.propertyListeners propertyId).count listener := by
  cases action with
  | connectionMade =>
    cases h
    exact ⟨true, _, rfl, fun _ => rfl, fun _ _ _ => rfl⟩
  | addPropertyListener changed callback =>
    cases h
    refine ⟨_, _, rfl, fun hconnected => hconnected, ?_⟩
    intro listener hspares
    refine l.protocol.addPropertyListener_count changed ?_
    rintro rfl
    exact (hspares changed).1 rfl
  | removePropertyListener changed callback =>
    simp only [Step, step] at h
    cases hremoved : l.protocol.removePropertyListener changed callback with
    | error e =>
      rw [hremoved] at h
      cases h
      exact ⟨_, _, rfl, fun hconnected => hconnected, fun _ _ _ => rfl⟩
    | ok protocol =>
      rw [hremoved] at h
      cases h
      obtain ⟨listeners, rfl⟩ := SpinelProtocol.removePropertyListener_protocol hremoved
      refine ⟨_, _, rfl, fun hconnected => hconnected, ?_⟩
      intro listener hspares
      refine SpinelProtocol.removePropertyListener_count hremoved ?_
      rintro rfl
      exact (hspares changed).2 rfl
  | sendFrame frame waitResponse retries => exact absurd rfl (hidle.ne_sendFrame _ _ _)
  | dataReceived data => cases hidle.received
  | resolved id => cases hidle.resumed
  | timedOut id => cases hidle.resumed
  | retry id => cases hidle.resumed
  | cancelled id => cases hidle.resumed

/-- Nothing but received bytes and new requests touches a future. -/
theorem step_futures {l l' : EventLoop} {action : Action} (h : Step crc16Kermit l action l') :
    (∃ data, action = .dataReceived data ∧ l' = l.dataReceived crc16Kermit data) ∨
    (∃ frame waitResponse retries, action = .sendFrame frame waitResponse retries ∧
      l' = l.sendFrame crc16Kermit frame waitResponse retries) ∨
    l'.protocol.futures = l.protocol.futures := by
  rcases step_cases crc16Kermit h with
    hdata | hidle | ⟨id, call, call', hresumes⟩ | hsend
  · exact .inl hdata
  · obtain ⟨connected, listeners, rfl, -⟩ := idle_eq crc16Kermit h hidle
    exact .inr (.inr rfl)
  · exact .inr (.inr (resumed_keeps crc16Kermit (f := SpinelProtocol.futures) (fun _ _ => rfl) h
      hresumes.resumed))
  · exact .inr (.inl hsend)

/-! ## What a call returns -/

/-- The call has returned this response. -/
def Returned (l : EventLoop) (id : FutureId) (response : SpinelFrame) : Prop :=
  ∃ call, l.calls id = some call ∧ call.phase = .finished (.ok (some response))

theorem finish_returned {l : EventLoop} {id : FutureId} {call : SendFrame}
    {result : Except PyException (Option SpinelFrame)} {response : SpinelFrame}
    (h : Returned (l.finish id call result) id response) : result = .ok (some response) := by
  obtain ⟨call', hcall', hphase⟩ := h
  simp only [finish, withCall, Function.update_self] at hcall'
  cases hcall'
  cases hphase
  rfl

theorem withCall_returned {l : EventLoop} {id : FutureId} {call : SendFrame}
    {response : SpinelFrame} (h : Returned (l.withCall id call) id response) :
    call.phase = .finished (.ok (some response)) := by
  obtain ⟨call', hcall', hphase⟩ := h
  simp only [withCall, Function.update_self] at hcall'
  cases hcall'
  exact hphase

theorem attempt_returned {l : EventLoop} {id : FutureId} {call : SendFrame} {n : Nat}
    {response : SpinelFrame} (h : Returned (l.attempt crc16Kermit id call n) id response) :
    l.protocol.futures id = .done response := by
  unfold attempt at h
  split at h
  · cases finish_returned h
  · split at h
    · rename_i hfuture
      cases finish_returned h
      exact hfuture
    · cases withCall_returned h

/-- Behind its first stretch a call has returned no response. -/
theorem sendFrame_returned {l : EventLoop} {frame : SpinelFrame} {waitResponse : Bool}
    {retries : Int} {response : SpinelFrame} :
    ¬ Returned (l.sendFrame crc16Kermit frame waitResponse retries) l.nextCall response := by
  intro h
  unfold sendFrame at h
  dsimp only at h
  split at h
  · unfold sendOnly at h
    split at h
    · cases withCall_returned h
    · cases withCall_returned h
  · split at h
    · cases finish_returned h
    · have hfuture := attempt_returned crc16Kermit h
      simp only [SpinelProtocol.registerRequest, Function.update_self] at hfuture
      cases hfuture

/-- A call that has returned a response did so before, or finds it in its future. -/
theorem Resumes.returned {l l' : EventLoop} {action : Action} {id : FutureId}
    {call call' : SendFrame} (h : Resumes l action l' id call call')
    (hstep : Step crc16Kermit l action l') {response : SpinelFrame}
    (hreturned : Returned l' id response) : l.protocol.futures id = .done response := by
  have hcall := h.call_eq
  have hresumed := h.resumed
  cases action with
  | resolved id' =>
    cases hresumed
    simp only [Step, step, hcall, Option.bind_eq_bind, Option.bind_some, EventLoop.resolved] at hstep
    split at hstep
    · rename_i hfuture
      cases hstep
      cases finish_returned hreturned
      exact hfuture
    · cases hstep
  | timedOut id' =>
    cases hresumed
    simp only [Step, step, hcall, Option.bind_eq_bind, Option.bind_some, EventLoop.timedOut] at hstep
    split at hstep
    · split at hstep
      · cases hstep
        cases finish_returned hreturned
      · cases hstep
        cases withCall_returned hreturned
    · cases hstep
  | retry id' =>
    cases hresumed
    simp only [Step, step, hcall, Option.bind_eq_bind, Option.bind_some, EventLoop.retry] at hstep
    split at hstep
    · cases hstep
      exact attempt_returned crc16Kermit hreturned
    · cases hstep
  | cancelled id' =>
    cases hresumed
    simp only [Step, step, hcall, Option.bind_eq_bind, Option.bind_some, EventLoop.cancelled] at hstep
    split at hstep
    · cases hstep
    · cases hstep
      cases finish_returned hreturned
  | sendFrame frame waitResponse retries => cases hresumed
  | dataReceived data => cases hresumed
  | connectionMade => cases hresumed
  | addPropertyListener propertyId callback => cases hresumed
  | removePropertyListener propertyId callback => cases hresumed

/-- A call returns what its future holds. -/
theorem step_returned {l l' : EventLoop} {action : Action} (hstep : Step crc16Kermit l action l')
    {id : FutureId} {response : SpinelFrame} (h : Returned l' id response) :
    Returned l id response ∨ l.protocol.futures id = .done response := by
  rcases step_cases crc16Kermit hstep with
    ⟨data, -, rfl⟩ | hidle | ⟨id', call, call', hresumes⟩ | ⟨frame, waitResponse, retries, -, rfl⟩
  · exact .inl h
  · obtain ⟨call, hcall, hphase⟩ := h
    rw [hidle.calls] at hcall
    exact .inl ⟨call, hcall, hphase⟩
  · by_cases hsame : id = id'
    · subst hsame
      exact .inr (hresumes.returned crc16Kermit hstep h)
    · obtain ⟨other, hother, hphase⟩ := h
      rw [hresumes.goes.calls, Function.update_of_ne hsame] at hother
      exact .inl ⟨other, hother, hphase⟩
  · by_cases hsame : id = l.nextCall
    · subst hsame
      exact absurd h (sendFrame_returned crc16Kermit)
    · obtain ⟨call, call', -, hgoes, -⟩ := l.sendFrame_cases crc16Kermit frame waitResponse retries
      obtain ⟨other, hother, hphase⟩ := h
      rw [hgoes.calls, Function.update_of_ne hsame] at hother
      exact .inl ⟨other, hother, hphase⟩

/-! ## The entry of a call -/

/-- An entry that is not there any more does not come back. -/
theorem step_entry {l l' : EventLoop} {action : Action} (hstep : Step crc16Kermit l action l')
    {id : FutureId} (hid : id < l.nextCall) {tid : Nat}
    (h : l'.protocol.pendingFrames tid = some id) : l.protocol.pendingFrames tid = some id := by
  rcases step_cases crc16Kermit hstep with
    ⟨data, -, rfl⟩ | hidle | ⟨id', call, call', hresumes⟩ | ⟨frame, waitResponse, retries, -, rfl⟩
  · obtain ⟨buffer, futures, hprotocol⟩ := l.protocol.dataReceived_protocol crc16Kermit data
    rwa [dataReceived, log, hprotocol] at h
  · rwa [hidle.pendingFrames] at h
  · exact (hresumes.pops.entry h).1
  · obtain ⟨call, call', -, -, hpending⟩ :=
      l.sendFrame_cases crc16Kermit frame waitResponse retries
    have hregistered : l.registered.protocol.pendingFrames tid = some id := by
      rcases hpending with ⟨-, hpops⟩ | ⟨-, -, hkept⟩
      · exact (hpops.entry h).1
      · rwa [hkept] at h
    rw [registered_pendingFrames, Function.update_apply] at hregistered
    split at hregistered
    · cases hregistered
      exact absurd hid (Nat.lt_irrefl _)
    · exact hregistered

/-- A call keeps its transaction id. -/
theorem step_call {l l' : EventLoop} {action : Action} (hstep : Step crc16Kermit l action l')
    {id : FutureId} (hid : id < l.nextCall) {tid : Nat}
    (h : ∃ call, l.calls id = some call ∧ call.tid = tid) :
    id < l'.nextCall ∧ ∃ call, l'.calls id = some call ∧ call.tid = tid := by
  rcases step_cases crc16Kermit hstep with
    ⟨data, -, rfl⟩ | hidle | ⟨id', call, call', hresumes⟩ | ⟨frame, waitResponse, retries, -, rfl⟩
  · exact ⟨hid, h⟩
  · rw [hidle.calls, hidle.nextCall]
    exact ⟨hid, h⟩
  · rw [hresumes.goes.calls, hresumes.goes.nextCall]
    refine ⟨hid, ?_⟩
    by_cases hsame : id = id'
    · subst hsame
      obtain ⟨call₀, hcall₀, htid⟩ := h
      rw [hresumes.call_eq] at hcall₀
      cases hcall₀
      exact ⟨call', Function.update_self .., hresumes.goes.tid.trans htid⟩
    · rwa [Function.update_of_ne hsame]
  · obtain ⟨call, call', -, hgoes, -⟩ := l.sendFrame_cases crc16Kermit frame waitResponse retries
    rw [hgoes.calls, hgoes.nextCall, Function.update_of_ne (Nat.ne_of_lt hid)]
    exact ⟨Nat.lt_succ_of_lt hid, h⟩

/-- A frame is for the request whose entry is under its transaction id. -/
theorem Keyed.pendingFuture_iff {l : EventLoop} (h : Keyed l) {id : FutureId} {tid : Nat}
    (hcall : ∃ call, l.calls id = some call ∧ call.tid = tid) (frame : SpinelFrame) :
    l.protocol.pendingFuture frame = some id ↔
      hasTid tid frame = true ∧ l.protocol.pendingFrames tid = some id := by
  obtain ⟨call, hcall, rfl⟩ := hcall
  have hkey : ∀ tid, l.protocol.pendingFrames tid = some id → tid = call.tid := by
    intro tid hentry
    obtain ⟨call', hcall', htid⟩ := h.entry tid id hentry
    rw [hcall] at hcall'
    cases hcall'
    exact htid.symm
  rw [SpinelProtocol.pendingFuture, hasTid, beq_iff_eq]
  cases frame.header.transactionId with
  | none => simp
  | some received =>
    simp only [Option.bind_some, Option.map_some, Option.some.injEq]
    constructor
    · intro hentry
      have htid := hkey _ hentry
      exact ⟨htid, htid ▸ hentry⟩
    · rintro ⟨htid, hentry⟩
      rw [htid, hentry]

/-- An action that receives nothing, and is no new request of this number, leaves a future and
    the frames as they are. -/
theorem step_future {l l' : EventLoop} {action : Action} (hstep : Step crc16Kermit l action l')
    {id : FutureId} (hid : id < l.nextCall) :
    (∃ data, action = .dataReceived data ∧ l' = l.dataReceived crc16Kermit data) ∨
    (l'.protocol.futures id = l.protocol.futures id ∧ l'.frames = l.frames) := by
  rcases step_received crc16Kermit hstep with hreceived | ⟨hnone, hquiet⟩
  · exact .inl hreceived
  · refine .inr ⟨?_, hquiet.frames⟩
    rcases step_futures crc16Kermit hstep with
      ⟨data, rfl, -⟩ | ⟨frame, waitResponse, retries, -, rfl⟩ | hsame
    · cases hnone
    · rw [sendFrame_futures, Function.update_of_ne (Nat.ne_of_lt hid)]
    · rw [hsame]

/-! ## A call over a run -/

/-- A call, its transaction id, and what has been received since the call began. -/
structure Tracks (start : List SpinelFrame) (id : FutureId) (tid : Nat) (l : EventLoop)
    (received : List SpinelFrame) : Prop where
  keyed : Keyed l
  bound : id < l.nextCall
  call : ∃ call, l.calls id = some call ∧ call.tid = tid
  frames : l.frames = start ++ received
  future : ∀ response, l.protocol.futures id = .done response →
    received.find? (hasTid tid) = some response
  waiting : l.protocol.pendingFrames tid = some id → l.protocol.futures id = .pending →
    received.find? (hasTid tid) = none
  returned : ∀ response, Returned l id response → l.protocol.futures id = .done response

theorem tracks_sendFrame {l : EventLoop} (h : Keyed l) (frame : SpinelFrame) (waitResponse : Bool)
    (retries : Int) :
    Tracks l.frames l.nextCall l.protocol.nextTid
      (l.sendFrame crc16Kermit frame waitResponse retries) [] := by
  obtain ⟨call, call', htid, hgoes, -⟩ := l.sendFrame_cases crc16Kermit frame waitResponse retries
  have hfuture : (l.sendFrame crc16Kermit frame waitResponse retries).protocol.futures l.nextCall =
      .pending := by
    rw [sendFrame_futures, Function.update_self]
  refine {
    keyed := h.sendFrame crc16Kermit frame waitResponse retries
    bound := ?_
    call := ⟨call', by rw [hgoes.calls, Function.update_self], hgoes.tid.trans htid⟩
    frames := by rw [hgoes.quiet.frames, List.append_nil]; rfl
    future := ?_
    waiting := fun _ _ => rfl
    returned := fun response hreturned => absurd hreturned (sendFrame_returned crc16Kermit) }
  · rw [hgoes.nextCall]
    exact Nat.lt_succ_self _
  · intro response hdone
    rw [hfuture] at hdone
    cases hdone

/-- What a call that finds a response in its future has behind it. -/
theorem step_returned_done {l l' : EventLoop} {action : Action}
    (hstep : Step crc16Kermit l action l') {id : FutureId} {response : SpinelFrame}
    (hid : id < l.nextCall) (hbefore : Returned l id response →
      l.protocol.futures id = .done response)
    (h : Returned l' id response) : l'.protocol.futures id = .done response := by
  have hdone : l.protocol.futures id = .done response :=
    (step_returned crc16Kermit hstep h).elim hbefore fun hdone => hdone
  rcases step_future crc16Kermit hstep hid with ⟨data, -, rfl⟩ | ⟨hsame, -⟩
  · exact (congrFun (l.protocol.dataReceived_futures crc16Kermit data) id).trans
      (SpinelProtocol.settledBy_of_done hdone _)
  · rw [hsame, hdone]

/-- What received bytes do to a future whose frames so far are known. -/
theorem Tracks.dataReceived {start received : List SpinelFrame} {id : FutureId} {tid : Nat}
    {l : EventLoop} (h : Tracks start id tid l received) (data : List UInt8) :
    Tracks start id tid (l.dataReceived crc16Kermit data)
      (received ++
        (l.protocol.dataReceived crc16Kermit data).effects.filterMap Effect.passedFrame) := by
  have hstep : Step crc16Kermit l (.dataReceived data) (l.dataReceived crc16Kermit data) := rfl
  have hfutures := congrFun (l.protocol.dataReceived_futures crc16Kermit data) id
  obtain ⟨buffer, futures, hprotocol⟩ := l.protocol.dataReceived_protocol crc16Kermit data
  have hpending : (l.dataReceived crc16Kermit data).protocol.pendingFrames =
      l.protocol.pendingFrames := by
    rw [EventLoop.dataReceived, log, hprotocol]
  obtain ⟨hbound, hcall⟩ := step_call crc16Kermit hstep h.bound h.call
  refine {
    keyed := h.keyed.step crc16Kermit hstep
    bound := hbound
    call := hcall
    frames := by rw [dataReceived_frames, h.frames, List.append_assoc]
    future := ?_
    waiting := ?_
    returned := fun response =>
      step_returned_done crc16Kermit hstep h.bound (h.returned response) }
  · intro response hdone
    rw [List.find?_append]
    have hdone' := hfutures.symm.trans hdone
    cases hbefore : l.protocol.futures id with
    | done earlier =>
      rw [SpinelProtocol.settledBy_of_done hbefore] at hdone'
      rw [h.future earlier hbefore, Option.some_or, ← Future.done.inj hdone']
    | pending =>
      simp only [SpinelProtocol.settledBy, hbefore] at hdone'
      split at hdone'
      · rename_i found hfound
        obtain rfl := Future.done.inj hdone'
        have hanswers : l.protocol.pendingFuture found = some id := by
          simpa using List.find?_some hfound
        have hentry := ((h.keyed.pendingFuture_iff h.call found).mp hanswers).2
        have hsame : (fun frame => decide (l.protocol.pendingFuture frame = some id)) =
            hasTid tid := by
          funext frame
          rw [Bool.eq_iff_iff, decide_eq_true_iff, h.keyed.pendingFuture_iff h.call]
          exact and_iff_left hentry
        rw [h.waiting hentry hbefore, Option.none_or, ← hsame, hfound]
      · cases hdone'
  · intro hentry hpendingAfter
    rw [hpending] at hentry
    have hpending' := hfutures.symm.trans hpendingAfter
    have hbefore : l.protocol.futures id = .pending := by
      cases hbefore : l.protocol.futures id with
      | pending => rfl
      | done earlier =>
        rw [SpinelProtocol.settledBy_of_done hbefore] at hpending'
        cases hpending'
    simp only [SpinelProtocol.settledBy, hbefore] at hpending'
    split at hpending'
    · cases hpending'
    · rename_i hnone
      rw [List.find?_append, h.waiting hentry hbefore, Option.none_or, List.find?_eq_none]
      intro frame hframe htid
      refine List.find?_eq_none.mp hnone frame hframe (decide_eq_true ?_)
      exact (h.keyed.pendingFuture_iff h.call frame).mpr ⟨htid, hentry⟩

theorem Tracks.step {start received : List SpinelFrame} {id : FutureId} {tid : Nat}
    {l l' : EventLoop} {action : Action} (h : Tracks start id tid l received)
    (hstep : Step crc16Kermit l action l') : ∃ received, Tracks start id tid l' received := by
  rcases step_future crc16Kermit hstep h.bound with ⟨data, -, rfl⟩ | ⟨hfuture, hframes⟩
  · exact ⟨_, h.dataReceived crc16Kermit data⟩
  · obtain ⟨hbound, hcall⟩ := step_call crc16Kermit hstep h.bound h.call
    refine ⟨received, {
      keyed := h.keyed.step crc16Kermit hstep
      bound := hbound
      call := hcall
      frames := by rw [hframes, h.frames]
      future := by rw [hfuture]; exact h.future
      waiting := ?_
      returned := fun response =>
        step_returned_done crc16Kermit hstep h.bound (h.returned response) }⟩
    intro hentry hpending
    rw [hfuture] at hpending
    exact h.waiting (step_entry crc16Kermit hstep h.bound hentry) hpending

theorem tracks_run {before after : List Action} {l₀ l₁ l : EventLoop} {frame : SpinelFrame}
    {waitResponse : Bool} {retries : Int} (hbefore : Run (Step crc16Kermit) new before l₀)
    (hcall : Step crc16Kermit l₀ (.sendFrame frame waitResponse retries) l₁)
    (hafter : Run (Step crc16Kermit) l₁ after l) :
    ∃ received, Tracks l₀.frames l₀.nextCall l₀.protocol.nextTid l received := by
  refine hafter.inv (fun l => ∃ received, Tracks l₀.frames l₀.nextCall l₀.protocol.nextTid l received)
    ?_ ?_
  · rintro l action l' ⟨received, htracks⟩ hstep
    exact htracks.step crc16Kermit hstep
  · cases hcall
    exact ⟨[], tracks_sendFrame crc16Kermit (keyed_run crc16Kermit hbefore) frame waitResponse
      retries⟩

/-- The request of the call has been taken out of the table before a response came. -/
structure Lost (id : FutureId) (tid : Nat) (l : EventLoop) : Prop where
  keyed : Keyed l
  bound : id < l.nextCall
  call : ∃ call, l.calls id = some call ∧ call.tid = tid
  entry : l.protocol.pendingFrames tid ≠ some id
  future : l.protocol.futures id = .pending
  returned : ∀ response, ¬ Returned l id response

theorem Lost.step {id : FutureId} {tid : Nat} {l l' : EventLoop} {action : Action}
    (h : Lost id tid l) (hstep : Step crc16Kermit l action l') : Lost id tid l' := by
  obtain ⟨hbound, hcall⟩ := step_call crc16Kermit hstep h.bound h.call
  refine {
    keyed := h.keyed.step crc16Kermit hstep
    bound := hbound
    call := hcall
    entry := fun hentry => h.entry (step_entry crc16Kermit hstep h.bound hentry)
    future := ?_
    returned := ?_ }
  · rcases step_future crc16Kermit hstep h.bound with ⟨data, -, rfl⟩ | ⟨hsame, -⟩
    · refine (congrFun (l.protocol.dataReceived_futures crc16Kermit data) id).trans ?_
      simp only [SpinelProtocol.settledBy, h.future]
      split
      · rename_i found hfound
        have hanswers : l.protocol.pendingFuture found = some id := by
          simpa using List.find?_some hfound
        exact absurd ((h.keyed.pendingFuture_iff h.call found).mp hanswers).2 h.entry
      · rfl
    · rw [hsame, h.future]
  · intro response hreturned
    rcases step_returned crc16Kermit hstep hreturned with hbefore | hdone
    · exact h.returned response hbefore
    · rw [h.future] at hdone
      cases hdone

/-- A call returns the first frame with its transaction id that is passed on after it began. As
    long as its entry is in the table, it can return exactly that frame; once the entry is gone
    and none has come, it never returns a response. -/
theorem response_is_first {before after : List Action} {l₀ l₁ l : EventLoop} {frame : SpinelFrame}
    {waitResponse : Bool} {retries : Int} (hbefore : Run (Step crc16Kermit) new before l₀)
    (hcall : Step crc16Kermit l₀ (.sendFrame frame waitResponse retries) l₁)
    (hafter : Run (Step crc16Kermit) l₁ after l) :
    ∃ received, l.frames = l₀.frames ++ received ∧
      (∀ response, Returned l l₀.nextCall response →
        received.find? (hasTid l₀.protocol.nextTid) = some response) ∧
      (l.protocol.pendingFrames l₀.protocol.nextTid = some l₀.nextCall →
        ∀ call n, l.calls l₀.nextCall = some call → call.phase = .awaiting n →
          ∀ response, (∃ l', Step crc16Kermit l (.resolved l₀.nextCall) l' ∧
            Returned l' l₀.nextCall response) ↔
              received.find? (hasTid l₀.protocol.nextTid) = some response) ∧
      (l.protocol.pendingFrames l₀.protocol.nextTid ≠ some l₀.nextCall →
        received.find? (hasTid l₀.protocol.nextTid) = none →
          ∀ later l', Run (Step crc16Kermit) l later l' →
            ∀ response, ¬ Returned l' l₀.nextCall response) := by
  obtain ⟨received, h⟩ := tracks_run crc16Kermit hbefore hcall hafter
  refine ⟨received, h.frames, ?_, ?_, ?_⟩
  · intro response hreturned
    exact h.future response (h.returned response hreturned)
  · intro hentry call n hcall hphase response
    constructor
    · rintro ⟨l', hstep, hreturned⟩
      rcases step_returned crc16Kermit hstep hreturned with hreturned | hdone
      · exact h.future response (h.returned response hreturned)
      · exact h.future response hdone
    · intro hfound
      have hdone : l.protocol.futures l₀.nextCall = .done response := by
        cases hfuture : l.protocol.futures l₀.nextCall with
        | pending =>
          rw [h.waiting hentry hfuture] at hfound
          cases hfound
        | done earlier =>
          rw [h.future earlier hfuture] at hfound
          rw [Option.some.inj hfound]
      refine ⟨l.finish l₀.nextCall call (.ok (some response)), ?_, ?_⟩
      · simp only [Step, EventLoop.step, hcall, Option.bind_eq_bind, Option.bind_some, resolved,
          hphase, hdone]
      · exact ⟨{ call with phase := .finished (.ok (some response)) }, Function.update_self .., rfl⟩
  · intro hentry hnone later l' hlater response
    have hlost : Lost l₀.nextCall l₀.protocol.nextTid l := {
      keyed := h.keyed
      bound := h.bound
      call := h.call
      entry := hentry
      future := by
        cases hfuture : l.protocol.futures l₀.nextCall with
        | pending => rfl
        | done earlier =>
          rw [h.future earlier hfuture] at hnone
          cases hnone
      returned := fun response hreturned => by
        rw [h.future response (h.returned response hreturned)] at hnone
        cases hnone }
    exact (hlater.inv (Lost l₀.nextCall l₀.protocol.nextTid)
      (fun _ _ _ hl hstep => hl.step crc16Kermit hstep) hlost).returned response

/-- The request for the version returns its response. -/
theorem response_is_first_version :
    ∃ l received response, Run (Step (fun _ => 0x5286)) new
        [.connectionMade, versionRequest, .dataReceived versionResponse, .resolved 0] l ∧
      l.frames = received ∧ Returned l 0 response ∧
      received.find? (hasTid 3) = some response := by
  have hbefore : Run (Step (fun _ => 0x5286)) new [.connectionMade] connected := .single rfl
  have hcall : Step (fun _ => 0x5286) connected versionRequest
    (connected.sendFrame (fun _ => 0x5286) ⟨⟨none, 0, 0b10⟩, .propValueGet, [0x02]⟩ true 3) := rfl
  have hafter : Run (Step (fun _ => 0x5286))
      (connected.sendFrame (fun _ => 0x5286) ⟨⟨none, 0, 0b10⟩, .propValueGet, [0x02]⟩ true 3)
      [.dataReceived versionResponse, .resolved 0] _ := Run.of_foldlM rfl
  obtain ⟨received, hframes, hreturns, -⟩ :=
    response_is_first (fun _ => 0x5286) hbefore hcall hafter
  exact ⟨_, received, _, hbefore.append (.cons hcall hafter), hframes, ⟨_, rfl, rfl⟩,
    hreturns _ ⟨_, rfl, rfl⟩⟩

end EventLoop

end ZigpySpinel.Python
