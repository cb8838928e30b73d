import ZigpySpinel.Python.Proofs.RequestIsolation
import ZigpySpinel.Python.Proofs.Responses

/-!
# What the calls of `send_frame` send

A call sends its frame once in each attempt, and always the same bytes. How often it has done so
follows from where it stands: `Sent` says it for each phase, and every stretch of a call keeps
it. Nothing else writes to the transport.
-/

namespace ZigpySpinel.Python
open Lib

/-- The bytes that are given to the transport. -/
def Effect.written : Effect → Option (List UInt8)
  | .write data => some data
  | _ => none

/-- How often a call has sent its frame when it stands here. -/
def SendPhase.Sent (retries : Int) : SendPhase → Nat → Prop
  | .awaiting attempt, sent => sent = attempt + 1 ∧ (attempt : Int) ≤ retries
  | .sleeping attempt, sent => sent = attempt + 1 ∧ (attempt : Int) < retries
  | .finished (.ok (some _)), sent => 1 ≤ sent ∧ (sent : Int) ≤ retries + 1
  | .finished (.ok none), sent => sent = 1
  | .finished (.error .timeoutError), sent => (sent : Int) = retries + 1
  | .finished (.error .cancelledError), sent => 1 ≤ sent ∧ (sent : Int) ≤ retries + 1
  | .finished (.error _), sent => sent = 0

theorem SendPhase.sent_of_error {retries : Int} {e : PyException} (htimeout : e ≠ .timeoutError)
    (hcancelled : e ≠ .cancelledError) : (SendPhase.finished (.error e)).Sent retries 0 := by
  cases e with
  | timeoutError => exact absurd rfl htimeout
  | cancelledError => exact absurd rfl hcancelled
  | assertionError => exact rfl
  | attributeError => exact rfl
  | typeError => exact rfl
  | valueError message => exact rfl
  | indexError => exact rfl
  | overflowError => exact rfl
  | invalidStateError => exact rfl
  | decryptionFailure message => exact rfl

variable (crc16Kermit : List UInt8 → UInt16)

/-- What the frame is on the wire. -/
def SpinelFrame.wire (frame : SpinelFrame) : List UInt8 :=
  match frame.serialize with
  | .ok data => HDLCLiteFrame.serialize crc16Kermit { data := data }
  | .error _ => []

namespace SpinelProtocol

/-- Sending a frame depends on the connection only. -/
theorem transmit_of_ok {s s' : SpinelProtocol} {frame : SpinelFrame} {data : List UInt8}
    (h : s.transmit crc16Kermit frame = .ok data) (hconnected : s.connected = true →
      s'.connected = true) :
    data = frame.wire crc16Kermit ∧ s'.transmit crc16Kermit frame = .ok data := by
  obtain ⟨payload, hpayload, hsend⟩ := except_bind_eq_ok.mp h
  unfold sendData at hsend
  split at hsend
  · rename_i hs
    cases hsend
    refine ⟨by rw [SpinelFrame.wire, hpayload], ?_⟩
    rw [transmit, hpayload]
    exact if_pos (hconnected hs)
  · cases hsend

theorem serialize_error {frame : SpinelFrame} {e : PyException}
    (h : frame.serialize = .error e) : e ≠ .timeoutError ∧ e ≠ .cancelledError := by
  have hcommand : ∀ {n e}, PackedUInt21.serializeValue n = .error e → e = .indexError := by
    intro n e h
    unfold PackedUInt21.serializeValue at h
    dsimp only at h
    split at h
    · cases h
    · cases h
      rfl
  unfold SpinelFrame.serialize SpinelHeader.serialize at h
  cases htid : frame.header.transactionId with
  | none =>
    rw [htid] at h
    cases h
    exact ⟨by simp, by simp⟩
  | some tid =>
    rw [htid] at h
    cases hserialized : frame.commandId.serialize with
    | error e' =>
      rw [hserialized] at h
      cases h
      rw [hcommand hserialized]
      exact ⟨by simp, by simp⟩
    | ok data =>
      rw [hserialized] at h
      cases h

/-- The exceptions of a call that waits are no others'. -/
theorem transmit_error {s : SpinelProtocol} {frame : SpinelFrame} {e : PyException}
    (h : s.transmit crc16Kermit frame = .error e) : e ≠ .timeoutError ∧ e ≠ .cancelledError := by
  unfold transmit at h
  cases hpayload : frame.serialize with
  | error e' =>
    rw [hpayload] at h
    cases h
    exact serialize_error hpayload
  | ok payload =>
    rw [hpayload] at h
    change s.sendData _ = _ at h
    unfold sendData at h
    split at h
    · cases h
    · cases h
      exact ⟨by simp, by simp⟩

end SpinelProtocol

namespace EventLoop

/-! ## A stretch of a call -/

/-- The call has sent its frame this often, and if it has, it can do so again. -/
structure Counted (s : SpinelProtocol) (call : SendFrame) (sent : Nat) : Prop where
  phase : call.phase.Sent call.retries sent
  again : 0 < sent →
    s.transmit crc16Kermit call.newFrame = .ok (call.newFrame.wire crc16Kermit)

theorem Counted.mono {s s' : SpinelProtocol} {call : SendFrame} {sent : Nat}
    (h : Counted crc16Kermit s call sent) (hconnected : s.connected = true → s'.connected = true) :
    Counted crc16Kermit s' call sent :=
  ⟨h.phase, fun hsent =>
    (SpinelProtocol.transmit_of_ok crc16Kermit (h.again hsent) hconnected).2⟩

/-- A call goes on to another point, and sends its frame on the way as often as the count of
    both says. -/
structure Stretch (l : EventLoop) (id : FutureId) (call : SendFrame) (sent : Nat) (l' : EventLoop)
    (call' : SendFrame) (times : Nat) : Prop where
  frame : call'.newFrame = call.newFrame
  calls : l'.calls = Function.update l.calls id (some call')
  trace : l'.trace = l.trace ++
    (List.replicate times (call'.newFrame.wire crc16Kermit)).map Effect.write
  counted : Counted crc16Kermit l'.protocol call' (sent + times)

theorem stretch_withCall {l : EventLoop} {id : FutureId} (call : SendFrame) {sent : Nat}
    {call' : SendFrame} (hframe : call'.newFrame = call.newFrame)
    (hagain : 0 < sent → l.protocol.transmit crc16Kermit call.newFrame =
      .ok (call.newFrame.wire crc16Kermit)) (hsent : call'.phase.Sent call'.retries sent) :
    Stretch crc16Kermit l id call sent (l.withCall id call') call' 0 := by
  refine ⟨hframe, rfl, (List.append_nil _).symm, hsent, ?_⟩
  rw [hframe]
  exact hagain

theorem stretch_finish (l : EventLoop) (id : FutureId) (call : SendFrame) (sent : Nat)
    (result : Except PyException (Option SpinelFrame))
    (hagain : 0 < sent → l.protocol.transmit crc16Kermit call.newFrame =
      .ok (call.newFrame.wire crc16Kermit))
    (hsent : (SendPhase.finished result).Sent call.retries sent) :
    ∃ call', Stretch crc16Kermit l id call sent (l.finish id call result) call' 0 :=
  ⟨{ call with phase := .finished result }, rfl, rfl, (List.append_nil _).symm, hsent, hagain⟩

/-- The frame is sent before the call goes on. -/
theorem Stretch.log {l l' : EventLoop} {id : FutureId} {call call' : SendFrame} {sent : Nat}
    (h : Stretch crc16Kermit (l.log [.write (call'.newFrame.wire crc16Kermit)]) id call (sent + 1)
      l' call' 0) : Stretch crc16Kermit l id call sent l' call' 1 := by
  refine ⟨h.frame, h.calls, ?_, h.counted⟩
  rw [h.trace]
  simp [EventLoop.log]

/-- An attempt sends the frame once, or raises at the first one. -/
theorem attempt_stretch (l : EventLoop) (id : FutureId) (call : SendFrame) (n : Nat)
    (hn : (n : Int) ≤ call.retries)
    (hagain : 0 < n → l.protocol.transmit crc16Kermit call.newFrame =
      .ok (call.newFrame.wire crc16Kermit)) :
    ∃ call' times, Stretch crc16Kermit l id call n (l.attempt crc16Kermit id call n) call' times := by
  unfold attempt
  cases htransmit : l.protocol.transmit crc16Kermit call.newFrame with
  | error e =>
    have hfirst : n = 0 := by
      by_contra hlater
      rw [hagain (Nat.pos_of_ne_zero hlater)] at htransmit
      cases htransmit
    subst hfirst
    obtain ⟨htimeout, hcancelled⟩ := SpinelProtocol.transmit_error crc16Kermit htransmit
    obtain ⟨call', hstretch⟩ := stretch_finish crc16Kermit l id call 0 (.error e)
      (fun h => absurd h (Nat.lt_irrefl 0)) (SendPhase.sent_of_error htimeout hcancelled)
    exact ⟨call', 0, hstretch⟩
  | ok data =>
    obtain ⟨rfl, -⟩ := SpinelProtocol.transmit_of_ok crc16Kermit htransmit
      (fun h : l.protocol.connected = true => h)
    cases l.protocol.futures id with
    | pending =>
      refine ⟨{ call with phase := .awaiting n }, 1, Stretch.log crc16Kermit ?_⟩
      exact stretch_withCall crc16Kermit call rfl (fun _ => htransmit) ⟨rfl, hn⟩
    | done response =>
      have hsent : (SendPhase.finished (.ok (some response))).Sent call.retries (n + 1) := by
        refine ⟨Nat.succ_pos n, ?_⟩
        push_cast
        omega
      exact ⟨{ call with phase := .finished (.ok (some response)) }, 1,
        Stretch.log crc16Kermit ⟨rfl, rfl, (List.append_nil _).symm, hsent, fun _ => htransmit⟩⟩

theorem sendOnly_stretch (l : EventLoop) (id : FutureId) (call : SendFrame) :
    ∃ call' times, Stretch crc16Kermit l id call 0 (l.sendOnly crc16Kermit id call) call' times := by
  unfold sendOnly
  cases htransmit : l.protocol.transmit crc16Kermit call.newFrame with
  | error e =>
    obtain ⟨htimeout, hcancelled⟩ := SpinelProtocol.transmit_error crc16Kermit htransmit
    exact ⟨{ call with phase := .finished (.error e) }, 0,
      stretch_withCall crc16Kermit call rfl (fun h => absurd h (Nat.lt_irrefl 0))
        (SendPhase.sent_of_error htimeout hcancelled)⟩
  | ok data =>
    obtain ⟨rfl, -⟩ := SpinelProtocol.transmit_of_ok crc16Kermit htransmit
      (fun h : l.protocol.connected = true => h)
    refine ⟨{ call with phase := .finished (.ok none) }, 1, Stretch.log crc16Kermit ?_⟩
    exact stretch_withCall crc16Kermit call rfl (fun _ => htransmit) rfl

/-- The first stretch of a call. -/
theorem sendFrame_stretch (l : EventLoop) (frame : SpinelFrame) (waitResponse : Bool)
    (retries : Int) :
    ∃ call call' times, Stretch crc16Kermit l l.nextCall call 0
      (l.sendFrame crc16Kermit frame waitResponse retries) call' times := by
  unfold sendFrame
  dsimp only
  split
  · obtain ⟨call', times, hstretch⟩ := sendOnly_stretch crc16Kermit l.registered l.nextCall _
    exact ⟨_, call', times, hstretch.frame, hstretch.calls, hstretch.trace, hstretch.counted⟩
  · split
    · obtain ⟨call', hstretch⟩ := stretch_finish crc16Kermit l.registered l.nextCall _ 0
        (.error .assertionError) (fun h => absurd h (Nat.lt_irrefl 0)) rfl
      exact ⟨_, call', 0, hstretch.frame, hstretch.calls, hstretch.trace, hstretch.counted⟩
    · rename_i hretries
      have hfirst : ((0 : Nat) : Int) ≤ retries := by omega
      obtain ⟨call', times, hstretch⟩ := attempt_stretch crc16Kermit l.registered l.nextCall {
        tid := l.protocol.nextTid
        newFrame := frame.withTransactionId l.protocol.nextTid
        retries := retries
        phase := .awaiting 0 } 0 hfirst (fun h => absurd h (Nat.lt_irrefl 0))
      exact ⟨_, call', times, hstretch.frame, hstretch.calls, hstretch.trace, hstretch.counted⟩

/-- The other stretches. -/
theorem resumed_stretch {l l' : EventLoop} {action : Action} {id : FutureId} {call : SendFrame}
    {sent : Nat} (hstep : Step crc16Kermit l action l') (hresumed : action.resumed = some id)
    (hcall : l.calls id = some call) (h : Counted crc16Kermit l.protocol call sent) :
    ∃ call' times, Stretch crc16Kermit l id call sent l' call' times := by
  cases action with
  | resolved id' =>
    cases hresumed
    simp only [Step, step, hcall, Option.bind_eq_bind, Option.bind_some, EventLoop.resolved] at hstep
    split at hstep
    · rename_i attempt response hphase _
      cases hstep
      obtain ⟨rfl, hattempt⟩ : sent = attempt + 1 ∧ (attempt : Int) ≤ call.retries := by
        have hcount := h.phase
        rwa [hphase] at hcount
      obtain ⟨call', hstretch⟩ := stretch_finish crc16Kermit l id call _
        (.ok (some response)) h.again ⟨Nat.succ_pos attempt, by push_cast; omega⟩
      exact ⟨call', 0, hstretch⟩
    · cases hstep
  | timedOut id' =>
    cases hresumed
    simp only [Step, step, hcall, Option.bind_eq_bind, Option.bind_some, EventLoop.timedOut] at hstep
    split at hstep
    · rename_i attempt hphase
      obtain ⟨rfl, hattempt⟩ : sent = attempt + 1 ∧ (attempt : Int) ≤ call.retries := by
        have hcount := h.phase
        rwa [hphase] at hcount
      split at hstep
      · rename_i hlast
        cases hstep
        have hall : ((attempt + 1 : Nat) : Int) = call.retries + 1 := by
          push_cast
          omega
        obtain ⟨call', hstretch⟩ := stretch_finish crc16Kermit l id call _
          (.error .timeoutError) h.again hall
        exact ⟨call', 0, hstretch⟩
      · rename_i hmore
        cases hstep
        exact ⟨_, 0, stretch_withCall crc16Kermit call rfl h.again
          ⟨rfl, Int.not_le.mp hmore⟩⟩
    · cases hstep
  | retry id' =>
    cases hresumed
    simp only [Step, step, hcall, Option.bind_eq_bind, Option.bind_some, EventLoop.retry] at hstep
    split at hstep
    · rename_i attempt hphase
      cases hstep
      obtain ⟨rfl, hattempt⟩ : sent = attempt + 1 ∧ (attempt : Int) < call.retries := by
        have hcount := h.phase
        rwa [hphase] at hcount
      exact attempt_stretch crc16Kermit l id call (attempt + 1) (by push_cast; omega) h.again
    · cases hstep
  | cancelled id' =>
    cases hresumed
    have hcancelled : ∀ attempt : Nat, sent = attempt + 1 → (attempt : Int) ≤ call.retries →
        ∃ call' times, Stretch crc16Kermit l id call sent
          (l.finish id call (.error .cancelledError)) call' times := by
      rintro attempt rfl hattempt
      obtain ⟨call', hstretch⟩ := stretch_finish crc16Kermit l id call _
        (.error .cancelledError) h.again ⟨Nat.succ_pos attempt, by push_cast; omega⟩
      exact ⟨call', 0, hstretch⟩
    simp only [Step, step, hcall, Option.bind_eq_bind, Option.bind_some, EventLoop.cancelled] at hstep
    have hcount := h.phase
    cases hphase : call.phase with
    | awaiting attempt =>
      rw [hphase] at hstep hcount
      cases hstep
      exact hcancelled attempt hcount.1 hcount.2
    | sleeping attempt =>
      rw [hphase] at hstep hcount
      cases hstep
      exact hcancelled attempt hcount.1 (Int.le_of_lt hcount.2)
    | finished result =>
      rw [hphase] at hstep
      cases hstep
  | sendFrame frame waitResponse retries => cases hresumed
  | dataReceived data => cases hresumed
  | connectionMade => cases hresumed
  | addPropertyListener propertyId callback => cases hresumed
  | removePropertyListener propertyId callback => cases hresumed

/-! ## Runs -/

/-- A connection stays. -/
theorem step_connected {l l' : EventLoop} {action : Action} (h : Step crc16Kermit l action l')
    (hconnected : l.protocol.connected = true) : l'.protocol.connected = true := by
  rcases step_cases crc16Kermit h with
    ⟨data, -, rfl⟩ | hidle | ⟨id, call, call', hresumes⟩ | ⟨frame, waitResponse, retries, -, rfl⟩
  · obtain ⟨buffer, futures, hprotocol⟩ := l.protocol.dataReceived_protocol crc16Kermit data
    rwa [dataReceived, log, hprotocol]
  · obtain ⟨connected, listeners, rfl, hstays, -⟩ := idle_eq crc16Kermit h hidle
    exact hstays hconnected
  · rwa [resumed_keeps crc16Kermit (f := SpinelProtocol.connected) (fun _ _ => rfl) h
      hresumes.resumed]
  · rwa [sendFrame_keeps crc16Kermit (f := SpinelProtocol.connected) (fun _ _ => rfl)]

/-- What an action writes, with the call that it runs. -/
def writtenBy (l : EventLoop) (action : Action) (l' : EventLoop) :
    List (Option FutureId × List UInt8) :=
  ((added l l').filterMap Effect.written).map fun data => (l.caller action, data)

/-- What a run writes, with the calls. -/
def sent (l : EventLoop) : List Action → List (Option FutureId × List UInt8)
  | [] => []
  | action :: actions =>
    match l.step crc16Kermit action with
    | some l' => writtenBy l action l' ++ sent l' actions
    | none => []

/-- What one call has written. -/
def sentBy (id : FutureId) (written : List (Option FutureId × List UInt8)) : List (List UInt8) :=
  (written.filter fun entry => entry.1 == some id).map Prod.snd

theorem sent_snoc {l m l' : EventLoop} {actions : List Action} {action : Action}
    (h : Run (Step crc16Kermit) l actions m) (hstep : Step crc16Kermit m action l') :
    sent crc16Kermit l (actions ++ [action]) =
      sent crc16Kermit l actions ++ writtenBy m action l' := by
  induction actions generalizing l with
  | nil =>
    obtain rfl := Run.nil_iff.mp h
    have hnext : m.step crc16Kermit action = some l' := hstep
    simp only [List.nil_append, sent, hnext, List.append_nil]
  | cons first actions ih =>
    obtain ⟨next, hfirst, hrest⟩ := Run.cons_iff.mp h
    have hnext : l.step crc16Kermit first = some next := hfirst
    simp only [List.cons_append, sent, hnext, ih hrest, List.append_assoc]

/-- The writes of a run are those of its calls, and each call has sent its frame as often as it
    has come to an attempt. -/
structure Transmits (written : List (Option FutureId × List UInt8)) (l : EventLoop) : Prop where
  keyed : Keyed l
  writes : written.map Prod.snd = l.trace.filterMap Effect.written
  callers : ∀ entry ∈ written, ∃ id call, entry.1 = some id ∧ l.calls id = some call
  counted : ∀ id call, l.calls id = some call → ∃ times,
    sentBy id written = List.replicate times (call.newFrame.wire crc16Kermit) ∧
      Counted crc16Kermit l.protocol call times

theorem filterMap_written (writes : List (List UInt8)) :
    (writes.map Effect.write).filterMap Effect.written = writes := by
  rw [List.filterMap_map]
  exact List.filterMap_some

theorem sentBy_append (id : FutureId) (written more : List (Option FutureId × List UInt8)) :
    sentBy id (written ++ more) = sentBy id written ++ sentBy id more := by
  rw [sentBy, List.filter_append, List.map_append, sentBy, sentBy]

theorem sentBy_caller (id : FutureId) (writes : List (List UInt8)) :
    sentBy id (writes.map fun data => (some id, data)) = writes := by
  rw [sentBy, List.filter_map, List.filter_eq_self.mpr, List.map_map]
  · exact List.map_id writes
  · intro data _
    exact beq_self_eq_true (some id)

theorem sentBy_other {id : FutureId} {caller : Option FutureId} (h : caller ≠ some id)
    (writes : List (List UInt8)) : sentBy id (writes.map fun data => (caller, data)) = [] := by
  rw [sentBy, List.filter_map, List.filter_eq_nil_iff.mpr, List.map_nil, List.map_nil]
  intro data _
  simpa using h

/-- A call that goes on keeps the count. -/
theorem Transmits.stretch {written : List (Option FutureId × List UInt8)} {l l' : EventLoop}
    {action : Action} (h : Transmits crc16Kermit written l) (hstep : Step crc16Kermit l action l')
    {id : FutureId} (hcaller : l.caller action = some id) {sent times : Nat}
    {call call' : SendFrame} (hstretch : Stretch crc16Kermit l id call sent l' call' times)
    (hbefore : sentBy id written = List.replicate sent (call.newFrame.wire crc16Kermit)) :
    Transmits crc16Kermit (written ++ writtenBy l action l') l' := by
  have hnew : writtenBy l action l' =
      (List.replicate times (call'.newFrame.wire crc16Kermit)).map fun data => (some id, data) := by
    rw [writtenBy, added_of_trace hstretch.trace, filterMap_written, hcaller]
  rw [hnew]
  refine ⟨h.keyed.step crc16Kermit hstep, ?_, ?_, ?_⟩
  · rw [List.map_append, h.writes, hstretch.trace, List.filterMap_append, filterMap_written,
      List.map_map]
    exact congrArg _ (List.map_id _)
  · intro entry hentry
    rcases List.mem_append.mp hentry with hold | hnew
    · obtain ⟨other, call, hother, hcall⟩ := h.callers entry hold
      refine ⟨other, ?_⟩
      rw [hstretch.calls]
      by_cases hsame : other = id
      · rw [hsame, Function.update_self]
        exact ⟨call', hsame ▸ hother, rfl⟩
      · rw [Function.update_of_ne hsame]
        exact ⟨call, hother, hcall⟩
    · obtain ⟨data, -, rfl⟩ := List.mem_map.mp hnew
      exact ⟨id, call', rfl, by rw [hstretch.calls, Function.update_self]⟩
  · intro other call hcall
    rw [hstretch.calls, Function.update_apply] at hcall
    rw [sentBy_append]
    split at hcall
    · rename_i hsame
      cases hcall
      subst hsame
      refine ⟨sent + times, ?_, hstretch.counted⟩
      rw [sentBy_caller, hbefore, hstretch.frame, List.replicate_append_replicate]
    · rename_i hne
      obtain ⟨count, hsent, hcounted⟩ := h.counted other call hcall
      refine ⟨count, ?_, hcounted.mono crc16Kermit (step_connected crc16Kermit hstep)⟩
      have hcallers : some id ≠ some other := fun heq => hne (Option.some.inj heq).symm
      rw [sentBy_other hcallers, List.append_nil, hsent]

/-- Nothing is written where no call runs. -/
theorem Transmits.silent {written : List (Option FutureId × List UInt8)} {l l' : EventLoop}
    {action : Action} (h : Transmits crc16Kermit written l) (hstep : Step crc16Kermit l action l')
    (hcalls : l'.calls = l.calls) {effects : List Effect} (htrace : l'.trace = l.trace ++ effects)
    (heffects : effects.filterMap Effect.written = []) :
    Transmits crc16Kermit (written ++ writtenBy l action l') l' := by
  have hnew : writtenBy l action l' = [] := by
    rw [writtenBy, added_of_trace htrace, heffects, List.map_nil]
  rw [hnew, List.append_nil]
  refine ⟨h.keyed.step crc16Kermit hstep, ?_, ?_, ?_⟩
  · rw [h.writes, htrace, List.filterMap_append, heffects, List.append_nil]
  · rw [hcalls]
    exact h.callers
  · intro id call hcall
    rw [hcalls] at hcall
    obtain ⟨count, hsent, hcounted⟩ := h.counted id call hcall
    exact ⟨count, hsent, hcounted.mono crc16Kermit (step_connected crc16Kermit hstep)⟩

/-- Receiving writes nothing. -/
theorem dataReceived_written (s : SpinelProtocol) (data : List UInt8) :
    (s.dataReceived crc16Kermit data).effects.filterMap Effect.written = [] := by
  obtain ⟨_, _, hrun⟩ := Loop.exec_runs (SpinelProtocol.receivePass_decreasing crc16Kermit)
    { protocol := { s with buffer := s.buffer ++ data } }
  refine (hrun.inv (fun st => st.effects.filterMap Effect.written = []) ?_ rfl).1
  intro st st' hst hpass
  obtain ⟨head, tail, -, -, -, rfl⟩ := SpinelProtocol.receivePass_cases crc16Kermit hpass
  dsimp only
  rw [List.filterMap_append, hst, List.nil_append]
  rcases SpinelProtocol.chunkReceived_cases crc16Kermit { st.protocol with buffer := tail } head with
    ⟨-, heq⟩ | ⟨hdlcFrame, -, -, heq⟩ | ⟨hdlcFrame, frame, -, -, heq⟩
  · rw [heq]
    rfl
  · rw [heq]
    rfl
  · obtain ⟨calls, hcalls⟩ :=
      SpinelProtocol.frameReceived_effects { st.protocol with buffer := tail } frame
    rw [heq]
    simp only [hcalls, List.filterMap_cons, Effect.written]
    rw [List.filterMap_map]
    exact List.filterMap_eq_nil_iff.mpr fun _ _ => rfl

theorem Transmits.step {written : List (Option FutureId × List UInt8)} {l l' : EventLoop}
    {action : Action} (h : Transmits crc16Kermit written l) (hstep : Step crc16Kermit l action l') :
    Transmits crc16Kermit (written ++ writtenBy l action l') l' := by
  rcases step_cases crc16Kermit hstep with
    ⟨data, rfl, rfl⟩ | hidle | ⟨id, call, call', hresumes⟩ | ⟨frame, waitResponse, retries, rfl, rfl⟩
  · refine h.silent crc16Kermit hstep rfl rfl ?_
    rw [List.filterMap_append, dataReceived_written, List.nil_append, List.filterMap_map]
    exact List.filterMap_eq_nil_iff.mpr fun _ _ => rfl
  · -- a listener or the connection
    obtain ⟨connected, listeners, rfl, -⟩ := idle_eq crc16Kermit hstep hidle
    exact h.silent crc16Kermit hstep rfl (List.append_nil _).symm rfl
  · obtain ⟨sent, hsent, hcounted⟩ := h.counted id call hresumes.call_eq
    obtain ⟨call', times, hstretch⟩ :=
      resumed_stretch crc16Kermit hstep hresumes.resumed hresumes.call_eq hcounted
    have hcaller : l.caller action = some id :=
      (l.caller_of_ne_sendFrame (ne_sendFrame_of_resumed hresumes.resumed)).trans hresumes.resumed
    exact h.stretch crc16Kermit hstep hcaller hstretch hsent
  · obtain ⟨call, call', times, hstretch⟩ :=
      sendFrame_stretch crc16Kermit l frame waitResponse retries
    refine h.stretch crc16Kermit hstep rfl hstretch ?_
    -- the number of the call is new
    rw [sentBy, List.filter_eq_nil_iff.mpr, List.map_nil, List.replicate_zero]
    intro entry hentry hsame
    obtain ⟨other, earlier, hother, hearlier⟩ := h.callers entry hentry
    rw [beq_iff_eq, hother, Option.some.injEq] at hsame
    exact absurd (h.keyed.fresh other earlier hearlier) (hsame ▸ Nat.lt_irrefl _)

/-- A call that has ended stays as it is, and no action runs it. -/
theorem step_ended {l l' : EventLoop} {action : Action} (hkeyed : Keyed l)
    (hstep : Step crc16Kermit l action l') {id : FutureId} {call : SendFrame}
    (hcall : l.calls id = some call) (hended : ¬ call.Unfinished) :
    l'.calls id = some call ∧ l.caller action ≠ some id := by
  rcases step_cases crc16Kermit hstep with
    ⟨data, rfl, rfl⟩ | hidle | ⟨other, call', call'', hresumes⟩ | ⟨frame, wait, retries, rfl, rfl⟩
  · exact ⟨hcall, nofun⟩
  · rw [hidle.calls, l.caller_of_ne_sendFrame hidle.ne_sendFrame, hidle.resumed]
    exact ⟨hcall, nofun⟩
  · have hne : id ≠ other := by
      rintro rfl
      rw [hresumes.call_eq] at hcall
      cases hcall
      exact hended hresumes.unfinished
    rw [hresumes.goes.calls, Function.update_of_ne hne,
      l.caller_of_ne_sendFrame (ne_sendFrame_of_resumed hresumes.resumed), hresumes.resumed]
    exact ⟨hcall, fun heq => hne (Option.some.inj heq).symm⟩
  · obtain ⟨_, _, -, hgoes, -⟩ := l.sendFrame_cases crc16Kermit frame wait retries
    have hne : id ≠ l.nextCall := Nat.ne_of_lt (hkeyed.fresh id call hcall)
    rw [hgoes.calls, Function.update_of_ne hne]
    exact ⟨hcall, fun heq => hne (Option.some.inj heq).symm⟩

theorem ended_run {l l' : EventLoop} {more : List Action} (hkeyed : Keyed l)
    (h : Run (Step crc16Kermit) l more l') {id : FutureId} {call : SendFrame}
    (hcall : l.calls id = some call) (hended : ¬ call.Unfinished) :
    l'.calls id = some call ∧ sentBy id (sent crc16Kermit l more) = [] := by
  induction h with
  | nil => exact ⟨hcall, rfl⟩
  | snoc hrun hlast ih =>
    obtain ⟨hsame, hsilent⟩ := ih
    have hmid := hrun.inv Keyed (fun _ _ _ hs hstep => hs.step crc16Kermit hstep) hkeyed
    obtain ⟨hnext, hcaller⟩ := step_ended crc16Kermit hmid hlast hsame hended
    rw [sent_snoc crc16Kermit hrun hlast, sentBy_append, hsilent, List.nil_append]
    exact ⟨hnext, sentBy_other hcaller _⟩

/-- In every run, what is written are the frames of the calls, and every call has sent one and
    the same frame: once more than the number of the attempt it is in, once where it waits for no
    response, `retries + 1` times when it ends with a timeout, at least once and at most that
    often when it returns a response or is cancelled, and never when it raises anything else. Once
    a call has ended, nothing more is written for it, however the run goes on. -/
theorem transmissions {actions : List Action} {l : EventLoop}
    (h : Run (Step crc16Kermit) new actions l) :
    (sent crc16Kermit new actions).map Prod.snd = l.trace.filterMap Effect.written ∧
      (∀ entry ∈ sent crc16Kermit new actions, ∃ id call,
        entry.1 = some id ∧ l.calls id = some call) ∧
      (∀ id call, l.calls id = some call → ∃ times,
        sentBy id (sent crc16Kermit new actions) =
            List.replicate times (call.newFrame.wire crc16Kermit) ∧
          call.phase.Sent call.retries times) ∧
      ∀ more l', Run (Step crc16Kermit) l more l' → ∀ id call, l.calls id = some call →
        ¬ call.Unfinished →
          l'.calls id = some call ∧ sentBy id (sent crc16Kermit l more) = [] := by
  have hrun : Transmits crc16Kermit (sent crc16Kermit new actions) l := by
    induction h with
    | nil =>
      refine ⟨keyed_new, rfl, ?_, ?_⟩
      · intro entry hentry
        cases hentry
      · intro id call hcall
        cases hcall
    | snoc hrun hlast ih =>
      rw [sent_snoc crc16Kermit hrun hlast]
      exact ih.step crc16Kermit hlast
  refine ⟨hrun.writes, hrun.callers, ?_, ?_⟩
  · intro id call hcall
    obtain ⟨times, hsent, hcounted⟩ := hrun.counted id call hcall
    exact ⟨times, hsent, hcounted.phase⟩
  · intro more l' hmore id call hcall hended
    exact ended_run crc16Kermit hrun.keyed hmore hcall hended

/-- A request for the version, sent twice without an answer. -/
theorem transmissions_timeout :
    ∃ l call, Run (Step (fun _ => 0x5286)) new [.connectionMade,
        .sendFrame ⟨⟨none, 0, 0b10⟩, .propValueGet, [0x02]⟩ true 1, .timedOut 0, .retry 0,
        .timedOut 0] l ∧ l.calls 0 = some call ∧
      ∃ times, l.trace.filterMap Effect.written =
        List.replicate times (call.newFrame.wire (fun _ => 0x5286)) ∧ times = 2 := by
  have hrun : Run (Step (fun _ => 0x5286)) new [.connectionMade,
      .sendFrame ⟨⟨none, 0, 0b10⟩, .propValueGet, [0x02]⟩ true 1, .timedOut 0, .retry 0,
      .timedOut 0] _ := Run.of_foldlM rfl
  obtain ⟨hwrites, -, hcalls, -⟩ := transmissions (fun _ => 0x5286) hrun
  obtain ⟨times, hsent, hphase⟩ := hcalls 0 _ rfl
  refine ⟨_, _, hrun, rfl, times, ?_, ?_⟩
  · rw [← hsent, ← hwrites]
    rfl
  · have htimes : (times : Int) = 1 + 1 := hphase
    omega

end EventLoop

end ZigpySpinel.Python
