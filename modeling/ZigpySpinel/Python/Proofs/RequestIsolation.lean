import ZigpySpinel.Python.Proofs.Requests

/-!
# Requests that leave each other alone

A call of `send_frame` takes its entry out of `_pending_frames` in a `finally` block. That
block names the entry by its transaction id only, a call that waits for no response returns
before it, and a new request takes the next of 14 ids whoever waits under it. So the entries
of the calls are kept apart as long as every call waits for its response and the next id is
free, and no longer.
-/

namespace ZigpySpinel.Python
open Lib

namespace EventLoop

/-- The call that an action runs. -/
def caller (l : EventLoop) : Action → Option FutureId
  | .sendFrame _ _ _ => some l.nextCall
  | action => action.resumed

/-- The call that an action runs keeps the entries of the other calls that have not finished,
    and leaves no entry of its own when it returns or raises. -/
structure Isolated (l : EventLoop) (action : Action) (l' : EventLoop) : Prop where
  others : ∀ caller, l.caller action = some caller →
    ∀ id call tid, id ≠ caller → l.calls id = some call → call.Unfinished →
      l.protocol.pendingFrames tid = some id → l'.protocol.pendingFrames tid = some id
  own : ∀ caller call, l.caller action = some caller → l'.calls caller = some call →
    ¬ call.Unfinished → ∀ tid, l'.protocol.pendingFrames tid ≠ some caller

/-- A new call waits for its response, and no call that has not finished has the transaction
    id that it gets. -/
def NextFree (l : EventLoop) (action : Action) : Prop :=
  ∀ frame waitResponse retries, action = .sendFrame frame waitResponse retries →
    waitResponse = true ∧
      ∀ id call, l.calls id = some call → call.Unfinished → call.tid ≠ l.protocol.nextTid

/-- The entries of the table are those of the calls that have not finished. -/
structure Waiting (l : EventLoop) : Prop where
  fresh : ∀ id call, l.calls id = some call → id < l.nextCall
  entry : ∀ tid id, l.protocol.pendingFrames tid = some id →
    ∃ call, l.calls id = some call ∧ call.Unfinished ∧ call.tid = tid
  waits : ∀ id call, l.calls id = some call → call.Unfinished →
    l.protocol.pendingFrames call.tid = some id

theorem waiting_new : Waiting new := by
  refine ⟨?_, ?_, ?_⟩
  · intro id call h
    cases h
  · intro tid id h
    cases h
  · intro id call h
    cases h

/-- A state with the same calls and the same table. -/
theorem Waiting.congr {l l' : EventLoop} (h : Waiting l) (hcalls : l'.calls = l.calls)
    (hnext : l'.nextCall = l.nextCall)
    (hpending : l'.protocol.pendingFrames = l.protocol.pendingFrames) : Waiting l' := by
  refine ⟨?_, ?_, ?_⟩
  · rw [hcalls, hnext]
    exact h.fresh
  · rw [hcalls, hpending]
    exact h.entry
  · rw [hcalls, hpending]
    exact h.waits

/-- The table before a call goes on: its own entry, and those of the other calls that have not
    finished, under other ids. -/
structure Ready (l : EventLoop) (id : FutureId) (call : SendFrame) : Prop where
  bound : id < l.nextCall
  fresh : ∀ id' other, l.calls id' = some other → id' < l.nextCall
  own : ∀ tid, l.protocol.pendingFrames tid = some id ↔ tid = call.tid
  entry : ∀ tid id', id' ≠ id → l.protocol.pendingFrames tid = some id' →
    ∃ other, l.calls id' = some other ∧ other.Unfinished ∧ other.tid = tid
  waits : ∀ id' other, id' ≠ id → l.calls id' = some other → other.Unfinished →
    l.protocol.pendingFrames other.tid = some id'

/-- A call of which the entry is in the table. -/
theorem Waiting.ready {l : EventLoop} (h : Waiting l) {id : FutureId} {call : SendFrame}
    (hcall : l.calls id = some call) (hunfinished : call.Unfinished) : Ready l id call := by
  refine ⟨h.fresh id call hcall, h.fresh, ?_, ?_, ?_⟩
  · intro tid
    constructor
    · intro hentry
      obtain ⟨other, hother, -, htid⟩ := h.entry tid id hentry
      rw [hcall] at hother
      cases hother
      exact htid.symm
    · rintro rfl
      exact h.waits id call hcall hunfinished
  · intro tid id' _
    exact h.entry tid id'
  · intro id' other _
    exact h.waits id' other

/-- A new call, if its id is free. -/
theorem Waiting.ready_registered {l : EventLoop} (h : Waiting l) {call : SendFrame}
    (htid : call.tid = l.protocol.nextTid)
    (hfree : ∀ id call, l.calls id = some call → call.Unfinished → call.tid ≠ l.protocol.nextTid) :
    Ready l.registered l.nextCall call := by
  refine ⟨Nat.lt_succ_self _, ?_, ?_, ?_, ?_⟩
  · intro id other hother
    exact Nat.lt_succ_of_lt (h.fresh id other hother)
  · intro tid
    rw [registered_pendingFrames, htid, Function.update_apply]
    constructor
    · intro hentry
      split at hentry
      · assumption
      · obtain ⟨other, hother, -⟩ := h.entry tid _ hentry
        exact absurd (h.fresh _ other hother) (Nat.lt_irrefl _)
    · intro hsame
      rw [if_pos hsame]
  · intro tid id hne hentry
    rw [registered_pendingFrames, Function.update_apply] at hentry
    split at hentry
    · cases hentry
      exact absurd rfl hne
    · exact h.entry tid id hentry
  · intro id other _ hother hunfinished
    rw [registered_pendingFrames, Function.update_of_ne (hfree id other hother hunfinished)]
    exact h.waits id other hother hunfinished

/-- The table behind a stretch of a call: the entries of the other calls, and that of the call
    as long as it has not finished. -/
theorem Ready.pops {l l' : EventLoop} {id : FutureId} {call call' : SendFrame}
    (h : Ready l id call) (hgoes : Goes l id call l' call') (hpops : Pops l l' call') (tid : Nat)
    (id' : FutureId) :
    l'.protocol.pendingFrames tid = some id' ↔
      l.protocol.pendingFrames tid = some id' ∧ (id' = id → call'.Unfinished) := by
  constructor
  · intro hentry
    obtain ⟨hbefore, hkept⟩ := hpops.entry hentry
    refine ⟨hbefore, ?_⟩
    rintro rfl
    rcases hkept with hunfinished | htid
    · exact hunfinished
    · exact absurd ((h.own tid).mp hbefore) (hgoes.tid ▸ htid)
  · rintro ⟨hbefore, hown⟩
    rcases hpops with ⟨-, hpending⟩ | ⟨hfinished, hpending⟩
    · rwa [hpending]
    · have htid : tid ≠ call'.tid := by
        rintro rfl
        rw [hgoes.tid, (h.own call.tid).mpr rfl] at hbefore
        cases hbefore
        exact hfinished (hown rfl)
      rwa [hpending, Function.update_of_ne htid]

theorem Ready.waiting {l l' : EventLoop} {id : FutureId} {call call' : SendFrame}
    (h : Ready l id call) (hgoes : Goes l id call l' call') (hpops : Pops l l' call') :
    Waiting l' := by
  refine ⟨?_, ?_, ?_⟩
  · intro id' other hother
    rw [hgoes.calls, Function.update_apply] at hother
    rw [hgoes.nextCall]
    split at hother
    · rename_i hsame
      rw [hsame]
      exact h.bound
    · exact h.fresh id' other hother
  · intro tid id' hentry
    obtain ⟨hbefore, hown⟩ := (h.pops hgoes hpops tid id').mp hentry
    rw [hgoes.calls]
    by_cases hsame : id' = id
    · subst hsame
      exact ⟨call', Function.update_self .., hown rfl, by rw [hgoes.tid, (h.own tid).mp hbefore]⟩
    · rw [Function.update_of_ne hsame]
      exact h.entry tid id' hsame hbefore
  · intro id' other hother hunfinished
    rw [h.pops hgoes hpops]
    rw [hgoes.calls, Function.update_apply] at hother
    split at hother
    · rename_i hsame
      cases hother
      subst hsame
      exact ⟨(h.own call'.tid).mpr hgoes.tid, fun _ => hunfinished⟩
    · rename_i hne
      exact ⟨h.waits id' other hne hother hunfinished, fun hsame => absurd hsame hne⟩

/-- Behind a stretch of a call the other entries are as they were, and its own is gone if it
    has finished. -/
theorem Ready.isolated {l l' : EventLoop} {id : FutureId} {call call' : SendFrame}
    (h : Ready l id call) (hgoes : Goes l id call l' call') (hpops : Pops l l' call') :
    (∀ id' tid, id' ≠ id → l.protocol.pendingFrames tid = some id' →
      l'.protocol.pendingFrames tid = some id') ∧
    (∀ other, l'.calls id = some other → ¬ other.Unfinished →
      ∀ tid, l'.protocol.pendingFrames tid ≠ some id) := by
  refine ⟨?_, ?_⟩
  · intro id' tid hne hentry
    exact (h.pops hgoes hpops tid id').mpr ⟨hentry, fun hsame => absurd hsame hne⟩
  · intro other hother hfinished tid hentry
    rw [hgoes.calls, Function.update_self] at hother
    cases hother
    exact hfinished (((h.pops hgoes hpops tid id).mp hentry).2 rfl)

/-! ## The actions -/

theorem caller_of_ne_sendFrame (l : EventLoop) {action : Action}
    (h : ∀ frame waitResponse retries, action ≠ .sendFrame frame waitResponse retries) :
    l.caller action = action.resumed := by
  cases action with
  | sendFrame frame waitResponse retries => exact absurd rfl (h frame waitResponse retries)
  | connectionMade => rfl
  | addPropertyListener propertyId callback => rfl
  | removePropertyListener propertyId callback => rfl
  | dataReceived data => rfl
  | resolved id => rfl
  | timedOut id => rfl
  | retry id => rfl
  | cancelled id => rfl

theorem nextFree_of_ne_sendFrame (l : EventLoop) {action : Action}
    (h : ∀ frame waitResponse retries, action ≠ .sendFrame frame waitResponse retries) :
    NextFree l action := by
  intro frame waitResponse retries haction
  exact absurd haction (h frame waitResponse retries)

/-- An action that runs no call isolates. -/
theorem isolated_of_caller_none {l l' : EventLoop} {action : Action}
    (h : l.caller action = none) : Isolated l action l' := by
  refine ⟨?_, ?_⟩
  · intro caller hcaller
    rw [h] at hcaller
    cases hcaller
  · intro caller call hcaller
    rw [h] at hcaller
    cases hcaller

theorem ne_sendFrame_of_resumed {action : Action} {id : FutureId} (h : action.resumed = some id) :
    ∀ frame waitResponse retries, action ≠ .sendFrame frame waitResponse retries := by
  rintro frame waitResponse retries rfl
  cases h

variable (crc16Kermit : List UInt8 → UInt16)

/-- The steps that meet the condition keep the entries and the calls together. -/
theorem Waiting.step {l l' : EventLoop} {action : Action} (h : Waiting l)
    (hfree : NextFree l action) (hstep : Step crc16Kermit l action l') : Waiting l' := by
  rcases step_cases crc16Kermit hstep with
    ⟨data, -, rfl⟩ | hidle | ⟨id, call, call', hresumes⟩ | ⟨frame, waitResponse, retries, rfl, rfl⟩
  · obtain ⟨buffer, futures, hprotocol⟩ := l.protocol.dataReceived_protocol crc16Kermit data
    refine h.congr rfl rfl ?_
    rw [dataReceived, log, hprotocol]
  · exact h.congr hidle.calls hidle.nextCall hidle.pendingFrames
  · exact (h.ready hresumes.call_eq hresumes.unfinished).waiting hresumes.goes hresumes.pops
  · obtain ⟨hwait, hid⟩ := hfree frame waitResponse retries rfl
    obtain ⟨call, call', htid, hgoes, ⟨-, hpops⟩ | ⟨hnoWait, -⟩⟩ :=
      l.sendFrame_cases crc16Kermit frame waitResponse retries
    · exact (h.ready_registered htid hid).waiting hgoes hpops
    · rw [hwait] at hnoWait
      cases hnoWait

/-- A new call isolates if it waits for its response under a free id. -/
theorem Waiting.isolated_sendFrame {l : EventLoop} (h : Waiting l) {frame : SpinelFrame}
    {waitResponse : Bool} {retries : Int}
    (hfree : NextFree l (.sendFrame frame waitResponse retries)) :
    Isolated l (.sendFrame frame waitResponse retries)
      (l.sendFrame crc16Kermit frame waitResponse retries) := by
  obtain ⟨hwait, hid⟩ := hfree frame waitResponse retries rfl
  obtain ⟨call, call', htid, hgoes, ⟨-, hpops⟩ | ⟨hnoWait, -⟩⟩ :=
    l.sendFrame_cases crc16Kermit frame waitResponse retries
  · obtain ⟨hothers, hown⟩ := (h.ready_registered htid hid).isolated hgoes hpops
    refine ⟨?_, ?_⟩
    · intro caller hcaller id other tid hne hother hunfinished hentry
      cases hcaller
      refine hothers id tid hne ?_
      obtain ⟨same, hsame, -, hkey⟩ := h.entry tid id hentry
      rw [hother] at hsame
      cases hsame
      rw [registered_pendingFrames,
        Function.update_of_ne (hkey ▸ hid id other hother hunfinished), hentry]
    · intro caller other hcaller hother hfinished
      cases hcaller
      exact hown other hother hfinished
  · rw [hwait] at hnoWait
    cases hnoWait

/-- A new call isolates only if it waits for its response under a free id. -/
theorem Waiting.nextFree_of_isolated {l : EventLoop} (h : Waiting l) {frame : SpinelFrame}
    {waitResponse : Bool} {retries : Int}
    (hisolated : Isolated l (.sendFrame frame waitResponse retries)
      (l.sendFrame crc16Kermit frame waitResponse retries)) :
    NextFree l (.sendFrame frame waitResponse retries) := by
  intro frame' waitResponse' retries' haction
  cases haction
  obtain ⟨call, call', -, hgoes, hcases⟩ := l.sendFrame_cases crc16Kermit frame waitResponse retries
  have hcall' : (l.sendFrame crc16Kermit frame waitResponse retries).calls l.nextCall = some call' := by
    rw [hgoes.calls, Function.update_self]
  have hnew : l.registered.protocol.pendingFrames l.protocol.nextTid = some l.nextCall := by
    rw [registered_pendingFrames, Function.update_self]
  refine ⟨?_, ?_⟩
  · rcases hcases with ⟨hwait, -⟩ | ⟨-, hfinished, hpending⟩
    · exact hwait
    · -- the call has returned, and its entry is still there
      refine absurd ?_ (hisolated.own l.nextCall call' rfl hcall' hfinished l.protocol.nextTid)
      rw [hpending, hnew]
  · intro id other hother hunfinished htid
    have hne : id ≠ l.nextCall := Nat.ne_of_lt (h.fresh id other hother)
    have hentry : l.protocol.pendingFrames l.protocol.nextTid = some id := by
      rw [← htid]
      exact h.waits id other hother hunfinished
    -- the entry of the other call has been replaced
    have hafter := hisolated.others l.nextCall rfl id other l.protocol.nextTid hne hother hunfinished
      hentry
    have hregistered : l.registered.protocol.pendingFrames l.protocol.nextTid = some id := by
      rcases hcases with ⟨-, hpops⟩ | ⟨-, -, hpending⟩
      · exact (hpops.entry hafter).1
      · rwa [hpending] at hafter
    rw [hnew, Option.some.injEq] at hregistered
    exact hne hregistered.symm

theorem Waiting.isolated_iff {l l' : EventLoop} {action : Action} (h : Waiting l)
    (hstep : Step crc16Kermit l action l') : Isolated l action l' ↔ NextFree l action := by
  rcases step_cases crc16Kermit hstep with
    ⟨data, rfl, -⟩ | hidle | ⟨id, call, call', hresumes⟩ | ⟨frame, waitResponse, retries, rfl, rfl⟩
  · exact iff_of_true (isolated_of_caller_none rfl) (nextFree_of_ne_sendFrame l (by simp))
  · have hcaller := (l.caller_of_ne_sendFrame hidle.ne_sendFrame).trans hidle.resumed
    exact iff_of_true (isolated_of_caller_none hcaller)
      (nextFree_of_ne_sendFrame l hidle.ne_sendFrame)
  · have hne := ne_sendFrame_of_resumed hresumes.resumed
    have hcaller := (l.caller_of_ne_sendFrame hne).trans hresumes.resumed
    obtain ⟨hothers, hown⟩ :=
      (h.ready hresumes.call_eq hresumes.unfinished).isolated hresumes.goes hresumes.pops
    refine iff_of_true ⟨?_, ?_⟩ (nextFree_of_ne_sendFrame l hne)
    · intro caller hsome id' other tid hother _ _ hentry
      rw [hcaller] at hsome
      cases hsome
      exact hothers id' tid hother hentry
    · intro caller other hsome hother hfinished
      rw [hcaller] at hsome
      cases hsome
      exact hown other hother hfinished
  · exact ⟨h.nextFree_of_isolated crc16Kermit, h.isolated_sendFrame crc16Kermit⟩

/-! ## The runs -/

/-- The runs in which no call touches the entry of another call that has not finished, and none
    leaves its own entry behind, are those in which every new call waits for its response and
    gets an id that no unfinished call has. -/
theorem run_isolated_iff (actions : List Action) (l : EventLoop) :
    Run (fun l action l' => Step crc16Kermit l action l' ∧ Isolated l action l') new actions l ↔
      Run (guarded NextFree (Step crc16Kermit)) new actions l := by
  refine Run.guarded_iff Waiting ?_ ?_ waiting_new
  · intro l action l' hl hfree hstep
    exact hl.step crc16Kermit hfree hstep
  · intro l action l' hl hstep
    exact hl.isolated_iff crc16Kermit hstep

/-- The event loop of a connected protocol object. -/
def connected : EventLoop := { new with protocol := { SpinelProtocol.new with connected := true } }

/-- `reset` sends a command that waits for no response, and leaves its future in the table. -/
theorem reset_leavesEntry :
    ¬ ∀ (crc16Kermit : List UInt8 → UInt16) (actions : List Action) (l l' : EventLoop)
      (action : Action), Run (Step crc16Kermit) new actions l → Step crc16Kermit l action l' →
        Isolated l action l' := by
  intro h
  have hisolated := h (fun _ => 0) [.connectionMade] connected
    (connected.sendCommand (fun _ => 0) .reset [2] false 3)
    (.sendFrame ⟨⟨none, 0, 0b10⟩, .reset, [2]⟩ false 3) (.single rfl) rfl
  exact hisolated.own 0 _ rfl rfl (fun hunfinished => hunfinished) 3 rfl

end EventLoop

end ZigpySpinel.Python
