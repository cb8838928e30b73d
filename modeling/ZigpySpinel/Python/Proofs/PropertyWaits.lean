import ZigpySpinel.Python.PropertyWaits
import ZigpySpinel.Python.Proofs.Responses

/-!
# What a call of `wait_for_property` hears

The listener of a call is registered once as long as the call waits or its generator is open,
and not at all otherwise. So its queue gets the values of its property from the frames that are
passed on, except from those that raise: a second response to a request. A frame with
transaction id 0 is none, and no value in such a frame is lost.
-/

namespace ZigpySpinel.Python
open Lib

/-! ## Values in frames -/

/-- The value of this property that a frame carries. -/
def changeOf (propertyId : PropertyID) (frame : SpinelFrame) : Option (List UInt8) :=
  if frame.commandId = .propValueIs then
    match SpinelProtocol.changedProperty frame with
    | .ok change => if change.1 = propertyId then some change.2 else none
    | .error _ => none
  else none

/-- The values of this property that the frames carry. -/
def changes (propertyId : PropertyID) (frames : List SpinelFrame) : List (List UInt8) :=
  frames.filterMap (changeOf propertyId)

theorem changes_singleton (propertyId : PropertyID) (frame : SpinelFrame) :
    changes propertyId [frame] = (changeOf propertyId frame).toList := by
  rw [changes]
  cases h : changeOf propertyId frame with
  | none => rw [List.filterMap_cons_none h, List.filterMap_nil, Option.toList_none]
  | some value => rw [List.filterMap_cons_some h, List.filterMap_nil, Option.toList_some]

/-- The frame is no response. -/
def unsolicited (frame : SpinelFrame) : Bool := frame.header.transactionId == some 0

/-- The values of the property in the frames, where those in responses may be missing. -/
structure Heard (propertyId : PropertyID) (frames : List SpinelFrame) (values : List (List UInt8)) :
    Prop where
  carried : values.Sublist (changes propertyId frames)
  complete : (changes propertyId (frames.filter unsolicited)).Sublist values

theorem Heard.nil (propertyId : PropertyID) : Heard propertyId [] [] :=
  ⟨List.Sublist.refl [], List.Sublist.refl []⟩

theorem Heard.append {propertyId : PropertyID} {frames frames' : List SpinelFrame}
    {values values' : List (List UInt8)} (h : Heard propertyId frames values)
    (h' : Heard propertyId frames' values') :
    Heard propertyId (frames ++ frames') (values ++ values') := by
  refine ⟨?_, ?_⟩
  · rw [changes, List.filterMap_append]
    exact h.carried.append h'.carried
  · rw [List.filter_append, changes, List.filterMap_append]
    exact h.complete.append h'.complete

namespace SpinelProtocol

/-- The listener is registered once, for this property. -/
def Registers (s : SpinelProtocol) (listener : ListenerId) (propertyId : PropertyID) : Prop :=
  ∀ changed, (s.propertyListeners changed).count listener = if changed = propertyId then 1 else 0

/-- No request waits under transaction id 0. -/
def ZeroFree (s : SpinelProtocol) : Prop := s.pendingFrames 0 = none

theorem heardBy_calls (listeners : List ListenerId) (listener : ListenerId) (data : List UInt8) :
    (listeners.map (fun called => Effect.callListener called data)).filterMap
        (Effect.heardBy listener) =
      List.replicate (listeners.count listener) data := by
  induction listeners with
  | nil => rfl
  | cons called listeners ih =>
    rw [List.map_cons, List.count_cons]
    by_cases hsame : called = listener
    · rw [List.filterMap_cons_some (b := data) (by rw [Effect.heardBy, if_pos hsame]), ih,
        if_pos (by rw [hsame]; exact BEq.refl listener), List.replicate_succ]
    · rw [List.filterMap_cons_none (by rw [Effect.heardBy, if_neg hsame]), ih,
        beq_false_of_ne hsame, if_neg (by decide), Nat.add_zero]

theorem Registers.heardBy {s : SpinelProtocol} {listener : ListenerId} {propertyId : PropertyID}
    (h : s.Registers listener propertyId) {frame : SpinelFrame} {effects : List Effect}
    (hcalls : s.callListeners frame = .ok effects) :
    effects.filterMap (Effect.heardBy listener) = (changeOf propertyId frame).toList := by
  unfold callListeners at hcalls
  unfold changeOf
  by_cases hcommand : frame.commandId = .propValueIs
  · rw [if_pos hcommand] at hcalls
    rw [if_pos hcommand]
    cases hchange : changedProperty frame with
    | error e =>
      rw [hchange] at hcalls
      cases hcalls
    | ok change =>
      rw [hchange] at hcalls
      cases hcalls
      rw [heardBy_calls, h change.1]
      dsimp only
      split <;> rfl
  · rw [if_neg hcommand] at hcalls
    rw [if_neg hcommand]
    cases hcalls
    rfl

theorem pendingFuture_of_unsolicited {s : SpinelProtocol} (h : s.ZeroFree) {frame : SpinelFrame}
    (hframe : unsolicited frame = true) : s.pendingFuture frame = none := by
  rw [pendingFuture, eq_of_beq hframe, Option.bind_some]
  exact h

/-- A frame that raises is a response, or carries no value of a known property. -/
theorem frameReceived_heard {s : SpinelProtocol} {listener : ListenerId} {propertyId : PropertyID}
    (h : s.Registers listener propertyId) (hzero : s.ZeroFree) (frame : SpinelFrame) :
    Heard propertyId [frame]
      ((s.frameReceived frame).effects.filterMap (Effect.heardBy listener)) := by
  have hall : ∀ {values : List (List UInt8)}, values = (changeOf propertyId frame).toList →
      Heard propertyId [frame] values := by
    rintro values rfl
    refine ⟨?_, ?_⟩
    · rw [changes_singleton]
    · have hsub : ([frame].filter unsolicited).Sublist [frame] := List.filter_sublist
      rw [← changes_singleton]
      exact hsub.filterMap (changeOf propertyId)
  unfold frameReceived
  cases hcomplete : s.completeRequest frame with
  | error e =>
    refine ⟨List.nil_sublist _, ?_⟩
    have hsolicited : unsolicited frame = false := by
      by_contra hframe
      rw [completeRequest, pendingFuture_of_unsolicited hzero (Bool.eq_true_of_not_eq_false hframe)]
        at hcomplete
      cases hcomplete
    rw [List.filter_singleton, hsolicited]
    exact List.nil_sublist _
  | ok s' =>
    have hlisteners : s'.propertyListeners = s.propertyListeners := by
      unfold completeRequest setResult at hcomplete
      split at hcomplete
      · split at hcomplete
        · cases hcomplete
          rfl
        · cases hcomplete
      · cases hcomplete
        rfl
    have hregisters : s'.Registers listener propertyId := by
      rw [Registers, hlisteners]
      exact h
    dsimp only
    cases hcalls : s'.callListeners frame with
    | ok effects => exact hall (hregisters.heardBy hcalls)
    | error e =>
      refine hall ?_
      rcases s'.callListeners_cases frame with ⟨calls, hok, -⟩ | ⟨e', -, hcommand, herror⟩
      · rw [hok] at hcalls
        cases hcalls
      · rw [changeOf, if_pos hcommand, herror]
        rfl

variable (crc16Kermit : List UInt8 → UInt16)

theorem chunkReceived_heard {s : SpinelProtocol} {listener : ListenerId} {propertyId : PropertyID}
    (h : s.Registers listener propertyId) (hzero : s.ZeroFree) (chunk : List UInt8) :
    Heard propertyId ((s.chunkReceived crc16Kermit chunk).effects.filterMap Effect.passedFrame)
      ((s.chunkReceived crc16Kermit chunk).effects.filterMap (Effect.heardBy listener)) := by
  rw [chunkReceived_passed]
  rcases s.chunkReceived_cases crc16Kermit chunk with
    ⟨hpayload, heq⟩ | ⟨hdlcFrame, hpayload, hframe, heq⟩ | ⟨hdlcFrame, frame, hpayload, hframe, heq⟩
  · rw [heq, hpayload]
    exact Heard.nil propertyId
  · rw [heq, hpayload, Option.bind_some, hframe]
    exact Heard.nil propertyId
  · rw [heq, hpayload, Option.bind_some, hframe]
    exact frameReceived_heard h hzero frame

/-- What is heard in a call of `data_received`, whether or not it raises. -/
theorem dataReceived_heard {s : SpinelProtocol} {listener : ListenerId} {propertyId : PropertyID}
    (h : s.Registers listener propertyId) (hzero : s.ZeroFree) (data : List UInt8) :
    Heard propertyId ((s.dataReceived crc16Kermit data).effects.filterMap Effect.passedFrame)
      ((s.dataReceived crc16Kermit data).effects.filterMap (Effect.heardBy listener)) := by
  obtain ⟨_, _, hrun⟩ := Loop.exec_runs (receivePass_decreasing crc16Kermit)
    { protocol := { s with buffer := s.buffer ++ data } }
  obtain ⟨⟨-, -, hheard⟩, -⟩ := hrun.inv
    (fun st => st.protocol.Registers listener propertyId ∧ st.protocol.ZeroFree ∧
      Heard propertyId (st.effects.filterMap Effect.passedFrame)
        (st.effects.filterMap (Effect.heardBy listener)))
    (fun st st' hinv hpass => by
      obtain ⟨hregisters, hfree, hheard⟩ := hinv
      obtain ⟨head, tail, -, -, -, rfl⟩ := receivePass_cases crc16Kermit hpass
      generalize hs : ({ st.protocol with buffer := tail } : SpinelProtocol) = next
      have hnext : next.Registers listener propertyId := by
        rw [← hs]
        exact hregisters
      have hnextFree : next.ZeroFree := by
        rw [← hs]
        exact hfree
      obtain ⟨futures, hprotocol⟩ := next.chunkReceived_protocol crc16Kermit head
      refine ⟨?_, ?_, ?_⟩
      · rw [hprotocol]
        exact hnext
      · rw [hprotocol]
        exact hnextFree
      · dsimp only
        rw [List.filterMap_append, List.filterMap_append]
        exact hheard.append (chunkReceived_heard crc16Kermit hnext hnextFree head))
    ⟨h, hzero, Heard.nil propertyId⟩
  exact hheard

/-! ## Registration -/

def Unregistered (s : SpinelProtocol) (listener : ListenerId) : Prop :=
  ∀ changed, (s.propertyListeners changed).count listener = 0

theorem Unregistered.add {s : SpinelProtocol} {listener : ListenerId} (h : s.Unregistered listener)
    (propertyId : PropertyID) :
    (s.addPropertyListener propertyId listener).Registers listener propertyId := by
  intro changed
  simp only [addPropertyListener, Function.update_apply]
  split
  · rw [List.count_append, h propertyId, List.count_singleton_self]
  · exact h changed

/-- The listener can be removed, and is not registered any more then. -/
theorem Registers.remove {s : SpinelProtocol} {listener : ListenerId} {propertyId : PropertyID}
    (h : s.Registers listener propertyId) :
    ∃ s', s.removePropertyListener propertyId listener = .ok s' ∧ s'.Unregistered listener := by
  have hmem : listener ∈ s.propertyListeners propertyId := by
    rw [← List.count_pos_iff, h propertyId, if_pos rfl]
    exact Nat.one_pos
  refine ⟨_, if_pos hmem, ?_⟩
  intro changed
  simp only [Function.update_apply]
  split
  · rw [List.count_erase_self, h propertyId, if_pos rfl]
  · rename_i hne
    rw [h changed, if_neg hne]

end SpinelProtocol

namespace EventLoop

variable (crc16Kermit : List UInt8 → UInt16)

/-- No action touches the listeners it is not about. -/
theorem step_count {l l' : EventLoop} {action : Action} (h : Step crc16Kermit l action l')
    {listener : ListenerId} (hspares : Spares action listener) (changed : PropertyID) :
    (l'.protocol.propertyListeners changed).count listener =
      (l.protocol.propertyListeners changed).count listener := by
  rcases step_cases crc16Kermit h with
    ⟨data, -, rfl⟩ | hidle | ⟨id, call, call', hresumes⟩ | ⟨frame, waitResponse, retries, -, rfl⟩
  · obtain ⟨buffer, futures, hprotocol⟩ := l.protocol.dataReceived_protocol crc16Kermit data
    rw [dataReceived, log, hprotocol]
  · obtain ⟨connected, listeners, rfl, -, hcount⟩ := idle_eq crc16Kermit h hidle
    exact hcount listener hspares changed
  · rw [resumed_keeps crc16Kermit (f := SpinelProtocol.propertyListeners) (fun _ _ => rfl) h
      hresumes.resumed]
  · rw [sendFrame_keeps crc16Kermit (f := SpinelProtocol.propertyListeners) (fun _ _ => rfl)]
    rfl

theorem Pops.zeroFree {l l' : EventLoop} {call' : SendFrame} (h : Pops l l' call')
    (hzero : l.protocol.ZeroFree) : l'.protocol.ZeroFree := by
  unfold SpinelProtocol.ZeroFree at hzero ⊢
  rcases h with ⟨-, hpending⟩ | ⟨-, hpending⟩
  · rw [hpending, hzero]
  · rw [hpending, Function.update_apply, hzero, ite_self]

/-- Requests wait under the ids from 1 to 14. -/
theorem step_zeroFree {l l' : EventLoop} {action : Action} (h : Step crc16Kermit l action l')
    (hzero : l.protocol.ZeroFree) : l'.protocol.ZeroFree := by
  rcases step_cases crc16Kermit h with
    ⟨data, -, rfl⟩ | hidle | ⟨id, call, call', hresumes⟩ | ⟨frame, waitResponse, retries, -, rfl⟩
  · obtain ⟨buffer, futures, hprotocol⟩ := l.protocol.dataReceived_protocol crc16Kermit data
    rw [dataReceived, log, hprotocol]
    exact hzero
  · rw [SpinelProtocol.ZeroFree, hidle.pendingFrames]
    exact hzero
  · exact hresumes.pops.zeroFree hzero
  · obtain ⟨call, call', -, -, hpending⟩ :=
      l.sendFrame_cases crc16Kermit frame waitResponse retries
    have hregistered : l.registered.protocol.ZeroFree := by
      rw [SpinelProtocol.ZeroFree, registered_pendingFrames, Function.update_of_ne]
      · exact hzero
      · rw [SpinelProtocol.nextTid]
        omega
    rcases hpending with ⟨-, hpops⟩ | ⟨-, -, hkept⟩
    · exact hpops.zeroFree hregistered
    · rw [SpinelProtocol.ZeroFree, hkept]
      exact hregistered

theorem Quiet.heardBy {l l' : EventLoop} (h : Quiet l l') (listener : ListenerId) :
    (added l l').filterMap (Effect.heardBy listener) = [] := by
  obtain ⟨writes, htrace⟩ := h.trace
  rw [added_of_trace htrace, List.filterMap_map]
  exact List.filterMap_eq_nil_iff.mpr fun _ _ => rfl

/-- The frames that an action passes on, and what a listener hears of them. -/
theorem step_heard {l l' : EventLoop} {action : Action} (h : Step crc16Kermit l action l') :
    ∃ frames, l'.frames = l.frames ++ frames ∧
      ∀ listener propertyId, l.protocol.Registers listener propertyId → l.protocol.ZeroFree →
        Heard propertyId frames ((added l l').filterMap (Effect.heardBy listener)) := by
  rcases step_received crc16Kermit h with ⟨data, -, rfl⟩ | ⟨-, hquiet⟩
  · refine ⟨_, l.dataReceived_frames crc16Kermit data, ?_⟩
    intro listener propertyId hregisters hzero
    have hnone : ∀ raised : Option PyException,
        (raised.toList.map Effect.unhandled).filterMap (Effect.heardBy listener) = [] := by
      intro raised
      rw [List.filterMap_map]
      exact List.filterMap_eq_nil_iff.mpr fun _ _ => rfl
    rw [added_of_trace rfl, List.filterMap_append, hnone, List.append_nil]
    exact SpinelProtocol.dataReceived_heard crc16Kermit hregisters hzero data
  · refine ⟨[], by rw [hquiet.frames, List.append_nil], ?_⟩
    intro listener propertyId _ _
    rw [hquiet.heardBy]
    exact Heard.nil propertyId

end EventLoop

/-! ## The queue of a call -/

namespace PropertyWait

theorem next_cases (wait : PropertyWait) (queue : List (List UInt8)) :
    (wait.value ∉ queue ∧ wait.next queue = { wait with queue := [] }) ∨
    ∃ consumed rest, queue = consumed ++ wait.value :: rest ∧ wait.value ∉ consumed ∧
      wait.next queue = { wait with queue := rest, phase := .returned } := by
  induction queue with
  | nil => exact .inl ⟨List.not_mem_nil, rfl⟩
  | cons changedValue queue ih =>
    by_cases hsame : changedValue = wait.value
    · refine .inr ⟨[], queue, by rw [hsame, List.nil_append], List.not_mem_nil, ?_⟩
      rw [next, if_pos hsame]
    · have hnext : wait.next (changedValue :: queue) = wait.next queue := by
        rw [next, if_neg hsame]
      rw [hnext]
      rcases ih with ⟨hnone, heq⟩ | ⟨consumed, rest, rfl, hnone, heq⟩
      · exact .inl ⟨List.not_mem_cons_of_ne_of_not_mem (Ne.symm hsame) hnone, heq⟩
      · exact .inr ⟨changedValue :: consumed, rest, rfl,
          List.not_mem_cons_of_ne_of_not_mem (Ne.symm hsame) hnone, heq⟩

theorem next_propertyId (wait : PropertyWait) (queue : List (List UInt8)) :
    (wait.next queue).propertyId = wait.propertyId := by
  rcases wait.next_cases queue with ⟨-, heq⟩ | ⟨_, _, -, -, heq⟩
  · rw [heq]
  · rw [heq]

theorem next_listening {wait : PropertyWait} (h : wait.phase = .waiting)
    (queue : List (List UInt8)) : (wait.next queue).Listening := by
  rcases wait.next_cases queue with ⟨-, heq⟩ | ⟨_, _, -, -, heq⟩
  · rw [heq]
    exact .inl h
  · rw [heq]
    exact .inr rfl

end PropertyWait

namespace PropertyWaits

/-! ## Listeners and calls -/

/-- The listener of a call is registered for its property as long as the call needs it, and a
    number that has not been given away is no listener. -/
structure Registered (s : PropertyWaits) : Prop where
  fresh : ∀ listener wait, s.waits listener = some wait → listener < s.nextListener
  unused : ∀ listener, s.nextListener ≤ listener → s.loop.protocol.Unregistered listener
  registers : ∀ listener wait, s.waits listener = some wait → wait.Listening →
    s.loop.protocol.Registers listener wait.propertyId
  removed : ∀ listener wait, s.waits listener = some wait → ¬ wait.Listening →
    s.loop.protocol.Unregistered listener
  notRaised : ∀ listener wait, s.waits listener = some wait → ∀ e, wait.phase ≠ .raised e
  zeroFree : s.loop.protocol.ZeroFree

theorem registered_new : Registered new := by
  refine ⟨?_, fun _ _ _ => rfl, ?_, ?_, ?_, rfl⟩
  · intro listener wait h
    cases h
  · intro listener wait h
    cases h
  · intro listener wait h
    cases h
  · intro listener wait h
    cases h

theorem Foreign.spares {s : PropertyWaits} {action : Action} (h : s.Foreign action)
    {listener : ListenerId} (hown : s.nextListener ≤ listener ∨ s.waits listener ≠ none) :
    EventLoop.Spares action listener := by
  intro propertyId
  refine ⟨?_, ?_⟩
  · rintro rfl
    rcases hown with hunused | hcall
    · exact absurd h.1 (Nat.not_lt.mpr hunused)
    · exact hcall h.2
  · rintro rfl
    rcases hown with hunused | hcall
    · exact absurd h.1 (Nat.not_lt.mpr hunused)
    · exact hcall h.2

theorem foreign_sendFrame (s : PropertyWaits) (frame : SpinelFrame) (waitResponse : Bool)
    (retries : Int) : s.Foreign (.sendFrame frame waitResponse retries) := trivial

theorem withWait_waits_of_ne (s : PropertyWaits) {listener other : ListenerId} (h : other ≠ listener)
    (wait : PropertyWait) : (s.withWait listener wait).waits other = s.waits other :=
  Function.update_of_ne h ..

theorem goOn_waits {s : PropertyWaits} {loop : EventLoop} {listener : ListenerId}
    {wait' : PropertyWait} (h : (s.goOn loop).waits listener = some wait') :
    ∃ wait, s.waits listener = some wait ∧
      wait' = wait.put ((EventLoop.added s.loop loop).filterMap (Effect.heardBy listener)) := by
  obtain ⟨wait, hwait, rfl⟩ := Option.map_eq_some_iff.mp h
  exact ⟨wait, hwait, rfl⟩

variable (crc16Kermit : List UInt8 → UInt16)

theorem Registered.goOn {s : PropertyWaits} {action : Action} {loop : EventLoop}
    (h : Registered s) (hforeign : s.Foreign action)
    (hstep : EventLoop.Step crc16Kermit s.loop action loop) : Registered (s.goOn loop) := by
  have hcount : ∀ listener, s.nextListener ≤ listener ∨ s.waits listener ≠ none → ∀ changed,
      (loop.protocol.propertyListeners changed).count listener =
        (s.loop.protocol.propertyListeners changed).count listener := by
    intro listener hown
    exact EventLoop.step_count crc16Kermit hstep (hforeign.spares hown)
  refine ⟨?_, ?_, ?_, ?_, ?_, EventLoop.step_zeroFree crc16Kermit hstep h.zeroFree⟩
  · intro listener wait' hwait'
    obtain ⟨wait, hwait, rfl⟩ := goOn_waits hwait'
    exact h.fresh listener wait hwait
  · intro listener hunused changed
    exact (hcount listener (.inl hunused) changed).trans (h.unused listener hunused changed)
  · intro listener wait' hwait' hlistening changed
    obtain ⟨wait, hwait, rfl⟩ := goOn_waits hwait'
    refine (hcount listener (.inr ?_) changed).trans (h.registers listener wait hwait hlistening changed)
    rw [hwait]
    exact Option.some_ne_none wait
  · intro listener wait' hwait' hlistening changed
    obtain ⟨wait, hwait, rfl⟩ := goOn_waits hwait'
    refine (hcount listener (.inr ?_) changed).trans (h.removed listener wait hwait hlistening changed)
    rw [hwait]
    exact Option.some_ne_none wait
  · intro listener wait' hwait'
    obtain ⟨wait, hwait, rfl⟩ := goOn_waits hwait'
    exact h.notRaised listener wait hwait

theorem Registered.newListener {s : PropertyWaits} (h : Registered s) :
    Registered { s with nextListener := s.nextListener + 1 } := by
  refine ⟨?_, ?_, h.registers, h.removed, h.notRaised, h.zeroFree⟩
  · intro listener wait hwait
    exact Nat.lt_succ_of_lt (h.fresh listener wait hwait)
  · intro listener hunused
    exact h.unused listener (Nat.le_of_succ_le hunused)

/-- A call that changes while the listeners of the others stay as they are. -/
theorem Registered.update {s s' : PropertyWaits} (h : Registered s) {listener : ListenerId}
    {wait : PropertyWait} (hwaits : s'.waits = Function.update s.waits listener (some wait))
    (hnext : s.nextListener ≤ s'.nextListener) (hfresh : listener < s'.nextListener)
    (hcount : ∀ other, other ≠ listener → ∀ changed,
      (s'.loop.protocol.propertyListeners changed).count other =
        (s.loop.protocol.propertyListeners changed).count other)
    (hregisters : wait.Listening → s'.loop.protocol.Registers listener wait.propertyId)
    (hremoved : ¬ wait.Listening → s'.loop.protocol.Unregistered listener)
    (hraised : ∀ e, wait.phase ≠ .raised e) (hzero : s'.loop.protocol.ZeroFree) :
    Registered s' := by
  have hcases : ∀ {other other'}, s'.waits other = some other' →
      (other = listener ∧ other' = wait) ∨ (other ≠ listener ∧ s.waits other = some other') := by
    intro other other' hother
    rw [hwaits, Function.update_apply] at hother
    split at hother
    · rename_i hsame
      exact .inl ⟨hsame, (Option.some.inj hother).symm⟩
    · rename_i hne
      exact .inr ⟨hne, hother⟩
  refine ⟨?_, ?_, ?_, ?_, ?_, hzero⟩
  · intro other other' hother
    rcases hcases hother with ⟨rfl, -⟩ | ⟨-, hbefore⟩
    · exact hfresh
    · exact Nat.lt_of_lt_of_le (h.fresh other other' hbefore) hnext
  · intro other hunused changed
    have hne : other ≠ listener := by
      rintro rfl
      exact absurd hfresh (Nat.not_lt.mpr hunused)
    exact (hcount other hne changed).trans (h.unused other (Nat.le_trans hnext hunused) changed)
  · intro other other' hother hlistening
    rcases hcases hother with ⟨rfl, rfl⟩ | ⟨hne, hbefore⟩
    · exact hregisters hlistening
    · intro changed
      exact (hcount other hne changed).trans (h.registers other other' hbefore hlistening changed)
  · intro other other' hother hlistening
    rcases hcases hother with ⟨rfl, rfl⟩ | ⟨hne, hbefore⟩
    · exact hremoved hlistening
    · intro changed
      exact (hcount other hne changed).trans (h.removed other other' hbefore hlistening changed)
  · intro other other' hother
    rcases hcases hother with ⟨rfl, rfl⟩ | ⟨-, hbefore⟩
    · exact hraised
    · exact h.notRaised other other' hbefore

theorem Registered.waitForProperty {s : PropertyWaits} (h : Registered s)
    (propertyId : PropertyID) (value : List UInt8) :
    Registered (s.waitForProperty propertyId value) := by
  have hunused := h.unused s.nextListener (Nat.le_refl _)
  refine h.update rfl (Nat.le_succ _) (Nat.lt_succ_self _) ?_ (fun _ => hunused.add propertyId)
    ?_ ?_ h.zeroFree
  · intro other hne changed
    exact s.loop.protocol.addPropertyListener_count propertyId (Ne.symm hne) changed
  · intro hlistening
    exact absurd (.inl rfl) hlistening
  · intro e he
    cases he

/-- The `finally` block removes the listener, and does not raise. -/
theorem Registered.finallyBlock {s : PropertyWaits} (h : Registered s) {listener : ListenerId}
    {wait : PropertyWait} (hwait : s.waits listener = some wait) (hlistening : wait.Listening)
    {phase : WaitPhase} (hphase : phase = .cancelled ∨ phase = .closed) :
    ∃ loop, loop.trace = s.loop.trace ∧
      s.finallyBlock listener wait phase =
        { s with loop := loop }.withWait listener { wait with phase := phase } ∧
      Registered (s.finallyBlock listener wait phase) := by
  obtain ⟨protocol, hremoved, hunregistered⟩ := (h.registers listener wait hwait hlistening).remove
  obtain ⟨listeners, hprotocol⟩ := SpinelProtocol.removePropertyListener_protocol hremoved
  have hblock : s.finallyBlock listener wait phase =
      { s with loop := { s.loop with protocol := protocol } }.withWait listener
        { wait with phase := phase } := by
    simp only [PropertyWaits.finallyBlock, hremoved]
  refine ⟨{ s.loop with protocol := protocol }, rfl, hblock, ?_⟩
  rw [hblock]
  refine h.update rfl (Nat.le_refl _) (h.fresh listener wait hwait) ?_ ?_ (fun _ => hunregistered)
    ?_ ?_
  · intro other hne changed
    exact SpinelProtocol.removePropertyListener_count hremoved (Ne.symm hne) changed
  · rcases hphase with rfl | rfl
    · rintro (h | h)
      · cases h
      · cases h
    · rintro (h | h)
      · cases h
      · cases h
  · rintro e he
    dsimp only at he
    rcases hphase with rfl | rfl
    · cases he
    · cases he
  · rw [hprotocol]
    exact h.zeroFree

theorem Registered.resumed {s : PropertyWaits} (h : Registered s) {listener : ListenerId}
    {wait : PropertyWait} (hwait : s.waits listener = some wait) (hphase : wait.phase = .waiting) :
    Registered (s.withWait listener (wait.next wait.queue)) := by
  have hlistening := PropertyWait.next_listening hphase wait.queue
  refine h.update rfl (Nat.le_refl _) (h.fresh listener wait hwait) (fun _ _ _ => rfl) ?_ ?_ ?_
    h.zeroFree
  · intro _
    rw [wait.next_propertyId]
    exact h.registers listener wait hwait (.inl hphase)
  · intro hno
    exact absurd hlistening hno
  · intro e he
    rcases hlistening with h | h
    · rw [h] at he
      cases he
    · rw [h] at he
      cases he

/-! ## The actions -/

/-- What an action does. -/
theorem step_cases {s s' : PropertyWaits} {action : WaitAction} (h : Step crc16Kermit s action s') :
    (∃ inner loop, s.Foreign inner ∧ EventLoop.Step crc16Kermit s.loop inner loop ∧
      s' = s.goOn loop) ∨
    s' = { s with nextListener := s.nextListener + 1 } ∨
    (∃ propertyId value, s' = s.waitForProperty propertyId value) ∨
    (∃ command loop propertyId value,
      EventLoop.Step crc16Kermit s.loop (.sendFrame command false 3) loop ∧
      s' = (s.goOn loop).waitForProperty propertyId value) ∨
    (∃ listener wait, s.waits listener = some wait ∧ wait.phase = .waiting ∧
      s' = s.withWait listener (wait.next wait.queue)) ∨
    ∃ listener wait phase, s.waits listener = some wait ∧ wait.Listening ∧
      (phase = .cancelled ∨ phase = .closed) ∧ (phase = .closed → wait.phase = .returned) ∧
      s' = s.finallyBlock listener wait phase := by
  cases action with
  | loop inner =>
    simp only [Step, step] at h
    by_cases hforeign : s.Foreign inner
    · rw [if_pos hforeign] at h
      obtain ⟨loop, hloop, rfl⟩ := Option.map_eq_some_iff.mp h
      exact .inl ⟨inner, loop, hforeign, hloop, rfl⟩
    · rw [if_neg hforeign] at h
      cases h
  | newListener =>
    cases h
    exact .inr (.inl rfl)
  | waitForProperty propertyId value =>
    cases h
    exact .inr (.inr (.inl ⟨propertyId, value, rfl⟩))
  | reset resetType =>
    cases h
    have hcommand : EventLoop.Step crc16Kermit s.loop
        (.sendFrame ⟨⟨none, 0, 0b10⟩, .reset, resetType.serialize⟩ false 3)
        (s.loop.sendCommand crc16Kermit .reset resetType.serialize false 3) := rfl
    have hforeign := s.foreign_sendFrame ⟨⟨none, 0, 0b10⟩, .reset, resetType.serialize⟩ false 3
    unfold PropertyWaits.reset
    dsimp only
    split
    · exact .inl ⟨_, _, hforeign, hcommand, rfl⟩
    · split
      · exact .inl ⟨_, _, hforeign, hcommand, rfl⟩
      · exact .inr (.inr (.inr (.inl ⟨_, _, _, _, hcommand, rfl⟩)))
  | resumed listener =>
    obtain ⟨wait, hwait, h⟩ := Option.bind_eq_some_iff.mp h
    unfold PropertyWaits.resumed at h
    split at h
    · rename_i hready
      cases h
      exact .inr (.inr (.inr (.inr (.inl ⟨listener, wait, hwait, hready.1, rfl⟩))))
    · cases h
  | cancelled listener =>
    obtain ⟨wait, hwait, h⟩ := Option.bind_eq_some_iff.mp h
    unfold PropertyWaits.cancelled at h
    split at h
    · rename_i hphase
      cases h
      refine .inr (.inr (.inr (.inr (.inr ⟨listener, wait, .cancelled, hwait, .inl hphase, .inl rfl,
        ?_, rfl⟩))))
      intro hclosed
      cases hclosed
    · cases h
  | closed listener =>
    obtain ⟨wait, hwait, h⟩ := Option.bind_eq_some_iff.mp h
    unfold PropertyWaits.closed at h
    split at h
    · rename_i hphase
      cases h
      exact .inr (.inr (.inr (.inr (.inr ⟨listener, wait, .closed, hwait, .inr hphase, .inr rfl,
        fun _ => hphase, rfl⟩))))
    · cases h

theorem Registered.step {s s' : PropertyWaits} {action : WaitAction} (h : Registered s)
    (hstep : Step crc16Kermit s action s') : Registered s' := by
  rcases step_cases crc16Kermit hstep with
    ⟨inner, loop, hforeign, hloop, rfl⟩ | rfl | ⟨propertyId, value, rfl⟩ |
    ⟨command, loop, propertyId, value, hloop, rfl⟩ | ⟨listener, wait, hwait, hphase, rfl⟩ |
    ⟨listener, wait, phase, hwait, hlistening, hphase, -, rfl⟩
  · exact h.goOn crc16Kermit hforeign hloop
  · exact h.newListener
  · exact h.waitForProperty propertyId value
  · exact (h.goOn crc16Kermit (s.foreign_sendFrame _ _ _) hloop).waitForProperty propertyId value
  · exact h.resumed hwait hphase
  · obtain ⟨loop, -, -, hregistered⟩ := h.finallyBlock hwait hlistening hphase
    exact hregistered

theorem registered_run {actions : List WaitAction} {s : PropertyWaits}
    (h : Run (Step crc16Kermit) new actions s) : Registered s :=
  h.inv Registered (fun _ _ _ hs hstep => hs.step crc16Kermit hstep) registered_new

/-! ## A call over a run -/

/-- A call, and the frames that have been passed on since it began. -/
structure Hears (start : List SpinelFrame) (listener : ListenerId) (propertyId : PropertyID)
    (value : List UInt8) (s : PropertyWaits) (received : List SpinelFrame) (wait : PropertyWait) :
    Prop where
  registered : Registered s
  frames : s.loop.frames = start ++ received
  call : s.waits listener = some wait
  propertyId_eq : wait.propertyId = propertyId
  value_eq : wait.value = value
  waiting : wait.phase = .waiting →
    ∃ consumed, value ∉ consumed ∧ Heard propertyId received (consumed ++ wait.queue)
  returned : wait.phase = .returned ∨ wait.phase = .closed → value ∈ changes propertyId received

variable {start received : List SpinelFrame} {listener : ListenerId} {propertyId : PropertyID}
  {value : List UInt8} {s : PropertyWaits} {wait : PropertyWait}

/-- A state in which the call is the same, and no frame has been added. -/
theorem Hears.congr (h : Hears start listener propertyId value s received wait) {s' : PropertyWaits}
    (hregistered : Registered s') (htrace : s'.loop.trace = s.loop.trace)
    (hcall : s'.waits listener = some wait) :
    Hears start listener propertyId value s' received wait := by
  refine ⟨hregistered, ?_, hcall, h.propertyId_eq, h.value_eq, h.waiting, h.returned⟩
  rw [EventLoop.frames, htrace, ← EventLoop.frames, h.frames]

theorem Hears.goOn (h : Hears start listener propertyId value s received wait) {action : Action}
    {loop : EventLoop} (hforeign : s.Foreign action)
    (hstep : EventLoop.Step crc16Kermit s.loop action loop) :
    ∃ received wait, Hears start listener propertyId value (s.goOn loop) received wait := by
  obtain ⟨frames, hframes, hheard⟩ := EventLoop.step_heard crc16Kermit hstep
  refine ⟨received ++ frames,
    wait.put ((EventLoop.added s.loop loop).filterMap (Effect.heardBy listener)),
    h.registered.goOn crc16Kermit hforeign hstep, ?_, ?_, h.propertyId_eq, h.value_eq, ?_, ?_⟩
  · rw [← List.append_assoc, ← h.frames]
    exact hframes
  · exact Option.map_eq_some_iff.mpr ⟨wait, h.call, rfl⟩
  · intro hphase
    obtain ⟨consumed, hnot, hqueue⟩ := h.waiting hphase
    have hregisters := h.registered.registers listener wait h.call (.inl hphase)
    rw [h.propertyId_eq] at hregisters
    refine ⟨consumed, hnot, ?_⟩
    rw [PropertyWait.put, ← List.append_assoc]
    exact hqueue.append (hheard listener propertyId hregisters h.registered.zeroFree)
  · intro hphase
    rw [changes, List.filterMap_append]
    exact List.mem_append_left _ (h.returned hphase)

theorem Hears.waitForProperty (h : Hears start listener propertyId value s received wait)
    (other : PropertyID) (expected : List UInt8) :
    Hears start listener propertyId value (s.waitForProperty other expected) received wait := by
  refine h.congr (h.registered.waitForProperty other expected) rfl ?_
  have hne : listener ≠ s.nextListener := Nat.ne_of_lt (h.registered.fresh listener wait h.call)
  simp only [PropertyWaits.waitForProperty, withWait, Function.update_of_ne hne, h.call]

theorem Hears.resumed (h : Hears start listener propertyId value s received wait)
    (hphase : wait.phase = .waiting) :
    Hears start listener propertyId value (s.withWait listener (wait.next wait.queue)) received
      (wait.next wait.queue) := by
  obtain ⟨consumed, hnot, hheard⟩ := h.waiting hphase
  have hregistered := h.registered.resumed h.call hphase
  have hcall : (s.withWait listener (wait.next wait.queue)).waits listener =
      some (wait.next wait.queue) := Function.update_self ..
  have hpropertyId := (wait.next_propertyId wait.queue).trans h.propertyId_eq
  rcases wait.next_cases wait.queue with ⟨hnone, heq⟩ | ⟨before, rest, hqueue, -, heq⟩
  · refine ⟨hregistered, h.frames, hcall, hpropertyId, ?_, ?_, ?_⟩
    · rw [heq]
      exact h.value_eq
    · intro _
      refine ⟨consumed ++ wait.queue, ?_, ?_⟩
      · rw [h.value_eq] at hnone
        exact fun hmem => (List.mem_append.mp hmem).elim hnot hnone
      · rw [heq, List.append_nil]
        exact hheard
    · intro hreturned
      rw [heq, hphase] at hreturned
      exact (hreturned.elim nofun nofun)
  · refine ⟨hregistered, h.frames, hcall, hpropertyId, ?_, ?_, ?_⟩
    · rw [heq]
      exact h.value_eq
    · intro hwaiting
      rw [heq] at hwaiting
      cases hwaiting
    · intro _
      refine hheard.carried.subset (List.mem_append_right _ ?_)
      rw [hqueue, h.value_eq]
      exact List.mem_append_right _ List.mem_cons_self

theorem Hears.finallyBlock (h : Hears start listener propertyId value s received wait)
    (hlistening : wait.Listening) {phase : WaitPhase} (hphase : phase = .cancelled ∨ phase = .closed)
    (hclosed : phase = .closed → wait.phase = .returned) :
    Hears start listener propertyId value (s.finallyBlock listener wait phase) received
      { wait with phase := phase } := by
  obtain ⟨loop, htrace, heq, hregistered⟩ := h.registered.finallyBlock h.call hlistening hphase
  refine ⟨hregistered, ?_, ?_, h.propertyId_eq, h.value_eq, ?_, ?_⟩
  · rw [heq, ← h.frames, EventLoop.frames, EventLoop.frames, ← htrace]
    rfl
  · rw [heq]
    exact Function.update_self ..
  · intro hwaiting
    rcases hphase with rfl | rfl
    · cases hwaiting
    · cases hwaiting
  · rintro (hreturned | hreturned)
    · rcases hphase with rfl | rfl
      · cases hreturned
      · cases hreturned
    · exact h.returned (.inl (hclosed hreturned))

theorem Hears.step (h : Hears start listener propertyId value s received wait)
    {action : WaitAction} {s' : PropertyWaits} (hstep : Step crc16Kermit s action s') :
    ∃ received wait, Hears start listener propertyId value s' received wait := by
  rcases step_cases crc16Kermit hstep with
    ⟨inner, loop, hforeign, hloop, rfl⟩ | rfl | ⟨other, expected, rfl⟩ |
    ⟨command, loop, other, expected, hloop, rfl⟩ | ⟨called, wait', hwait', hphase, rfl⟩ |
    ⟨called, wait', phase, hwait', hlistening, hphase, hclosed, rfl⟩
  · exact h.goOn crc16Kermit hforeign hloop
  · exact ⟨received, wait, h.congr h.registered.newListener rfl h.call⟩
  · exact ⟨received, wait, h.waitForProperty other expected⟩
  · obtain ⟨received, wait, hnext⟩ := h.goOn crc16Kermit (s.foreign_sendFrame _ _ _) hloop
    exact ⟨received, wait, hnext.waitForProperty other expected⟩
  · by_cases hsame : called = listener
    · subst hsame
      rw [h.call] at hwait'
      cases hwait'
      exact ⟨received, _, h.resumed hphase⟩
    · refine ⟨received, wait, h.congr (h.registered.resumed hwait' hphase) rfl ?_⟩
      rw [withWait_waits_of_ne _ (Ne.symm hsame), h.call]
  · by_cases hsame : called = listener
    · subst hsame
      rw [h.call] at hwait'
      cases hwait'
      exact ⟨received, _, h.finallyBlock hlistening hphase hclosed⟩
    · obtain ⟨loop, htrace, heq, hregistered⟩ :=
        h.registered.finallyBlock hwait' hlistening hphase
      refine ⟨received, wait, h.congr hregistered ?_ ?_⟩
      · rw [heq]
        exact htrace
      · rw [heq, withWait_waits_of_ne _ (Ne.symm hsame)]
        exact h.call

/-- A call of `wait_for_property` begins, on its own or in `reset`. -/
theorem hears_start {s s' : PropertyWaits} {action : WaitAction} (h : Registered s)
    (hstep : Step crc16Kermit s action s') {wait : PropertyWait}
    (hcall : s'.waits s.nextListener = some wait) :
    wait.phase = .waiting ∧
      Hears s.loop.frames s.nextListener wait.propertyId wait.value s' [] wait := by
  have hregistered := h.step crc16Kermit hstep
  have hnone : s.waits s.nextListener = none := by
    cases hbefore : s.waits s.nextListener with
    | none => rfl
    | some earlier => exact absurd (h.fresh _ earlier hbefore) (Nat.lt_irrefl _)
  have hbegin : ∀ (t : PropertyWaits) (other : PropertyID) (expected : List UInt8),
      t.nextListener = s.nextListener → t.loop.frames = s.loop.frames →
      s' = t.waitForProperty other expected →
      wait.phase = .waiting ∧
        Hears s.loop.frames s.nextListener wait.propertyId wait.value s' [] wait := by
    rintro t other expected hnext hframes rfl
    have hnew : wait = ⟨other, expected, [], .waiting⟩ := by
      rw [← hnext] at hcall
      simp only [PropertyWaits.waitForProperty, withWait, Function.update_self] at hcall
      exact (Option.some.inj hcall).symm
    subst hnew
    refine ⟨rfl, hregistered, ?_, hcall, rfl, rfl, ?_, ?_⟩
    · rw [List.append_nil, ← hframes]
      rfl
    · intro _
      exact ⟨[], List.not_mem_nil, Heard.nil other⟩
    · intro hreturned
      exact hreturned.elim nofun nofun
  rcases step_cases crc16Kermit hstep with
    ⟨inner, loop, -, -, rfl⟩ | rfl | ⟨other, expected, heq⟩ |
    ⟨command, loop, other, expected, hloop, heq⟩ | ⟨called, wait', hwait', -, rfl⟩ |
    ⟨called, wait', phase, hwait', hlistening, hphase, -, rfl⟩
  · obtain ⟨earlier, hearlier, -⟩ := goOn_waits hcall
    rw [hnone] at hearlier
    cases hearlier
  · rw [hnone] at hcall
    cases hcall
  · exact hbegin s other expected rfl rfl heq
  · refine hbegin (s.goOn loop) other expected rfl ?_ heq
    rcases EventLoop.step_received crc16Kermit hloop with ⟨data, hdata, -⟩ | ⟨-, hquiet⟩
    · cases hdata
    · exact hquiet.frames
  · have hne : s.nextListener ≠ called := by
      rintro rfl
      rw [hnone] at hwait'
      cases hwait'
    rw [withWait_waits_of_ne _ hne, hnone] at hcall
    cases hcall
  · have hne : s.nextListener ≠ called := by
      rintro rfl
      rw [hnone] at hwait'
      cases hwait'
    obtain ⟨loop, -, heq, -⟩ := h.finallyBlock hwait' hlistening hphase
    rw [heq, withWait_waits_of_ne _ hne] at hcall
    rw [hnone] at hcall
    cases hcall

theorem hears_run {before after : List WaitAction} {s₀ s₁ s : PropertyWaits} {action : WaitAction}
    {wait₀ : PropertyWait} (hbefore : Run (Step crc16Kermit) new before s₀)
    (hbegin : Step crc16Kermit s₀ action s₁) (hcall : s₁.waits s₀.nextListener = some wait₀)
    (hafter : Run (Step crc16Kermit) s₁ after s) :
    ∃ received wait,
      Hears s₀.loop.frames s₀.nextListener wait₀.propertyId wait₀.value s received wait := by
  refine hafter.inv (fun s => ∃ received wait,
    Hears s₀.loop.frames s₀.nextListener wait₀.propertyId wait₀.value s received wait) ?_ ?_
  · rintro s action s' ⟨received, wait, h⟩ hstep
    exact h.step crc16Kermit hstep
  · exact ⟨[], wait₀, (hears_start crc16Kermit (registered_run crc16Kermit hbefore) hbegin hcall).2⟩

/-- A call that waits and has been told the value returns when it runs. -/
theorem Hears.returns (h : Hears start listener propertyId value s received wait)
    (hphase : wait.phase = .waiting)
    (hvalue : value ∈ changes propertyId (received.filter unsolicited)) :
    ∃ s' wait', Step crc16Kermit s (.resumed listener) s' ∧ s'.waits listener = some wait' ∧
      wait'.phase = .returned := by
  obtain ⟨consumed, hnot, hheard⟩ := h.waiting hphase
  have hmem : wait.value ∈ wait.queue := by
    rw [h.value_eq]
    exact (List.mem_append.mp (hheard.complete.subset hvalue)).resolve_left hnot
  have hready : wait.phase = .waiting ∧ wait.queue ≠ [] := ⟨hphase, List.ne_nil_of_mem hmem⟩
  refine ⟨s.withWait listener (wait.next wait.queue), wait.next wait.queue, ?_,
    Function.update_self .., ?_⟩
  · simp only [Step, PropertyWaits.step, h.call, Option.bind_eq_bind, Option.bind_some,
      PropertyWaits.resumed, if_pos hready]
  · rcases wait.next_cases wait.queue with ⟨hnone, -⟩ | ⟨_, _, -, -, heq⟩
    · exact absurd hmem hnone
    · rw [heq]

/-- A call of `wait_for_property`, on its own or in `reset`, returns only if a frame that is
    passed on after it began carries the value, and it can return as soon as such a frame that is
    no response has come. Its listener is registered exactly as long as the call waits or its
    generator is open, and removing it does not raise. -/
theorem wait_returns {before after : List WaitAction} {s₀ s₁ s : PropertyWaits}
    {action : WaitAction} {wait₀ : PropertyWait} (hbefore : Run (Step crc16Kermit) new before s₀)
    (hbegin : Step crc16Kermit s₀ action s₁) (hcall : s₁.waits s₀.nextListener = some wait₀)
    (hafter : Run (Step crc16Kermit) s₁ after s) :
    ∃ received wait, s.loop.frames = s₀.loop.frames ++ received ∧
      s.waits s₀.nextListener = some wait ∧
      (wait.phase = .returned ∨ wait.phase = .closed →
        wait₀.value ∈ changes wait₀.propertyId received) ∧
      (wait.phase = .waiting →
        wait₀.value ∈ changes wait₀.propertyId (received.filter unsolicited) →
        ∃ s' wait', Step crc16Kermit s (.resumed s₀.nextListener) s' ∧
          s'.waits s₀.nextListener = some wait' ∧ wait'.phase = .returned) ∧
      (wait.Listening → s.loop.protocol.Registers s₀.nextListener wait₀.propertyId) ∧
      (¬ wait.Listening → s.loop.protocol.Unregistered s₀.nextListener) ∧
      ∀ e, wait.phase ≠ .raised e := by
  obtain ⟨received, wait, h⟩ := hears_run crc16Kermit hbefore hbegin hcall hafter
  refine ⟨received, wait, h.frames, h.call, h.returned, h.returns crc16Kermit, ?_, ?_, ?_⟩
  · intro hlistening
    rw [← h.propertyId_eq]
    exact h.registered.registers _ wait h.call hlistening
  · exact h.registered.removed _ wait h.call
  · exact h.registered.notRaised _ wait h.call

/-- The value 112 of `LAST_STATUS` with transaction id 0, and the CRC of its four bytes. -/
def poweredOn : List UInt8 := [0x7E, 0x80, 0x06, 0x00, 0x70, 0x34, 0x12, 0x7E]

/-- `reset` on a connected protocol object returns when the radio has started. -/
theorem wait_returns_reset :
    ∃ s wait received, Run (Step (fun _ => 0x1234)) new
        [.loop .connectionMade, .reset .stack, .loop (.dataReceived poweredOn), .resumed 0] s ∧
      s.waits 0 = some wait ∧ wait.phase = .returned ∧ s.loop.frames = received ∧
      [resetPowerOn] ∈ changes .lastStatus received := by
  have hbefore : Run (Step (fun _ => 0x1234)) new [.loop .connectionMade]
      (new.goOn EventLoop.connected) := .single rfl
  have hbegin : Step (fun _ => 0x1234) (new.goOn EventLoop.connected) (.reset .stack)
      ((new.goOn EventLoop.connected).reset (fun _ => 0x1234) .stack) := rfl
  have hafter : Run (Step (fun _ => 0x1234))
      ((new.goOn EventLoop.connected).reset (fun _ => 0x1234) .stack)
      [.loop (.dataReceived poweredOn), .resumed 0] _ := Run.of_foldlM rfl
  obtain ⟨received, wait, hframes, hcall, hreturned, -⟩ :=
    wait_returns (fun _ => 0x1234) hbefore hbegin rfl hafter
  have hphase : wait.phase = .returned := by
    cases hcall
    rfl
  exact ⟨_, wait, received, hbefore.append (.cons hbegin hafter), hcall, hphase, hframes,
    hreturned (.inl hphase)⟩

end PropertyWaits

end ZigpySpinel.Python
