import ZigpySpinel.Python.Proofs.FrameAgreement
import ZigpySpinel.Python.Proofs.PackedAgreement
import ZigpySpinel.Python.Proofs.PropertyWaits
import ZigpySpinel.Spinel.Proofs.Receivers

/-!
# The two packages receive the same frames and updates

On a stream of payloads that they read alike both packages handle the same frames. The Rust
package sends the value of a property to one channel, and only if the frame has transaction id 0.
The Python package calls all listeners of the property, also for responses. So what the channel
is sent is what a listener is called with in frames that are no responses.
-/

namespace ZigpySpinel.Python
open Lib

/-! ## Updates -/

/-- The number of the property for the Rust package. -/
def PropertyID.toRust (propertyId : PropertyID) : UInt32 := UInt32.ofNat propertyId.value

/-- Whether the last frame was no response, and what a listener was called with in the frames
    that were none. -/
structure Hearing where
  unasked : Bool
  values : List (List UInt8)

def Hearing.next (listener : ListenerId) (h : Hearing) : Effect → Hearing
  | .frameReceived frame => { h with unasked := unsolicited frame }
  | .callListener called data =>
    if h.unasked ∧ called = listener then { h with values := h.values ++ [data] } else h
  | .decodedHdlcFrame _ => h
  | .write _ => h
  | .unhandled _ => h

/-- Whatever came before, these effects call the listener with these values in frames that are
    no responses. -/
def Tells (listener : ListenerId) (effects : List Effect) (values : List (List UInt8)) : Prop :=
  ∀ h, ∃ unasked, effects.foldl (Hearing.next listener) h = ⟨unasked, h.values ++ values⟩

/-- No listener is called. -/
theorem Tells.nil (listener : ListenerId) {effects : List Effect}
    (h : ∀ hearing, ∀ effect ∈ effects, Hearing.next listener hearing effect = hearing) :
    Tells listener effects [] := by
  intro hearing
  refine ⟨hearing.unasked, ?_⟩
  rw [List.append_nil]
  induction effects with
  | nil => rfl
  | cons effect effects ih =>
    rw [List.foldl_cons, h hearing effect List.mem_cons_self]
    exact ih fun hearing effect heffect => h hearing effect (List.mem_cons_of_mem _ heffect)

theorem Tells.append {listener : ListenerId} {effects effects' : List Effect}
    {values values' : List (List UInt8)} (h : Tells listener effects values)
    (h' : Tells listener effects' values') :
    Tells listener (effects ++ effects') (values ++ values') := by
  intro hearing
  obtain ⟨unasked, heq⟩ := h hearing
  obtain ⟨unasked', heq'⟩ := h' ⟨unasked, hearing.values ++ values⟩
  exact ⟨unasked', by rw [List.foldl_append, heq, heq', List.append_assoc]⟩

/-- The calls of one frame count if the frame is no response. -/
theorem foldl_calls (listener : ListenerId) (calls : List (ListenerId × List UInt8))
    (h : Hearing) :
    (calls.map fun call => Effect.callListener call.1 call.2).foldl (Hearing.next listener) h =
      { h with
        values := h.values ++
          if h.unasked then
            (calls.map fun call => Effect.callListener call.1 call.2).filterMap
              (Effect.heardBy listener)
          else [] } := by
  induction calls generalizing h with
  | nil => simp
  | cons call calls ih =>
    rw [List.map_cons, List.foldl_cons, ih, Hearing.next]
    by_cases hunasked : h.unasked = true
    · by_cases hcalled : call.1 = listener
      · simp [hunasked, hcalled, Effect.heardBy]
      · simp [hunasked, hcalled, Effect.heardBy]
    · simp [hunasked]

namespace SpinelProtocol

/-- A frame that is no response tells the listener of its property the value. -/
theorem frameReceived_tells {s : SpinelProtocol} {listener : ListenerId} {propertyId : PropertyID}
    (h : s.Registers listener propertyId) (hzero : s.ZeroFree) (frame : SpinelFrame) :
    Tells listener (.frameReceived frame :: (s.frameReceived frame).effects)
      (changes propertyId ([frame].filter unsolicited)) := by
  intro hearing
  obtain ⟨hcarried, hcomplete⟩ := frameReceived_heard h hzero frame
  obtain ⟨calls, hcalls⟩ := s.frameReceived_effects frame
  rw [hcalls] at hcarried hcomplete ⊢
  refine ⟨unsolicited frame, ?_⟩
  rw [List.foldl_cons, Hearing.next, foldl_calls]
  dsimp only
  cases hframe : unsolicited frame with
  | false =>
    rw [List.filter_singleton, hframe]
    rfl
  | true =>
    have hsingle : [frame].filter unsolicited = [frame] := by
      rw [List.filter_singleton, hframe]
      rfl
    rw [hsingle] at hcomplete ⊢
    rw [if_pos rfl, hcarried.antisymm hcomplete]

variable (crc16Kermit : List UInt8 → UInt16)

theorem chunkReceived_tells {s : SpinelProtocol} {listener : ListenerId} {propertyId : PropertyID}
    (h : s.Registers listener propertyId) (hzero : s.ZeroFree) (chunk : List UInt8) :
    Tells listener (s.chunkReceived crc16Kermit chunk).effects
      (changes propertyId
        (((s.chunkReceived crc16Kermit chunk).effects.filterMap Effect.passedFrame).filter
          unsolicited)) := by
  rw [chunkReceived_passed]
  rcases s.chunkReceived_cases crc16Kermit chunk with
    ⟨hpayload, heq⟩ | ⟨hdlcFrame, hpayload, hframe, heq⟩ | ⟨hdlcFrame, frame, hpayload, hframe, heq⟩
  · rw [heq, hpayload]
    exact Tells.nil listener fun _ _ heffect => absurd heffect List.not_mem_nil
  · rw [heq, hpayload, Option.bind_some, hframe]
    refine Tells.nil listener ?_
    intro hearing effect heffect
    obtain rfl := List.mem_singleton.mp heffect
    rfl
  · rw [heq, hpayload, Option.bind_some, hframe]
    exact fun hearing => frameReceived_tells h hzero frame hearing

/-- What a listener is told in a call of `data_received`, whether or not it raises. -/
theorem dataReceived_tells {s : SpinelProtocol} {listener : ListenerId} {propertyId : PropertyID}
    (h : s.Registers listener propertyId) (hzero : s.ZeroFree) (data : List UInt8) :
    Tells listener (s.dataReceived crc16Kermit data).effects
      (changes propertyId
        (((s.dataReceived crc16Kermit data).effects.filterMap Effect.passedFrame).filter
          unsolicited)) := by
  obtain ⟨_, _, hrun⟩ := Loop.exec_runs (receivePass_decreasing crc16Kermit)
    { protocol := { s with buffer := s.buffer ++ data } }
  obtain ⟨⟨-, -, htold⟩, -⟩ := hrun.inv
    (fun st => st.protocol.Registers listener propertyId ∧ st.protocol.ZeroFree ∧
      Tells listener st.effects
        (changes propertyId ((st.effects.filterMap Effect.passedFrame).filter unsolicited)))
    (fun st st' hinv hpass => by
      obtain ⟨hregisters, hfree, htold⟩ := hinv
      obtain ⟨head, tail, -, -, -, rfl⟩ := receivePass_cases crc16Kermit hpass
      generalize hs : ({ st.protocol with buffer := tail } : SpinelProtocol) = next
      have hnext : next.Registers listener propertyId := by
        rw [← hs]
        exact hregisters
      have hnextFree : next.ZeroFree := by
        rw [← hs]
        exact hfree
      obtain ⟨futures, hprotocol⟩ := next.chunkReceived_protocol crc16Kermit head
      refine ⟨?_, ?_, ?_⟩
      · rw [hprotocol]
        exact hnext
      · rw [hprotocol]
        exact hnextFree
      · dsimp only
        rw [List.filterMap_append, List.filter_append, changes, List.filterMap_append]
        exact htold.append (chunkReceived_tells crc16Kermit hnext hnextFree head))
    ⟨h, hzero, Tells.nil listener fun _ _ heffect => absurd heffect List.not_mem_nil⟩
  exact htold

end SpinelProtocol

/-! ## Runs -/

namespace EventLoop

variable {crcKermit crc16Kermit : List UInt8 → UInt16}

/-- The listener is registered once and for this property only, and since the first of the two
    states it has been called with the values of the property in frames that are no responses. -/
structure Listens (listener : ListenerId) (propertyId : PropertyID) (l₁ l : EventLoop) : Prop where
  registers : l.protocol.Registers listener propertyId
  zeroFree : l.protocol.ZeroFree
  told : ∃ frames effects, l.frames = l₁.frames ++ frames ∧ l.trace = l₁.trace ++ effects ∧
    Tells listener effects (changes propertyId (frames.filter unsolicited))

theorem Listens.step {listener : ListenerId} {propertyId : PropertyID} {l₁ l l' : EventLoop}
    (h : Listens listener propertyId l₁ l) {action : Action}
    (hstep : Step crc16Kermit l action l') (hspares : Spares action listener) :
    Listens listener propertyId l₁ l' := by
  obtain ⟨frames, effects, hframes, htrace, htold⟩ := h.told
  refine ⟨?_, step_zeroFree crc16Kermit hstep h.zeroFree, ?_⟩
  · intro changed
    rw [step_count crc16Kermit hstep hspares changed]
    exact h.registers changed
  · rcases step_received crc16Kermit hstep with ⟨data, -, rfl⟩ | ⟨-, hquiet⟩
    · let called := l.protocol.dataReceived crc16Kermit data
      have hnothing : Tells listener (called.raised.toList.map Effect.unhandled) [] := by
        refine Tells.nil listener ?_
        intro hearing effect heffect
        obtain ⟨e, -, rfl⟩ := List.mem_map.mp heffect
        rfl
      have hcalled := SpinelProtocol.dataReceived_tells crc16Kermit h.registers h.zeroFree data
      refine ⟨frames ++ called.effects.filterMap Effect.passedFrame,
        effects ++ (called.effects ++ called.raised.toList.map Effect.unhandled), ?_, ?_, ?_⟩
      · rw [dataReceived_frames, hframes, List.append_assoc]
      · rw [dataReceived, log, htrace, List.append_assoc]
      · rw [List.filter_append, changes, List.filterMap_append]
        have hboth := htold.append (hcalled.append hnothing)
        rwa [List.append_nil] at hboth
    · obtain ⟨writes, hwrites⟩ := hquiet.trace
      have hnothing : Tells listener (writes.map Effect.write) [] := by
        refine Tells.nil listener ?_
        intro hearing effect heffect
        obtain ⟨data, -, rfl⟩ := List.mem_map.mp heffect
        rfl
      refine ⟨frames, effects ++ writes.map Effect.write, ?_, ?_, ?_⟩
      · rw [hquiet.frames, hframes]
      · rw [hwrites, htrace, List.append_assoc]
      · have hboth := htold.append hnothing
        rwa [List.append_nil] at hboth

end EventLoop

end ZigpySpinel.Python
