import ZigpySpinel.Python.Proofs.Requests

/-!
# Exceptions inside the receive loop

`data_received` catches what decoding a frame raises and goes on with the next one. What
`frame_received` raises it does not catch: a second response to a request that is still in
`_pending_frames`, or the value of a property that `PropertyID` does not know, ends the loop
with the rest of the bytes in the buffer.
-/

namespace ZigpySpinel.Python
open Lib

variable (crc16Kermit : List UInt8 → UInt16)

/-- A call of `data_received` as its loop means it: nothing is raised, no Flag byte is left,
    and every frame that decodes is passed on once and in order. -/
structure Robust (s : SpinelProtocol) (data : List UInt8) : Prop where
  notRaised : (s.dataReceived crc16Kermit data).raised = none
  noFlag : HDLCSpecial.flag.value ∉ (s.dataReceived crc16Kermit data).protocol.buffer
  passed : (s.dataReceived crc16Kermit data).effects.filterMap Effect.passedFrame =
    streamFrames crc16Kermit (s.buffer ++ data)

theorem robust_iff_raised_none (s : SpinelProtocol) (data : List UInt8) :
    Robust crc16Kermit s data ↔ (s.dataReceived crc16Kermit data).raised = none := by
  constructor
  · intro h
    exact h.notRaised
  · intro h
    obtain ⟨-, hflag⟩ := s.dataReceived_kept crc16Kermit data
    obtain ⟨-, -, hpassed⟩ := SpinelProtocol.dataReceived_of_raised_none crc16Kermit h
    exact ⟨h, hflag h, hpassed⟩

namespace EventLoop

/-- In every state that the protocol object can get into, a chunk is received as it should be
    exactly if its frames answer different requests that have no answer yet, and carry values
    of known properties only. -/
theorem dataReceived_robust_iff {actions : List Action} {l : EventLoop}
    (h : Run (Step crc16Kermit) new actions l) (data : List UInt8) :
    Robust crc16Kermit l.protocol data ↔
      l.protocol.Harmless (streamFrames crc16Kermit (l.protocol.buffer ++ data)) := by
  rw [robust_iff_raised_none]
  exact SpinelProtocol.dataReceived_raised_iff crc16Kermit
    (keyed_run crc16Kermit h).distinctFutures data

/-- A request for the version of the radio. -/
def versionRequest : Action :=
  .sendFrame ⟨⟨none, 0, 0b10⟩, .propValueGet, [0x02]⟩ true 3

/-- The response to the first request, with the CRC of its three bytes. -/
def versionResponse : List UInt8 := [0x7E, 0x83, 0x06, 0x02, 0x86, 0x52, 0x7E]

/-- The first response to a request is received, while the request waits for it. -/
theorem dataReceived_robust_response :
    ∃ l, Run (Step (fun _ => 0x5286)) new [.connectionMade, versionRequest] l ∧
      Robust (fun _ => 0x5286) l.protocol versionResponse := by
  have hrun : Run (Step (fun _ => 0x5286)) new [.connectionMade, versionRequest] _ :=
    Run.of_foldlM rfl
  refine ⟨_, hrun, (dataReceived_robust_iff _ hrun versionResponse).mpr ?_⟩
  refine ⟨?_, by decide, ?_⟩
  · intro frame hframe future hfuture
    obtain rfl := List.mem_singleton.mp hframe
    cases hfuture
    rfl
  · intro frame hframe hcommand
    obtain rfl := List.mem_singleton.mp hframe
    exact ⟨_, rfl⟩

/-- A value of the property 58, which `PropertyID` does not list, ends the loop of a new
    protocol object. -/
theorem unknownProperty_raises :
    ¬ ∀ (crc16Kermit : List UInt8 → UInt16) (actions : List Action) (l : EventLoop),
      Run (Step crc16Kermit) new actions l → ∀ data, Robust crc16Kermit l.protocol data := by
  intro h
  have hraised := (h (fun _ => 0x0029) [] new (.nil new)
    [0x7E, 0x80, 0x06, 0x3A, 0x29, 0x00, 0x7E]).notRaised
  cases hraised

end EventLoop

end ZigpySpinel.Python
