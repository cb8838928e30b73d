import ZigpySpinel.Lib.Transition
import ZigpySpinel.Spinel.Proofs.Chunking

/-!
# Framing end to end

Every state of the protocol object keeps its buffer free of Flag bytes between calls,
whatever was received before. So the Flag byte in front of an encoded frame ends the
leftover of earlier noise, and every frame that follows is a segment of its own.
-/

namespace ZigpySpinel.Spinel.SpinelProtocol
open Lib

/-- A call of one of the public functions that change the protocol object. -/
inductive Call where
  | parseFramesFromBytesInto (bytes : List UInt8) (into : List SpinelFrame)
  | handleInboundBytes (bytes : List UInt8)
  | handleInboundFrame (frame : SpinelFrame)
  | prepareRequest (channel : SenderId) (commandId : UInt8) (payload : List UInt8)
  | cancelRequest (tid : UInt8)
  | setUnsolicitedFrameReceiver (tx : ReceiverId)
  | setPropertyUpdateReceiver (propertyId : UInt32) (tx : ReceiverId)

variable (crcKermit : List UInt8 → UInt16)

/-- The protocol object after a call. -/
def apply (s : SpinelProtocol) : Call → SpinelProtocol
  | .parseFramesFromBytesInto bytes into => (s.parseFramesFromBytesInto crcKermit bytes into).1
  | .handleInboundBytes bytes => (s.handleInboundBytes crcKermit bytes).1
  | .handleInboundFrame frame => (s.handleInboundFrame frame).1
  | .prepareRequest channel commandId payload => (s.prepareRequest channel commandId payload).1
  | .cancelRequest tid => (s.cancelRequest tid).1
  | .setUnsolicitedFrameReceiver tx => s.setUnsolicitedFrameReceiver tx
  | .setPropertyUpdateReceiver propertyId tx => s.setPropertyUpdateReceiver propertyId tx

/-- The states that calls lead to from `SpinelProtocol::new()`. -/
def Reachable (s : SpinelProtocol) : Prop :=
  ∃ calls, Run (fun s call t => t = s.apply crcKermit call) new calls s

theorem handleInboundFrame_buffer (s : SpinelProtocol) (frame : SpinelFrame) :
    (s.handleInboundFrame frame).1.buffer = s.buffer := by
  unfold handleInboundFrame
  dsimp only
  repeat' split
  all_goals rfl

theorem handleInboundFrames_buffer (frames : List SpinelFrame) (s : SpinelProtocol) :
    (s.handleInboundFrames frames).1.buffer = s.buffer := by
  induction frames generalizing s with
  | nil => rfl
  | cons frame frames ih =>
    rw [handleInboundFrames]
    exact (ih _).trans (handleInboundFrame_buffer s frame)

theorem parseFramesFromBytesInto_buffer (s : SpinelProtocol) (bytes : List UInt8)
    (into : List SpinelFrame) :
    HdlcSpecial.flag.toU8 ∉ (s.parseFramesFromBytesInto crcKermit bytes into).1.buffer := by
  rw [parseFramesFromBytesInto_eq]
  exact notMem_segments_snd _

/-- No call leaves a Flag byte in the buffer. -/
theorem apply_flag_notMem (s : SpinelProtocol) (call : Call)
    (h : HdlcSpecial.flag.toU8 ∉ s.buffer) :
    HdlcSpecial.flag.toU8 ∉ (s.apply crcKermit call).buffer := by
  cases call with
  | parseFramesFromBytesInto bytes into => exact parseFramesFromBytesInto_buffer crcKermit s bytes into
  | handleInboundBytes bytes =>
    rw [apply, handleInboundBytes, handleInboundFrames_buffer]
    exact parseFramesFromBytesInto_buffer crcKermit s bytes []
  | handleInboundFrame frame =>
    rw [apply, handleInboundFrame_buffer]
    exact h
  | prepareRequest channel commandId payload => exact h
  | cancelRequest tid => exact h
  | setUnsolicitedFrameReceiver tx => exact h
  | setPropertyUpdateReceiver propertyId tx => exact h

theorem Reachable.flag_notMem {s : SpinelProtocol} (h : Reachable crcKermit s) :
    HdlcSpecial.flag.toU8 ∉ s.buffer := by
  rcases h with ⟨calls, hrun⟩
  refine hrun.inv (fun s => HdlcSpecial.flag.toU8 ∉ s.buffer) ?_ (List.not_mem_nil)
  rintro s call t hs rfl
  exact apply_flag_notMem crcKermit s call hs

/-! ## Encoded frames are segments -/

/-- What a sender puts on the wire for a list of frames. -/
def encodeFrames (frames : List SpinelFrame) : List UInt8 :=
  frames.flatMap fun frame =>
    HdlcLiteFrame.toBytesWithFlags crcKermit { data := frame.toBytes }

/-- The frames that `SpinelFrame::to_bytes` writes faithfully. -/
def Encodable (frame : SpinelFrame) : Prop := frame.header.WellFormed ∧ frame.payload ≠ []

theorem segmentFrames_toBytes {frame : SpinelFrame} (h : Encodable frame) :
    segmentFrames crcKermit (HdlcLiteFrame.toBytes crcKermit { data := frame.toBytes }) = [frame] := by
  have hlen := List.length_pos_of_ne_nil
    (HdlcLiteFrame.toBytes_ne_nil crcKermit { data := frame.toBytes })
  have hframe := SpinelFrame.fromBytes_toBytes frame h.1 h.2
  simp [segmentFrames, hlen, parseSegment, HdlcLiteFrame.fromBytes_toBytes, hframe]

/-- One encoded frame behind a leftover without Flag bytes: its first Flag byte ends
    the leftover, its last one the frame. -/
theorem streamFrames_encoded {leftover : List UInt8} (hleftover : HdlcSpecial.flag.toU8 ∉ leftover)
    {frame : SpinelFrame} (h : Encodable frame) (rest : List UInt8) :
    streamFrames crcKermit
        (leftover ++ (HdlcLiteFrame.toBytesWithFlags crcKermit { data := frame.toBytes } ++ rest)) =
      segmentFrames crcKermit leftover ++ (frame :: streamFrames crcKermit rest) := by
  have hbody := HdlcLiteFrame.flag_notMem_toBytes crcKermit { data := frame.toBytes }
  simp only [HdlcLiteFrame.toBytesWithFlags, List.append_assoc, List.cons_append, List.nil_append]
  rw [streamFrames_cut crcKermit hleftover, streamFrames_cut crcKermit hbody,
    segmentFrames_toBytes crcKermit h]
  rfl

theorem segments_encoded {leftover : List UInt8} (hleftover : HdlcSpecial.flag.toU8 ∉ leftover)
    (frame : SpinelFrame) (rest : List UInt8) :
    (segments HdlcSpecial.flag.toU8
        (leftover ++ (HdlcLiteFrame.toBytesWithFlags crcKermit { data := frame.toBytes } ++ rest))).2 =
      (segments HdlcSpecial.flag.toU8 rest).2 := by
  have hbody := HdlcLiteFrame.flag_notMem_toBytes crcKermit { data := frame.toBytes }
  simp only [HdlcLiteFrame.toBytesWithFlags, List.append_assoc, List.cons_append, List.nil_append]
  rw [segments_cut hleftover, segments_cut hbody]

/-- The stream of a list of frames decodes to them, and nothing is left over. -/
theorem streamFrames_encodeFrames (frames : List SpinelFrame) (h : ∀ f ∈ frames, Encodable f) :
    streamFrames crcKermit (encodeFrames crcKermit frames) = frames ∧
      (segments HdlcSpecial.flag.toU8 (encodeFrames crcKermit frames)).2 = [] := by
  induction frames with
  | nil => exact ⟨rfl, rfl⟩
  | cons frame frames ih =>
    obtain ⟨hframes, hrest⟩ := ih (fun f hf => h f (List.mem_cons_of_mem frame hf))
    have hempty : HdlcSpecial.flag.toU8 ∉ ([] : List UInt8) := List.not_mem_nil
    constructor
    · have := streamFrames_encoded crcKermit hempty (h frame (by simp))
        (encodeFrames crcKermit frames)
      rwa [hframes] at this
    · have := segments_encoded crcKermit hempty frame (encodeFrames crcKermit frames)
      rwa [hrest] at this

/-- Behind a leftover without Flag bytes, a nonempty list of encoded frames decodes to
    what the leftover gives and then exactly these frames. -/
theorem streamFrames_resync {leftover : List UInt8} (hleftover : HdlcSpecial.flag.toU8 ∉ leftover)
    {frames : List SpinelFrame} (hne : frames ≠ []) (h : ∀ f ∈ frames, Encodable f) :
    streamFrames crcKermit (leftover ++ encodeFrames crcKermit frames) =
        segmentFrames crcKermit leftover ++ frames ∧
      (segments HdlcSpecial.flag.toU8 (leftover ++ encodeFrames crcKermit frames)).2 = [] := by
  cases frames with
  | nil => exact absurd rfl hne
  | cons frame frames =>
    obtain ⟨hframes, hrest⟩ := streamFrames_encodeFrames crcKermit frames
      (fun f hf => h f (List.mem_cons_of_mem frame hf))
    constructor
    · have := streamFrames_encoded crcKermit hleftover (h frame (by simp))
        (encodeFrames crcKermit frames)
      rwa [hframes] at this
    · have := segments_encoded crcKermit hleftover frame (encodeFrames crcKermit frames)
      rwa [hrest] at this

theorem length_segmentFrames_le (segment : List UInt8) :
    (segmentFrames crcKermit segment).length ≤ 1 := by
  unfold segmentFrames
  split
  · cases parseSegment crcKermit segment <;> simp
  · simp

theorem encodeFrames_ne_nil {frames : List SpinelFrame} (h : frames ≠ []) :
    encodeFrames crcKermit frames ≠ [] := by
  cases frames with
  | nil => exact absurd rfl h
  | cons frame frames => simp [encodeFrames, HdlcLiteFrame.toBytesWithFlags]

/-- From every reachable state, however the stream of a nonempty list of frames is cut,
    the frames parsed are this list behind at most one frame, which the leftover in the
    buffer alone determines; the buffer ends empty. -/
theorem encodeFrames_resynchronised {s : SpinelProtocol} (hs : Reachable crcKermit s)
    {frames : List SpinelFrame} (hne : frames ≠ []) (h : ∀ f ∈ frames, Encodable f)
    {chunks : List (List UInt8)} (hchunks : chunks.flatten = encodeFrames crcKermit frames) :
    ∃ s', parseChunksInto crcKermit s chunks [] =
        (s', segmentFrames crcKermit s.buffer ++ frames,
          (segmentFrames crcKermit s.buffer ++ frames).length) ∧
      s'.buffer = [] ∧ (segmentFrames crcKermit s.buffer).length ≤ 1 := by
  obtain ⟨hframes, hrest⟩ := streamFrames_resync crcKermit (hs.flag_notMem crcKermit) hne h
  cases chunks with
  | nil => exact absurd hchunks.symm (encodeFrames_ne_nil crcKermit hne)
  | cons chunk chunks =>
    rw [parseChunksInto_flatten, hchunks, parseFramesFromBytesInto_eq, hframes, hrest]
    exact ⟨_, rfl, rfl, length_segmentFrames_le crcKermit _⟩

/-- The request of the property with id 2, as the first request carries it. -/
def getRequest : SpinelFrame :=
  { header := { flag := 0b10, networkLinkId := 0, transactionId := 1 }, commandId := 2, payload := [2] }

/-- A `PropValueGet` request behind noise without a Flag byte, cut inside the frame. -/
theorem encodeFrames_resynchronised_noise :
    ∃ s', parseChunksInto (fun _ => 0x7FA1)
        (new.apply (fun _ => 0x7FA1) (.parseFramesFromBytesInto [0x00, 0x13] []))
        [[0x7E, 0x81], [0x02, 0x02, 0x5E, 0x80, 0x7E]] [] =
        (s', segmentFrames (fun _ => 0x7FA1) [0x00, 0x13] ++ [getRequest],
          (segmentFrames (fun _ => 0x7FA1) [0x00, 0x13] ++ [getRequest]).length) ∧
      s'.buffer = [] ∧ (segmentFrames (fun _ => 0x7FA1) [0x00, 0x13]).length ≤ 1 := by
  have hs : Reachable (fun _ => 0x7FA1)
      (new.apply (fun _ => 0x7FA1) (.parseFramesFromBytesInto [0x00, 0x13] [])) :=
    ⟨[.parseFramesFromBytesInto [0x00, 0x13] []], .single rfl⟩
  have hget : ∀ f ∈ [getRequest], Encodable f := by
    simp [Encodable, SpinelHeader.WellFormed, getRequest]
  have hbuffer : (new.apply (fun _ => 0x7FA1)
      (.parseFramesFromBytesInto [0x00, 0x13] [])).buffer = [0x00, 0x13] := by decide
  have h := encodeFrames_resynchronised (fun _ => 0x7FA1) hs (by decide) hget
    (show [[0x7E, 0x81], [0x02, 0x02, 0x5E, 0x80, 0x7E]].flatten = _ by decide)
  rwa [hbuffer] at h

end ZigpySpinel.Spinel.SpinelProtocol
