import ZigpySpinel.Spinel.Proofs.Chunking

/-!
# The HDLC payloads of a stream

The parsing loop passes on the Spinel frames only. `tracedPass` is the same loop with the
payload of every HDLC-Lite frame that it decodes on the way, whether or not the payload is a
Spinel frame. Like the frames, the payloads are those of the complete segments of the stream.
-/

namespace ZigpySpinel.Spinel.SpinelProtocol
open Lib

variable (crcKermit : List UInt8 → UInt16)

/-- The payload of a segment, if it decodes as an HDLC-Lite frame. -/
def segmentPayload (segment : List UInt8) : Option (List UInt8) :=
  match HdlcLiteFrame.fromBytes crcKermit segment with
  | .ok frame => some frame.data
  | .err _ => none
  | .panic _ => none

/-- The payloads of a stream: those of its complete segments. -/
def streamPayloads (stream : List UInt8) : List (List UInt8) :=
  decoded (segmentPayload crcKermit) HdlcSpecial.flag.toU8 stream

/-- The HDLC-Lite frame that one pass of the parsing loop decodes (`spinel.rs:533-535`). -/
def passPayload (st : ParseState) : Option (List UInt8) :=
  match st.buffer.findIdx? (· == HdlcSpecial.flag.toU8) with
  | none => none
  | some index =>
    if st.ignoring then none
    else if index > 0 then segmentPayload crcKermit (st.buffer.take index)
    else none

/-- A pass of the parsing loop, with the payloads so far. -/
def tracedPass (st : ParseState × List (List UInt8)) : Option (ParseState × List (List UInt8)) :=
  (parsePass crcKermit st.1).map (fun st' => (st', st.2 ++ (passPayload crcKermit st.1).toList))

/-- The payloads that a call of `parse_frames_from_bytes_into` decodes. -/
def decodedPayloads (s : SpinelProtocol) (bytes : List UInt8) : List (List UInt8) :=
  (Loop.exec (tracedPass crcKermit) (fun st => st.1.measure) (parseStart s bytes [], [])).2

/-- The payloads that successive calls decode. -/
def decodedPayloadsOfChunks (s : SpinelProtocol) : List (List UInt8) → List (List UInt8)
  | [] => []
  | chunk :: chunks =>
    decodedPayloads crcKermit s chunk ++
      decodedPayloadsOfChunks (s.parseFramesFromBytes crcKermit chunk).1 chunks

/-! ## The loop with its trace -/

/-- A traced pass is a pass. -/
theorem tracedPass_eq_some {st st' : ParseState × List (List UInt8)}
    (h : tracedPass crcKermit st = some st') :
    parsePass crcKermit st.1 = some st'.1 ∧ st'.2 = st.2 ++ (passPayload crcKermit st.1).toList := by
  obtain ⟨next, hpass, rfl⟩ := Option.map_eq_some_iff.mp h
  exact ⟨hpass, rfl⟩

theorem tracedPass_decreasing :
    Loop.Decreasing (tracedPass crcKermit) (fun st => st.1.measure) := by
  intro st st' h
  exact parsePass_decreasing crcKermit _ _ (tracedPass_eq_some crcKermit h).1

/-- The trace does not change what the loop does. -/
theorem tracedPass_runs {k : Nat} {st last : ParseState × List (List UInt8)}
    (h : Loop.Runs (tracedPass crcKermit) k st last) :
    Loop.Runs (parsePass crcKermit) k st.1 last.1 := by
  induction h with
  | stop hbreak => exact .stop (Option.map_eq_none_iff.mp hbreak)
  | pass hpass _ ih => exact .pass (tracedPass_eq_some crcKermit hpass).1 ih

/-- A pass takes the payload it decodes from the front of the stream. -/
theorem passPayload_parsePass {st st' : ParseState} (h : parsePass crcKermit st = some st') :
    (passPayload crcKermit st).toList ++ streamPayloads crcKermit st'.buffer =
      streamPayloads crcKermit st.buffer := by
  rcases parsePass_cases crcKermit h with ⟨hflag, hi, rfl⟩ | ⟨head, tail, hbuffer, hhead, hi, rfl⟩
  · obtain ⟨head, tail, hbuffer, hhead⟩ := List.eq_append_cons_of_mem hflag
    have hnone : passPayload crcKermit st = none := by
      simp only [passPayload, hbuffer, findIdx?_delimiter hhead, hi, if_true]
    rw [hnone]
    rfl
  · have hpayload : passPayload crcKermit st = segmentPayload crcKermit head := by
      simp only [passPayload, hbuffer, findIdx?_delimiter hhead, hi, take_delimiter]
      cases head with
      | nil => rfl
      | cons byte head => rfl
    rw [hpayload, hbuffer, streamPayloads, streamPayloads, decoded_cut _ hhead]

/-- The traced loop ends where the loop of the call does. -/
theorem exec_tracedPass (s : SpinelProtocol) (bytes : List UInt8) :
    (Loop.exec (tracedPass crcKermit) (fun st => st.1.measure) (parseStart s bytes [], [])).1 =
      Loop.exec (parsePass crcKermit) ParseState.measure (parseStart s bytes []) := by
  obtain ⟨_, _, hrun⟩ := Loop.exec_runs (tracedPass_decreasing crcKermit) (parseStart s bytes [], [])
  obtain ⟨_, _, hparse⟩ := Loop.exec_runs (parsePass_decreasing crcKermit) (parseStart s bytes [])
  exact (tracedPass_runs crcKermit hrun).det hparse

/-- A call decodes the payloads of the buffered stream. -/
theorem decodedPayloads_eq (s : SpinelProtocol) (bytes : List UInt8) :
    decodedPayloads crcKermit s bytes = streamPayloads crcKermit (s.buffer ++ bytes) := by
  obtain ⟨_, _, hrun⟩ := Loop.exec_runs (tracedPass_decreasing crcKermit) (parseStart s bytes [], [])
  obtain ⟨hpayloads, -⟩ := hrun.inv
    (fun st => st.2 ++ streamPayloads crcKermit st.1.buffer =
      streamPayloads crcKermit (s.buffer ++ bytes))
    (fun st st' hinv hpass => by
      obtain ⟨hpass, hpayloads⟩ := tracedPass_eq_some crcKermit hpass
      rw [hpayloads, List.append_assoc, passPayload_parsePass crcKermit hpass, hinv])
    rfl
  have hrest : HdlcSpecial.flag.toU8 ∉ (parseFinal crcKermit (parseStart s bytes [])).buffer :=
    notMem_segments_snd _
  rw [exec_tracedPass, exec_parsePass, streamPayloads, decoded_of_notMem _ hrest,
    List.append_nil] at hpayloads
  exact hpayloads

/-! ## The frames of the payloads -/

/-- The Spinel frame of a payload, if it is one. -/
def payloadFrame (payload : List UInt8) : Option SpinelFrame :=
  match SpinelFrame.fromBytes payload with
  | .ok frame => some frame
  | .err _ => none
  | .panic _ => none

theorem segmentFrames_eq_payload (segment : List UInt8) :
    segmentFrames crcKermit segment =
      ((segmentPayload crcKermit segment).bind payloadFrame).toList := by
  cases segment with
  | nil => rfl
  | cons byte segment =>
    rw [segmentFrames, if_pos (by simp), parseSegment, segmentPayload]
    cases HdlcLiteFrame.fromBytes crcKermit (byte :: segment) with
    | err e => rfl
    | panic m => rfl
    | ok hdlcFrame =>
      dsimp only [Option.bind_some]
      cases hframe : SpinelFrame.fromBytes hdlcFrame.data <;> simp [payloadFrame, hframe]

/-- A stream is decoded payload by payload. -/
theorem streamFrames_eq_payloads (stream : List UInt8) :
    streamFrames crcKermit stream = (streamPayloads crcKermit stream).filterMap payloadFrame := by
  rw [streamFrames, streamPayloads, decoded, List.filterMap_filterMap,
    funext (segmentFrames_eq_payload crcKermit)]
  exact (List.filterMap_eq_flatMap_toList _ _).symm

/-- The frames of a call are those of the payloads that it decodes. -/
theorem parseFramesFromBytes_payloads (s : SpinelProtocol) (bytes : List UInt8) :
    (s.parseFramesFromBytes crcKermit bytes).2 =
      (decodedPayloads crcKermit s bytes).filterMap payloadFrame := by
  rw [decodedPayloads_eq, ← streamFrames_eq_payloads]
  simp only [parseFramesFromBytes, parseFramesFromBytesInto_eq, List.nil_append]

/-! ## Chunks -/

/-- However the stream is cut, the payloads are those of its complete segments. -/
theorem decodedPayloadsOfChunks_eq (s : SpinelProtocol) (chunks : List (List UInt8))
    (hbuffer : HdlcSpecial.flag.toU8 ∉ s.buffer) :
    decodedPayloadsOfChunks crcKermit s chunks =
      streamPayloads crcKermit (s.buffer ++ chunks.flatten) := by
  induction chunks generalizing s with
  | nil =>
    rw [List.flatten_nil, List.append_nil, streamPayloads, decoded_of_notMem _ hbuffer]
    rfl
  | cons chunk chunks ih =>
    have hrest : (s.parseFramesFromBytes crcKermit chunk).1.buffer =
        (segments HdlcSpecial.flag.toU8 (s.buffer ++ chunk)).2 := by
      simp only [parseFramesFromBytes, parseFramesFromBytesInto_eq]
    have hnext : HdlcSpecial.flag.toU8 ∉ (s.parseFramesFromBytes crcKermit chunk).1.buffer := by
      rw [hrest]
      exact notMem_segments_snd _
    rw [decodedPayloadsOfChunks, ih _ hnext, decodedPayloads_eq, hrest, List.flatten_cons,
      ← List.append_assoc]
    exact (decoded_append _ (s.buffer ++ chunk) chunks.flatten).symm

end ZigpySpinel.Spinel.SpinelProtocol
