import ZigpySpinel.Lib.Delimited
import ZigpySpinel.Python.Spinel

/-!
# What the receive loop does

The loop of `data_received` cuts its buffer at the Flag bytes. A pass takes out the first
segment, and hands its frame to `frame_received` if there is one. So the payloads and the
frames of the loop are those of the complete segments of its buffer, as long as nothing is
raised, and something is raised exactly if one of the frames is harmful: `Harmless` says of
all frames of a call at once, and of the state before it, that none of them is.
-/

namespace ZigpySpinel.Python
open Lib

/-- The payload that `data_received` obtained from `HDLCLiteFrame.from_bytes`. -/
def Effect.payload : Effect → Option (List UInt8)
  | .decodedHdlcFrame frame => some frame.data
  | _ => none

/-- The frame that was passed to `frame_received`. -/
def Effect.passedFrame : Effect → Option SpinelFrame
  | .frameReceived frame => some frame
  | _ => none

section Stream

variable (crc16Kermit : List UInt8 → UInt16)

/-- The payload of a segment, if it decodes as an HDLC-Lite frame. -/
def segmentPayload (segment : List UInt8) : Option (List UInt8) :=
  (HDLCLiteFrame.fromBytes crc16Kermit segment).toOption.map HDLCLiteFrame.data

/-- The payloads of a stream: those of its complete segments. -/
def streamPayloads (stream : List UInt8) : List (List UInt8) :=
  decoded (segmentPayload crc16Kermit) HDLCSpecial.flag.value stream

/-- The frame of a payload, if it decodes as a Spinel frame. -/
def payloadFrame (payload : List UInt8) : Option SpinelFrame :=
  (SpinelFrame.fromBytes payload).toOption

/-- The Spinel frames of a stream: those of its payloads. -/
def streamFrames (stream : List UInt8) : List SpinelFrame :=
  (streamPayloads crc16Kermit stream).filterMap payloadFrame

theorem streamFrames_cut {head : List UInt8} (hhead : HDLCSpecial.flag.value ∉ head)
    (tail : List UInt8) :
    streamFrames crc16Kermit (head ++ HDLCSpecial.flag.value :: tail) =
      ((segmentPayload crc16Kermit head).bind payloadFrame).toList ++
        streamFrames crc16Kermit tail := by
  rw [streamFrames, streamPayloads, decoded_cut _ hhead, List.filterMap_append, ← streamPayloads,
    ← streamFrames]
  cases segmentPayload crc16Kermit head with
  | none => rfl
  | some payload =>
    cases hframe : payloadFrame payload with
    | none => simp [hframe]
    | some frame => simp [hframe]

theorem streamFrames_of_notMem {stream : List UInt8} (h : HDLCSpecial.flag.value ∉ stream) :
    streamFrames crc16Kermit stream = [] := by
  rw [streamFrames, streamPayloads, decoded_of_notMem _ h, List.filterMap_nil]

end Stream

namespace SpinelProtocol

/-! ## One frame -/

/-- `frame_received` raises nothing: the request that the frame answers has no answer yet,
    and a property whose value it carries is known. -/
structure Accepts (s : SpinelProtocol) (frame : SpinelFrame) : Prop where
  unanswered : ∀ future, s.pendingFuture frame = some future → s.futures future = .pending
  known : frame.commandId = .propValueIs → ∃ change, changedProperty frame = .ok change

/-- The protocol object behind a frame that is accepted. -/
def answered (s : SpinelProtocol) (frame : SpinelFrame) : SpinelProtocol :=
  match s.pendingFuture frame with
  | some future => { s with futures := Function.update s.futures future (.done frame) }
  | none => s

theorem completeRequest_of_unanswered {s : SpinelProtocol} {frame : SpinelFrame}
    (h : ∀ future, s.pendingFuture frame = some future → s.futures future = .pending) :
    s.completeRequest frame = .ok (s.answered frame) := by
  unfold completeRequest answered
  cases hpending : s.pendingFuture frame with
  | none => rfl
  | some future => simp only [setResult, h future hpending]

/-- A second response raises. -/
theorem completeRequest_of_done {s : SpinelProtocol} {frame response : SpinelFrame}
    {future : FutureId} (hpending : s.pendingFuture frame = some future)
    (hdone : s.futures future = .done response) :
    s.completeRequest frame = .error .invalidStateError := by
  simp only [completeRequest, hpending, setResult, hdone]

/-- All that `frame_received` can change is the state of a future. -/
theorem frameReceived_protocol (s : SpinelProtocol) (frame : SpinelFrame) :
    ∃ futures, (s.frameReceived frame).protocol = { s with futures := futures } := by
  have hcomplete : ∀ s', s.completeRequest frame = .ok s' →
      ∃ futures, s' = { s with futures := futures } := by
    intro s' h
    unfold completeRequest at h
    cases hpending : s.pendingFuture frame with
    | none =>
      rw [hpending] at h
      cases h
      exact ⟨s.futures, rfl⟩
    | some future =>
      simp only [hpending, setResult] at h
      cases hfuture : s.futures future with
      | pending =>
        rw [hfuture] at h
        cases h
        exact ⟨_, rfl⟩
      | done response =>
        rw [hfuture] at h
        cases h
  unfold frameReceived
  cases h : s.completeRequest frame with
  | error e => exact ⟨s.futures, rfl⟩
  | ok s' =>
    obtain ⟨futures, rfl⟩ := hcomplete s' h
    dsimp only
    split
    · exact ⟨futures, rfl⟩
    · exact ⟨futures, rfl⟩

theorem callListeners_cases (s : SpinelProtocol) (frame : SpinelFrame) :
    (∃ calls : List (ListenerId × List UInt8),
      s.callListeners frame = .ok (calls.map (fun call => .callListener call.1 call.2)) ∧
      (frame.commandId = .propValueIs → ∃ change, changedProperty frame = .ok change)) ∨
    ∃ e, s.callListeners frame = .error e ∧ frame.commandId = .propValueIs ∧
      changedProperty frame = .error e := by
  unfold callListeners
  by_cases hcommand : frame.commandId = .propValueIs
  · rw [if_pos hcommand]
    cases hchange : changedProperty frame with
    | error e => exact Or.inr ⟨e, rfl, hcommand, rfl⟩
    | ok change =>
      refine Or.inl ⟨(s.propertyListeners change.1).map (fun listener => (listener, change.2)), ?_,
        fun _ => ⟨change, rfl⟩⟩
      rw [List.map_map]
      rfl
  · rw [if_neg hcommand]
    exact Or.inl ⟨[], rfl, fun h => absurd h hcommand⟩

/-- What `frame_received` does to the outside is to call listeners. -/
theorem frameReceived_effects (s : SpinelProtocol) (frame : SpinelFrame) :
    ∃ calls : List (ListenerId × List UInt8),
      (s.frameReceived frame).effects = calls.map (fun call => .callListener call.1 call.2) := by
  unfold frameReceived
  cases s.completeRequest frame with
  | error e => exact ⟨[], rfl⟩
  | ok s' =>
    rcases s'.callListeners_cases frame with ⟨calls, hcalls, -⟩ | ⟨e, herror, -⟩
    · exact ⟨calls, by simp only [hcalls]⟩
    · exact ⟨[], by simp only [herror, List.map_nil]⟩

theorem filterMap_passedFrame_calls (calls : List (ListenerId × List UInt8)) :
    (calls.map (fun call => Effect.callListener call.1 call.2)).filterMap Effect.passedFrame = [] := by
  rw [List.filterMap_map]
  exact List.filterMap_eq_nil_iff.mpr (fun _ _ => rfl)

theorem filterMap_payload_calls (calls : List (ListenerId × List UInt8)) :
    (calls.map (fun call => Effect.callListener call.1 call.2)).filterMap Effect.payload = [] := by
  rw [List.filterMap_map]
  exact List.filterMap_eq_nil_iff.mpr (fun _ _ => rfl)

theorem frameReceived_of_accepts {s : SpinelProtocol} {frame : SpinelFrame}
    (h : s.Accepts frame) :
    (s.frameReceived frame).raised = none ∧
      (s.frameReceived frame).protocol = s.answered frame := by
  rw [frameReceived, completeRequest_of_unanswered h.unanswered]
  rcases (s.answered frame).callListeners_cases frame with ⟨calls, hcalls, -⟩ | ⟨e, -, hcommand, herror⟩
  · simp only [hcalls, and_self]
  · obtain ⟨change, hchange⟩ := h.known hcommand
    rw [herror] at hchange
    cases hchange

/-- `frame_received` raises exactly for the frames that are not accepted. -/
theorem frameReceived_raised_iff (s : SpinelProtocol) (frame : SpinelFrame) :
    (s.frameReceived frame).raised = none ↔ s.Accepts frame := by
  constructor
  · intro h
    have hunanswered : ∀ future, s.pendingFuture frame = some future → s.futures future = .pending := by
      intro future hpending
      cases hfuture : s.futures future with
      | pending => rfl
      | done response =>
        rw [frameReceived, completeRequest_of_done hpending hfuture] at h
        cases h
    refine ⟨hunanswered, ?_⟩
    rw [frameReceived, completeRequest_of_unanswered hunanswered] at h
    rcases (s.answered frame).callListeners_cases frame with ⟨_, -, hknown⟩ | ⟨e, herror, -⟩
    · exact hknown
    · simp only [herror] at h
      cases h
  · intro h
    exact (frameReceived_of_accepts h).1

/-! ## All frames of a call -/

/-- Requests that wait under different ids have different futures. -/
def DistinctFutures (s : SpinelProtocol) : Prop :=
  ∀ tid tid' future, s.pendingFrames tid = some future → s.pendingFrames tid' = some future →
    tid = tid'

/-- The transaction id of a frame, if a request waits under it. -/
def pendingTid (s : SpinelProtocol) (frame : SpinelFrame) : Option (BitVec 4) :=
  frame.header.transactionId.filter (fun tid => (s.pendingFrames tid.toNat).isSome)

/-- None of the frames, received one after the other, makes `frame_received` raise: those that
    answer a request answer different ones that have no answer yet, and a property whose value
    is carried is known. -/
structure Harmless (s : SpinelProtocol) (frames : List SpinelFrame) : Prop where
  unanswered : ∀ frame ∈ frames, ∀ future, s.pendingFuture frame = some future →
    s.futures future = .pending
  distinct : (frames.filterMap s.pendingTid).Nodup
  known : ∀ frame ∈ frames, frame.commandId = .propValueIs →
    ∃ change, changedProperty frame = .ok change

theorem Harmless.nil (s : SpinelProtocol) : s.Harmless [] :=
  ⟨by simp, by simp, by simp⟩

theorem Harmless.congr {s s' : SpinelProtocol} {frames : List SpinelFrame} (h : s.Harmless frames)
    (hpending : s'.pendingFrames = s.pendingFrames) (hfutures : s'.futures = s.futures) :
    s'.Harmless frames := by
  have hfuture : s'.pendingFuture = s.pendingFuture := by
    funext frame
    rw [pendingFuture, hpending, pendingFuture]
  have htid : s'.pendingTid = s.pendingTid := by
    funext frame
    rw [pendingTid, hpending, pendingTid]
  exact ⟨by simpa only [hfuture, hfutures] using h.unanswered, htid ▸ h.distinct, h.known⟩

/-- Only the table and the futures matter. -/
theorem harmless_congr {s s' : SpinelProtocol} {frames : List SpinelFrame}
    (hpending : s'.pendingFrames = s.pendingFrames) (hfutures : s'.futures = s.futures) :
    s'.Harmless frames ↔ s.Harmless frames := by
  constructor
  · intro h
    exact h.congr hpending.symm hfutures.symm
  · intro h
    exact h.congr hpending hfutures

theorem pendingFuture_eq_some {s : SpinelProtocol} {frame : SpinelFrame} {future : FutureId} :
    s.pendingFuture frame = some future ↔
      ∃ tid, s.pendingTid frame = some tid ∧ s.pendingFrames tid.toNat = some future := by
  simp only [pendingFuture, pendingTid, Option.bind_eq_some_iff, Option.filter_eq_some_iff]
  constructor
  · rintro ⟨tid, htid, hentry⟩
    exact ⟨tid, ⟨htid, by simp [hentry]⟩, hentry⟩
  · rintro ⟨tid, ⟨htid, -⟩, hentry⟩
    exact ⟨tid, htid, hentry⟩

@[simp] theorem answered_pendingFrames (s : SpinelProtocol) (frame : SpinelFrame) :
    (s.answered frame).pendingFrames = s.pendingFrames := by
  unfold answered
  split <;> rfl

theorem answered_pendingFuture (s : SpinelProtocol) (frame : SpinelFrame) :
    (s.answered frame).pendingFuture = s.pendingFuture := by
  funext next
  rw [pendingFuture, answered_pendingFrames, pendingFuture]

theorem answered_pendingTid (s : SpinelProtocol) (frame : SpinelFrame) :
    (s.answered frame).pendingTid = s.pendingTid := by
  funext next
  rw [pendingTid, answered_pendingFrames, pendingTid]

/-- The future of the answered request is the one that is not pending any more. -/
theorem answered_pending_iff (s : SpinelProtocol) (frame : SpinelFrame) (future : FutureId) :
    (s.answered frame).futures future = .pending ↔
      s.pendingFuture frame ≠ some future ∧ s.futures future = .pending := by
  unfold answered
  cases hpending : s.pendingFuture frame with
  | none => simp
  | some answered =>
    by_cases hsame : future = answered
    · subst hsame
      simp
    · simp [Function.update_of_ne hsame, Ne.symm hsame]

/-- The first frame is accepted, and those behind it are harmless for what it leaves. -/
theorem harmless_cons {s : SpinelProtocol} (hs : s.DistinctFutures) (frame : SpinelFrame)
    (frames : List SpinelFrame) :
    s.Harmless (frame :: frames) ↔ s.Accepts frame ∧ (s.answered frame).Harmless frames := by
  constructor
  · intro h
    refine ⟨⟨h.unanswered frame List.mem_cons_self, h.known frame List.mem_cons_self⟩, ?_, ?_, ?_⟩
    · intro next hnext future hpending
      rw [answered_pendingFuture] at hpending
      refine (answered_pending_iff s frame future).mpr
        ⟨?_, h.unanswered next (List.mem_cons_of_mem frame hnext) future hpending⟩
      intro hsame
      obtain ⟨tid, htid, hentry⟩ := pendingFuture_eq_some.mp hsame
      obtain ⟨tid', htid', hentry'⟩ := pendingFuture_eq_some.mp hpending
      obtain rfl : tid = tid' := BitVec.eq_of_toNat_eq (hs _ _ future hentry hentry')
      have hdistinct := h.distinct
      rw [List.filterMap_cons_some htid, List.nodup_cons] at hdistinct
      exact hdistinct.1 (List.mem_filterMap.mpr ⟨next, hnext, htid'⟩)
    · rw [answered_pendingTid]
      have hsub : frames.Sublist (frame :: frames) := List.sublist_cons_self frame frames
      exact h.distinct.sublist (hsub.filterMap s.pendingTid)
    · intro next hnext
      exact h.known next (List.mem_cons_of_mem frame hnext)
  · rintro ⟨haccepts, h⟩
    have hlater : ∀ next ∈ frames, ∀ future, s.pendingFuture next = some future →
        s.pendingFuture frame ≠ some future ∧ s.futures future = .pending := by
      intro next hnext future hpending
      rw [← answered_pending_iff]
      exact h.unanswered next hnext future (by rw [answered_pendingFuture, hpending])
    refine ⟨?_, ?_, ?_⟩
    · intro next hnext future hpending
      rcases List.mem_cons.mp hnext with rfl | hnext
      · exact haccepts.unanswered future hpending
      · exact (hlater next hnext future hpending).2
    · have hdistinct := h.distinct
      rw [answered_pendingTid] at hdistinct
      cases htid : s.pendingTid frame with
      | none => rwa [List.filterMap_cons_none htid]
      | some tid =>
        rw [List.filterMap_cons_some htid, List.nodup_cons]
        refine ⟨?_, hdistinct⟩
        intro hmem
        obtain ⟨next, hnext, htid'⟩ := List.mem_filterMap.mp hmem
        obtain ⟨future, hentry⟩ : ∃ future, s.pendingFrames tid.toNat = some future :=
          Option.isSome_iff_exists.mp (Option.filter_eq_some_iff.mp htid).2
        exact (hlater next hnext future (pendingFuture_eq_some.mpr ⟨tid, htid', hentry⟩)).1
          (pendingFuture_eq_some.mpr ⟨tid, htid, hentry⟩)
    · intro next hnext
      rcases List.mem_cons.mp hnext with rfl | hnext
      · exact haccepts.known
      · exact h.known next hnext

/-- A frame in front: `frame_received` raises nothing for it and leaves a state for which the
    others are harmless. -/
theorem frameReceived_harmless_iff {s : SpinelProtocol} (hs : s.DistinctFutures)
    (frame : SpinelFrame) (frames : List SpinelFrame) :
    ((s.frameReceived frame).raised = none ∧ (s.frameReceived frame).protocol.Harmless frames) ↔
      s.Harmless (frame :: frames) := by
  rw [harmless_cons hs, frameReceived_raised_iff]
  constructor
  · rintro ⟨haccepts, h⟩
    rw [(frameReceived_of_accepts haccepts).2] at h
    exact ⟨haccepts, h⟩
  · rintro ⟨haccepts, h⟩
    rw [(frameReceived_of_accepts haccepts).2]
    exact ⟨haccepts, h⟩

/-! ## One chunk -/

section Receive

variable (crc16Kermit : List UInt8 → UInt16)

/-- A chunk decodes to nothing, to a payload that is no Spinel frame, or to a frame. -/
theorem chunkReceived_cases (s : SpinelProtocol) (chunk : List UInt8) :
    (segmentPayload crc16Kermit chunk = none ∧ s.chunkReceived crc16Kermit chunk = { protocol := s }) ∨
    (∃ hdlcFrame, segmentPayload crc16Kermit chunk = some hdlcFrame.data ∧
      payloadFrame hdlcFrame.data = none ∧
      s.chunkReceived crc16Kermit chunk =
        { protocol := s, effects := [.decodedHdlcFrame hdlcFrame] }) ∨
    ∃ hdlcFrame frame, segmentPayload crc16Kermit chunk = some hdlcFrame.data ∧
      payloadFrame hdlcFrame.data = some frame ∧
      s.chunkReceived crc16Kermit chunk =
        { s.frameReceived frame with
          effects := .decodedHdlcFrame hdlcFrame :: .frameReceived frame ::
            (s.frameReceived frame).effects } := by
  unfold segmentPayload payloadFrame chunkReceived
  cases hhdlc : HDLCLiteFrame.fromBytes crc16Kermit chunk with
  | error e =>
    obtain ⟨message, rfl⟩ := HDLCLiteFrame.onlyValueError_fromBytes crc16Kermit chunk e hhdlc
    exact Or.inl ⟨rfl, rfl⟩
  | ok hdlcFrame =>
    cases hframe : SpinelFrame.fromBytes hdlcFrame.data with
    | error e =>
      obtain ⟨message, rfl⟩ := SpinelFrame.onlyValueError_fromBytes hdlcFrame.data e hframe
      exact Or.inr (Or.inl ⟨hdlcFrame, rfl, by rw [hframe]; rfl, by simp only [hframe]⟩)
    | ok frame =>
      exact Or.inr (Or.inr ⟨hdlcFrame, frame, rfl, by rw [hframe]; rfl, by simp only [hframe]⟩)

theorem chunkReceived_protocol (s : SpinelProtocol) (chunk : List UInt8) :
    ∃ futures, (s.chunkReceived crc16Kermit chunk).protocol = { s with futures := futures } := by
  rcases s.chunkReceived_cases crc16Kermit chunk with
    ⟨-, heq⟩ | ⟨hdlcFrame, -, -, heq⟩ | ⟨hdlcFrame, frame, -, -, heq⟩
  · exact ⟨s.futures, by rw [heq]⟩
  · exact ⟨s.futures, by rw [heq]⟩
  · rw [heq]
    exact s.frameReceived_protocol frame

theorem chunkReceived_payloads (s : SpinelProtocol) (chunk : List UInt8) :
    (s.chunkReceived crc16Kermit chunk).effects.filterMap Effect.payload =
      (segmentPayload crc16Kermit chunk).toList := by
  rcases s.chunkReceived_cases crc16Kermit chunk with
    ⟨hpayload, heq⟩ | ⟨hdlcFrame, hpayload, -, heq⟩ | ⟨hdlcFrame, frame, hpayload, -, heq⟩
  · rw [heq, hpayload]
    rfl
  · rw [heq, hpayload]
    rfl
  · obtain ⟨calls, hcalls⟩ := s.frameReceived_effects frame
    rw [heq, hpayload]
    simp only [hcalls, List.filterMap_cons, Effect.payload, filterMap_payload_calls,
      Option.toList_some]

theorem chunkReceived_passed (s : SpinelProtocol) (chunk : List UInt8) :
    (s.chunkReceived crc16Kermit chunk).effects.filterMap Effect.passedFrame =
      ((segmentPayload crc16Kermit chunk).bind payloadFrame).toList := by
  rcases s.chunkReceived_cases crc16Kermit chunk with
    ⟨hpayload, heq⟩ | ⟨hdlcFrame, hpayload, hframe, heq⟩ | ⟨hdlcFrame, frame, hpayload, hframe, heq⟩
  · rw [heq, hpayload]
    rfl
  · rw [heq, hpayload, Option.bind_some, hframe]
    rfl
  · obtain ⟨calls, hcalls⟩ := s.frameReceived_effects frame
    rw [heq, hpayload, Option.bind_some, hframe]
    simp only [hcalls, List.filterMap_cons, Effect.passedFrame, filterMap_passedFrame_calls,
      Option.toList_some]

theorem chunkReceived_harmless_iff {s : SpinelProtocol} (hs : s.DistinctFutures)
    (chunk : List UInt8) (frames : List SpinelFrame) :
    ((s.chunkReceived crc16Kermit chunk).raised = none ∧
        (s.chunkReceived crc16Kermit chunk).protocol.Harmless frames) ↔
      s.Harmless (((segmentPayload crc16Kermit chunk).bind payloadFrame).toList ++ frames) := by
  rcases s.chunkReceived_cases crc16Kermit chunk with
    ⟨hpayload, heq⟩ | ⟨hdlcFrame, hpayload, hframe, heq⟩ | ⟨hdlcFrame, frame, hpayload, hframe, heq⟩
  · rw [heq, hpayload]
    simp
  · rw [heq, hpayload, Option.bind_some, hframe]
    simp
  · rw [heq, hpayload, Option.bind_some, hframe]
    exact frameReceived_harmless_iff hs frame frames

/-- An empty chunk does not decode. -/
theorem chunkReceived_nil (s : SpinelProtocol) :
    s.chunkReceived crc16Kermit [] = { protocol := s } := by
  have hpayload : segmentPayload crc16Kermit [] = none := by
    have hcrc : leBytes 2 (crc16Kermit []).toNat ≠ [] := by
      intro h
      have := congrArg List.length h
      rw [length_leBytes] at this
      cases this
    have hraise : HDLCLiteFrame.fromBytes crc16Kermit [] =
        .error (.valueError "Invalid CRC-16") := if_pos (e := .ok { data := [] }) hcrc
    rw [segmentPayload, hraise]
    rfl
  rcases s.chunkReceived_cases crc16Kermit [] with
    ⟨-, heq⟩ | ⟨hdlcFrame, hsome, -⟩ | ⟨hdlcFrame, frame, hsome, -⟩
  · exact heq
  · rw [hpayload] at hsome
    cases hsome
  · rw [hpayload] at hsome
    cases hsome

/-! ## The loop -/

theorem receivePass_of_notMem {st : Called} (h : HDLCSpecial.flag.value ∉ st.protocol.buffer) :
    receivePass crc16Kermit st = none := by
  simp [receivePass, partition, findIdx?_of_notMem h]

/-- A pass takes the first segment out of the buffer. -/
theorem receivePass_segment {st : Called} {head tail : List UInt8} (hraised : st.raised = none)
    (hbuffer : st.protocol.buffer = head ++ HDLCSpecial.flag.value :: tail)
    (hhead : HDLCSpecial.flag.value ∉ head) :
    receivePass crc16Kermit st =
      some {
        ({ st.protocol with buffer := tail } : SpinelProtocol).chunkReceived crc16Kermit head with
        effects := st.effects ++
          (({ st.protocol with buffer := tail } : SpinelProtocol).chunkReceived crc16Kermit
            head).effects } := by
  have hpartition : partition HDLCSpecial.flag.value (head ++ HDLCSpecial.flag.value :: tail) =
      (head, [HDLCSpecial.flag.value], tail) := by
    simp only [partition, findIdx?_delimiter hhead, take_delimiter, drop_delimiter]
  have hne : head ++ HDLCSpecial.flag.value :: tail ≠ [] := by simp
  unfold receivePass
  simp only [hraised, hbuffer, hne, hpartition]
  cases head with
  | nil => simp [chunkReceived_nil]
  | cons byte head => simp

/-- What a pass does. -/
theorem receivePass_cases {st st' : Called} (h : receivePass crc16Kermit st = some st') :
    ∃ head tail, st.raised = none ∧ st.protocol.buffer = head ++ HDLCSpecial.flag.value :: tail ∧
      HDLCSpecial.flag.value ∉ head ∧
      st' = {
        ({ st.protocol with buffer := tail } : SpinelProtocol).chunkReceived crc16Kermit head with
        effects := st.effects ++
          (({ st.protocol with buffer := tail } : SpinelProtocol).chunkReceived crc16Kermit
            head).effects } := by
  have hraised : st.raised = none := by
    by_contra hsome
    rw [receivePass, if_pos (Option.isSome_iff_ne_none.mpr hsome)] at h
    cases h
  by_cases hflag : HDLCSpecial.flag.value ∈ st.protocol.buffer
  · obtain ⟨head, tail, hbuffer, hhead⟩ := List.eq_append_cons_of_mem hflag
    rw [receivePass_segment crc16Kermit hraised hbuffer hhead, Option.some.injEq] at h
    exact ⟨head, tail, hraised, hbuffer, hhead, h.symm⟩
  · rw [receivePass_of_notMem crc16Kermit hflag] at h
    cases h

/-- Where the loop ends without an exception there is no Flag byte. -/
theorem notMem_of_receivePass {st : Called} (h : receivePass crc16Kermit st = none)
    (hraised : st.raised = none) : HDLCSpecial.flag.value ∉ st.protocol.buffer := by
  intro hflag
  obtain ⟨head, tail, hbuffer, hhead⟩ := List.eq_append_cons_of_mem hflag
  rw [receivePass_segment crc16Kermit hraised hbuffer hhead] at h
  cases h

theorem receivePass_decreasing :
    Loop.Decreasing (receivePass crc16Kermit) (fun st => st.protocol.buffer.length) := by
  intro st st' h
  obtain ⟨head, tail, -, hbuffer, -, rfl⟩ := receivePass_cases crc16Kermit h
  obtain ⟨futures, hprotocol⟩ :=
    ({ st.protocol with buffer := tail } : SpinelProtocol).chunkReceived_protocol crc16Kermit head
  simp only [hprotocol, hbuffer, List.length_append, List.length_cons]
  omega

/-- What a part of the loop keeps: the table, and what all in all is decoded and passed on. -/
structure Kept (st st' : Called) : Prop where
  protocol : ∃ buffer futures,
    st'.protocol = { st.protocol with buffer := buffer, futures := futures }
  rest : (segments HDLCSpecial.flag.value st'.protocol.buffer).2 =
    (segments HDLCSpecial.flag.value st.protocol.buffer).2
  payloads : st'.effects.filterMap Effect.payload ++ streamPayloads crc16Kermit st'.protocol.buffer =
    st.effects.filterMap Effect.payload ++ streamPayloads crc16Kermit st.protocol.buffer
  passed : st'.effects.filterMap Effect.passedFrame ++ streamFrames crc16Kermit st'.protocol.buffer =
    st.effects.filterMap Effect.passedFrame ++ streamFrames crc16Kermit st.protocol.buffer
  harmless : st.protocol.DistinctFutures →
    ((st'.raised = none ∧ st'.protocol.Harmless (streamFrames crc16Kermit st'.protocol.buffer)) ↔
      (st.raised = none ∧ st.protocol.Harmless (streamFrames crc16Kermit st.protocol.buffer)))

theorem Kept.refl (st : Called) : Kept crc16Kermit st st :=
  ⟨⟨_, _, rfl⟩, rfl, rfl, rfl, fun _ => Iff.rfl⟩

variable {crc16Kermit}

theorem Kept.trans {st st' st'' : Called} (h : Kept crc16Kermit st st')
    (h' : Kept crc16Kermit st' st'') : Kept crc16Kermit st st'' := by
  obtain ⟨buffer, futures, hprotocol⟩ := h.protocol
  obtain ⟨buffer', futures', hprotocol'⟩ := h'.protocol
  refine ⟨⟨buffer', futures', by rw [hprotocol', hprotocol]⟩, h'.rest.trans h.rest,
    h'.payloads.trans h.payloads, h'.passed.trans h.passed, ?_⟩
  intro hs
  have hs' : st'.protocol.DistinctFutures := by
    rw [hprotocol]
    exact hs
  exact (h'.harmless hs').trans (h.harmless hs)

variable (crc16Kermit)

/-- A pass takes the frame it passes on from the front of the stream. -/
theorem receivePass_kept {st st' : Called} (h : receivePass crc16Kermit st = some st') :
    Kept crc16Kermit st st' := by
  obtain ⟨head, tail, hraised, hbuffer, hhead, rfl⟩ := receivePass_cases crc16Kermit h
  have hframes := streamFrames_cut crc16Kermit hhead tail
  generalize hs : ({ st.protocol with buffer := tail } : SpinelProtocol) = s
  obtain ⟨futures, hprotocol⟩ := s.chunkReceived_protocol crc16Kermit head
  have hrest : (s.chunkReceived crc16Kermit head).protocol.buffer = tail := by
    rw [hprotocol, ← hs]
  refine ⟨⟨tail, futures, by rw [hprotocol, ← hs]⟩, ?_, ?_, ?_, ?_⟩
  · dsimp only
    rw [hrest, hbuffer, segments_cut hhead]
  · dsimp only
    rw [hrest, hbuffer, List.filterMap_append, chunkReceived_payloads, List.append_assoc,
      streamPayloads, streamPayloads, decoded_cut _ hhead]
  · dsimp only
    rw [hrest, hbuffer, List.filterMap_append, chunkReceived_passed, List.append_assoc, hframes]
  · intro hdistinct
    have hsDistinct : s.DistinctFutures := by
      rw [← hs]
      exact hdistinct
    have hcongr : s.Harmless (streamFrames crc16Kermit st.protocol.buffer) ↔
        st.protocol.Harmless (streamFrames crc16Kermit st.protocol.buffer) := by
      rw [← hs]
      exact harmless_congr rfl rfl
    dsimp only
    rw [hrest, chunkReceived_harmless_iff crc16Kermit hsDistinct, ← hframes, ← hbuffer, hcongr]
    simp [hraised]

/-- A call of `data_received` ends in a state that keeps what it started with, without an
    exception only where there is no Flag byte. -/
theorem dataReceived_kept (s : SpinelProtocol) (data : List UInt8) :
    Kept crc16Kermit { protocol := { s with buffer := s.buffer ++ data } }
        (s.dataReceived crc16Kermit data) ∧
      ((s.dataReceived crc16Kermit data).raised = none →
        HDLCSpecial.flag.value ∉ (s.dataReceived crc16Kermit data).protocol.buffer) := by
  obtain ⟨_, _, hrun⟩ := Loop.exec_runs (receivePass_decreasing crc16Kermit)
    { protocol := { s with buffer := s.buffer ++ data } }
  obtain ⟨hkept, hbreak⟩ := hrun.inv
    (Kept crc16Kermit { protocol := { s with buffer := s.buffer ++ data } })
    (fun _ _ hinv hpass => hinv.trans (receivePass_kept crc16Kermit hpass))
    (Kept.refl crc16Kermit _)
  exact ⟨hkept, notMem_of_receivePass crc16Kermit hbreak⟩

/-- Nothing but the buffer and the states of futures is changed. -/
theorem dataReceived_protocol (s : SpinelProtocol) (data : List UInt8) :
    ∃ buffer futures, (s.dataReceived crc16Kermit data).protocol =
      { s with buffer := buffer, futures := futures } := by
  obtain ⟨hkept, -⟩ := s.dataReceived_kept crc16Kermit data
  exact hkept.protocol

/-- Payloads, frames and incomplete segment of a call that raises nothing. -/
theorem dataReceived_of_raised_none {s : SpinelProtocol} {data : List UInt8}
    (h : (s.dataReceived crc16Kermit data).raised = none) :
    (s.dataReceived crc16Kermit data).protocol.buffer =
        (segments HDLCSpecial.flag.value (s.buffer ++ data)).2 ∧
      (s.dataReceived crc16Kermit data).effects.filterMap Effect.payload =
        streamPayloads crc16Kermit (s.buffer ++ data) ∧
      (s.dataReceived crc16Kermit data).effects.filterMap Effect.passedFrame =
        streamFrames crc16Kermit (s.buffer ++ data) := by
  obtain ⟨hkept, hflag⟩ := s.dataReceived_kept crc16Kermit data
  have hnone := hflag h
  refine ⟨?_, ?_, ?_⟩
  · simpa only [segments_of_notMem hnone] using hkept.rest
  · simpa only [streamPayloads, decoded_of_notMem _ hnone, List.append_nil, List.filterMap_nil,
      List.nil_append] using hkept.payloads
  · simpa only [streamFrames_of_notMem crc16Kermit hnone, List.append_nil, List.filterMap_nil,
      List.nil_append] using hkept.passed

/-- A call raises nothing exactly if its frames are harmless for the state before it. -/
theorem dataReceived_raised_iff {s : SpinelProtocol} (hs : s.DistinctFutures) (data : List UInt8) :
    (s.dataReceived crc16Kermit data).raised = none ↔
      s.Harmless (streamFrames crc16Kermit (s.buffer ++ data)) := by
  obtain ⟨hkept, hflag⟩ := s.dataReceived_kept crc16Kermit data
  have hiff := hkept.harmless hs
  have hstart : ({ s with buffer := s.buffer ++ data } : SpinelProtocol).Harmless
      (streamFrames crc16Kermit (s.buffer ++ data)) ↔
        s.Harmless (streamFrames crc16Kermit (s.buffer ++ data)) := harmless_congr rfl rfl
  constructor
  · intro hraised
    have hlast : streamFrames crc16Kermit (s.dataReceived crc16Kermit data).protocol.buffer = [] :=
      streamFrames_of_notMem crc16Kermit (hflag hraised)
    have hend : (s.dataReceived crc16Kermit data).protocol.Harmless
        (streamFrames crc16Kermit (s.dataReceived crc16Kermit data).protocol.buffer) := by
      rw [hlast]
      exact Harmless.nil _
    exact hstart.mp (hiff.mp ⟨hraised, hend⟩).2
  · intro h
    exact (hiff.mpr ⟨rfl, hstart.mpr h⟩).1

end Receive

end SpinelProtocol

end ZigpySpinel.Python
