import ZigpySpinel.Spinel.Proofs.Isolation
import ZigpySpinel.Spinel.Port
import ZigpySpinel.Spinel.Proofs.Resync
import ZigpySpinel.Spinel.Reader

/-!
# The client over bytes refines the client over frames

`SpinelClient` takes the frames it is given as steps of their own. The reader gets bytes, cut
anywhere, and hands over all frames that a read completes in one locked section. Apart from
the receive buffer both have the same runs: a read is the frames it completes, one step each,
and nothing but the reads moves the buffer.
-/

namespace ZigpySpinel.Spinel
open Lib

/-- The protocol object without what the parser keeps between two reads. -/
def SpinelProtocol.frameLevel (s : SpinelProtocol) : SpinelProtocol :=
  { s with buffer := [], ignoringUntilNextFlag := true }

/-- The client without what the parser keeps between two reads. -/
def SpinelClient.frameLevel (c : SpinelClient) : SpinelClient :=
  { c with protocol := c.protocol.frameLevel }

/-! ## Frames and calls leave the receive buffer alone -/

section FrameLevel

theorem SpinelProtocol.handleInboundFrame_frameLevel (s : SpinelProtocol) (frame : SpinelFrame) :
    s.frameLevel.handleInboundFrame frame =
      ((s.handleInboundFrame frame).1.frameLevel, (s.handleInboundFrame frame).2) := by
  unfold handleInboundFrame
  dsimp only [frameLevel]
  repeat' split
  all_goals rfl

theorem SpinelProtocol.handleInboundFrame_propertyUpdateReceivers (s : SpinelProtocol)
    (frame : SpinelFrame) :
    (s.handleInboundFrame frame).1.propertyUpdateReceivers = s.propertyUpdateReceivers := by
  rcases s.handleInboundFrame_cases frame with ⟨_, -, -, heq⟩ | ⟨-, heq, -⟩
  · rw [heq]
  · rw [heq]

namespace SpinelClient

theorem received_frameLevel (c : SpinelClient) (frame : SpinelFrame) :
    (c.received frame).frameLevel = c.frameLevel.received frame := by
  have hframe := c.protocol.handleInboundFrame_frameLevel frame
  simp only [received, frameLevel, hframe]

theorem stepCall_frameLevel (c : SpinelClient) (id : SenderId)
    (f : SendCommand → Option SendCommand) :
    c.frameLevel.stepCall id f = (c.stepCall id f).map frameLevel := by
  unfold stepCall
  dsimp only [frameLevel]
  repeat' split
  all_goals rfl

/-- A step of the client does not look at the receive buffer. -/
theorem step_frameLevel (c : SpinelClient) (action : Action) :
    c.frameLevel.step action = (c.step action).map frameLevel := by
  cases action with
  | prepare commandId payload => rfl
  | written id => exact stepCall_frameLevel c id _
  | writeFailed id => exact stepCall_frameLevel c id _
  | inbound frame => exact congrArg some (received_frameLevel c frame).symm
  | resolved id => exact stepCall_frameLevel c id _
  | elapsed id => exact stepCall_frameLevel c id _
  | cancel id =>
    unfold step
    dsimp only [frameLevel]
    repeat' split
    all_goals rfl

theorem stepCall_protocol {c c' : SpinelClient} {id : SenderId}
    {f : SendCommand → Option SendCommand} (h : c.stepCall id f = some c') :
    c'.protocol = c.protocol := by
  obtain ⟨_, _, -, -, rfl⟩ := stepCall_eq_some h
  rfl

theorem step_buffer {c c' : SpinelClient} {action : Action} (h : c.step action = some c') :
    c'.protocol.buffer = c.protocol.buffer := by
  cases action with
  | prepare commandId payload =>
    cases h
    rfl
  | written id => rw [stepCall_protocol h]
  | writeFailed id => rw [stepCall_protocol h]
  | inbound frame =>
    cases h
    exact SpinelProtocol.handleInboundFrame_buffer c.protocol frame
  | resolved id => rw [stepCall_protocol h]
  | elapsed id => rw [stepCall_protocol h]
  | cancel id =>
    obtain ⟨_, _, -, -, rfl⟩ := step_cancel h
    rfl

/-- No step registers a channel. -/
theorem step_propertyUpdateReceivers {c c' : SpinelClient} {action : Action}
    (h : c.step action = some c') :
    c'.protocol.propertyUpdateReceivers = c.protocol.propertyUpdateReceivers := by
  cases action with
  | prepare commandId payload =>
    cases h
    rfl
  | written id => rw [stepCall_protocol h]
  | writeFailed id => rw [stepCall_protocol h]
  | inbound frame =>
    cases h
    exact SpinelProtocol.handleInboundFrame_propertyUpdateReceivers c.protocol frame
  | resolved id => rw [stepCall_protocol h]
  | elapsed id => rw [stepCall_protocol h]
  | cancel id =>
    obtain ⟨_, _, -, -, rfl⟩ := step_cancel h
    rfl

end SpinelClient

end FrameLevel

/-! ## A read is the frames it completes -/

section Reads

variable (crcKermit : List UInt8 → UInt16)

/-- The bytes behind the last Flag byte of a stream. -/
def unfinished (stream : List UInt8) : List UInt8 := (segments HdlcSpecial.flag.toU8 stream).2

namespace SpinelClient

/-- Frames that are handed over in one locked section are handed over one after the other. -/
theorem handleInboundFrames_received (frames : List SpinelFrame) (c : SpinelClient) :
    ({ c with
        protocol := (c.protocol.handleInboundFrames frames).1
        calls := (c.protocol.handleInboundFrames frames).2.foldl deliver c.calls } : SpinelClient) =
      frames.foldl received c := by
  induction frames generalizing c with
  | nil => rfl
  | cons frame frames ih =>
    rw [List.foldl_cons, ← ih (c.received frame)]
    simp only [SpinelProtocol.handleInboundFrames, received, List.foldl_append]

theorem foldl_received_frameLevel (frames : List SpinelFrame) (c : SpinelClient) :
    (frames.foldl received c).frameLevel = frames.foldl received c.frameLevel := by
  induction frames generalizing c with
  | nil => rfl
  | cons frame frames ih => rw [List.foldl_cons, ih, received_frameLevel, List.foldl_cons]

theorem receivedBytes_frameLevel (c : SpinelClient) (bytes : List UInt8) :
    (c.receivedBytes crcKermit bytes).frameLevel =
      (SpinelProtocol.streamFrames crcKermit (c.protocol.buffer ++ bytes)).foldl received
        c.frameLevel := by
  have hparse := SpinelProtocol.parseFramesFromBytesInto_eq crcKermit c.protocol bytes []
  have hfold := foldl_received_frameLevel
    (SpinelProtocol.streamFrames crcKermit (c.protocol.buffer ++ bytes))
    { c with protocol := (c.protocol.parseFramesFromBytes crcKermit bytes).1 }
  rw [← handleInboundFrames_received] at hfold
  simp only [receivedBytes, SpinelProtocol.handleInboundBytes, SpinelProtocol.parseFramesFromBytes,
    hparse, List.nil_append] at hfold ⊢
  exact hfold

theorem receivedBytes_buffer (c : SpinelClient) (bytes : List UInt8) :
    (c.receivedBytes crcKermit bytes).protocol.buffer = unfinished (c.protocol.buffer ++ bytes) := by
  have hparse := SpinelProtocol.parseFramesFromBytesInto_eq crcKermit c.protocol bytes []
  simp only [receivedBytes, SpinelProtocol.handleInboundBytes,
    SpinelProtocol.handleInboundFrames_buffer, SpinelProtocol.parseFramesFromBytes, hparse]
  rfl

/-- The run in which these frames come in one after the other. -/
theorem run_inbound_iff {frames : List SpinelFrame} {c c' : SpinelClient} :
    Run Step c (frames.map .inbound) c' ↔ c' = frames.foldl received c := by
  induction frames generalizing c with
  | nil => exact Run.nil_iff
  | cons frame frames ih =>
    rw [List.map_cons, Run.cons_iff, List.foldl_cons]
    constructor
    · rintro ⟨c₁, hstep, hrun⟩
      cases hstep
      exact ih.mp hrun
    · intro h
      exact ⟨c.received frame, rfl, ih.mpr h⟩

end SpinelClient

end Reads

/-! ## Runs -/

section Runs

variable (crcKermit : List UInt8 → UInt16)

/-- The bytes that a step reads. -/
def ReaderAction.bytes : ReaderAction → List UInt8
  | .read bytes => bytes
  | .readFailed => []
  | .call _ => []

/-- All bytes that the reader gets. -/
def bytesRead (actions : List ReaderAction) : List UInt8 := actions.flatMap ReaderAction.bytes

/-- The frame that comes in. -/
def Action.frame? : Action → Option SpinelFrame
  | .inbound frame => some frame
  | .prepare _ _ => none
  | .written _ => none
  | .writeFailed _ => none
  | .resolved _ => none
  | .elapsed _ => none
  | .cancel _ => none

/-- All frames that come in. -/
def inboundFrames (actions : List Action) : List SpinelFrame := actions.filterMap Action.frame?

/-- What the reader's loop and the port allow: no read is larger than the buffer, and there is
    none after a read of no bytes or a failed one. -/
def Readable : Bool → List ReaderAction → Prop
  | _, [] => True
  | reading, .read bytes :: actions =>
    reading = true ∧ bytes.length ≤ readerBufferSize ∧ Readable (!bytes.isEmpty) actions
  | reading, .readFailed :: actions => reading = true ∧ Readable false actions
  | reading, .call action :: actions => action.frame? = none ∧ Readable reading actions

/-- Every read replaced by the frames it completes. -/
def frameActions (buffer : List UInt8) : List ReaderAction → List Action
  | [] => []
  | .read bytes :: actions =>
    (SpinelProtocol.streamFrames crcKermit (buffer ++ bytes)).map .inbound ++
      frameActions (unfinished (buffer ++ bytes)) actions
  | .readFailed :: actions => frameActions buffer actions
  | .call action :: actions => action :: frameActions buffer actions

theorem inboundFrames_map (frames : List SpinelFrame) :
    inboundFrames (frames.map .inbound) = frames := by
  induction frames with
  | nil => rfl
  | cons frame frames ih => exact congrArg (frame :: ·) ih

theorem streamFrames_unflagged {stream : List UInt8} (h : HdlcSpecial.flag.toU8 ∉ stream) :
    SpinelProtocol.streamFrames crcKermit stream = [] := by
  rw [SpinelProtocol.streamFrames, segments_of_notMem h, List.flatMap_nil]

/-- Without a Flag byte there is nothing to decode. -/
theorem quiet_of_unflagged {buffer : List UInt8} (h : HdlcSpecial.flag.toU8 ∉ buffer) :
    unfinished (buffer ++ []) = buffer ∧
      SpinelProtocol.streamFrames crcKermit (buffer ++ []) = [] := by
  rw [List.append_nil]
  exact ⟨congrArg Prod.snd (segments_of_notMem h), streamFrames_unflagged crcKermit h⟩

theorem unfinished_append (xs ys : List UInt8) :
    unfinished (xs ++ ys) = unfinished (unfinished xs ++ ys) := by
  rw [unfinished, segments_append]
  rfl

/-- The frames that come in are those of the whole stream, wherever it is cut. -/
theorem inboundFrames_frameActions {actions : List ReaderAction} {reading : Bool}
    (h : Readable reading actions) {buffer : List UInt8} (hbuffer : HdlcSpecial.flag.toU8 ∉ buffer) :
    inboundFrames (frameActions crcKermit buffer actions) =
      SpinelProtocol.streamFrames crcKermit (buffer ++ bytesRead actions) := by
  induction actions generalizing buffer reading with
  | nil =>
    rw [bytesRead, List.flatMap_nil, List.append_nil, streamFrames_unflagged crcKermit hbuffer]
    rfl
  | cons action actions ih =>
    cases action with
    | read bytes =>
      have hrest := ih h.2.2 (notMem_segments_snd (buffer ++ bytes))
      have hcut := SpinelProtocol.streamFrames_append crcKermit (buffer ++ bytes) (bytesRead actions)
      rw [List.append_assoc] at hcut
      have hread := inboundFrames_map (SpinelProtocol.streamFrames crcKermit (buffer ++ bytes))
      rw [inboundFrames] at hread hrest
      rw [frameActions, inboundFrames, List.filterMap_append, hread]
      exact (congrArg _ hrest).trans hcut.symm
    | readFailed => exact ih h.2 hbuffer
    | call action =>
      have hrest := ih h.2 hbuffer
      rw [inboundFrames] at hrest
      rw [frameActions, inboundFrames, List.filterMap_cons_none h.1, hrest]
      rfl

namespace ReaderClient

theorem step_read {r r' : ReaderClient} {bytes : List UInt8} :
    r.Step crcKermit (.read bytes) r' ↔
      (r.reading = true ∧ bytes.length ≤ readerBufferSize) ∧ r' = r.read crcKermit bytes := by
  constructor
  · intro h
    obtain ⟨hread, heq⟩ := Option.ite_none_right_eq_some.mp h
    exact ⟨hread, (Option.some.inj heq).symm⟩
  · rintro ⟨hread, rfl⟩
    exact if_pos hread

theorem step_readFailed {r r' : ReaderClient} :
    r.Step crcKermit .readFailed r' ↔ r.reading = true ∧ r' = { r with reading := false } := by
  constructor
  · intro h
    obtain ⟨hreading, heq⟩ := Option.ite_none_right_eq_some.mp h
    exact ⟨hreading, (Option.some.inj heq).symm⟩
  · rintro ⟨hreading, rfl⟩
    exact if_pos hreading

theorem step_call {r r' : ReaderClient} {action : Action} :
    r.Step crcKermit (.call action) r' ↔
      action.frame? = none ∧ ∃ client, r.client.Step action client ∧
        r' = { r with client := client } := by
  cases action <;> simp [Step, step, Action.frame?, SpinelClient.Step, eq_comm]

/-- The reader's buffer holds no Flag byte between two steps. -/
def Unflagged (r : ReaderClient) : Prop := HdlcSpecial.flag.toU8 ∉ r.client.protocol.buffer

/-- What a read leaves, whether or not it is the one that ends the loop. -/
theorem Unflagged.read {r : ReaderClient} (hr : r.Unflagged) (hreading : r.reading = true)
    (bytes : List UInt8) :
    (r.read crcKermit bytes).client.frameLevel =
        (SpinelProtocol.streamFrames crcKermit (r.client.protocol.buffer ++ bytes)).foldl
          SpinelClient.received r.client.frameLevel ∧
      (r.read crcKermit bytes).client.protocol.buffer =
        unfinished (r.client.protocol.buffer ++ bytes) ∧
      (r.read crcKermit bytes).reading = !bytes.isEmpty := by
  cases bytes with
  | nil =>
    rw [List.append_nil, streamFrames_unflagged crcKermit hr, unfinished, segments_of_notMem hr]
    exact ⟨rfl, rfl, rfl⟩
  | cons byte bytes =>
    exact ⟨SpinelClient.receivedBytes_frameLevel crcKermit r.client (byte :: bytes),
      SpinelClient.receivedBytes_buffer crcKermit r.client (byte :: bytes), hreading⟩

/-- The two levels have the same runs. -/
theorem run_iff {r : ReaderClient} (hr : r.Unflagged) (actions : List ReaderAction)
    (c : SpinelClient) :
    (∃ r', Run (Step crcKermit) r actions r' ∧ r'.client.frameLevel = c) ↔
      Readable r.reading actions ∧
        Run SpinelClient.Step r.client.frameLevel
          (frameActions crcKermit r.client.protocol.buffer actions) c := by
  induction actions generalizing r with
  | nil =>
    constructor
    · rintro ⟨r', hrun, rfl⟩
      rw [Run.nil_iff.mp hrun]
      exact ⟨trivial, .nil _⟩
    · rintro ⟨-, hrun⟩
      exact ⟨r, .nil r, (Run.nil_iff.mp hrun).symm⟩
  | cons action actions ih =>
    cases action with
    | read bytes =>
      rw [frameActions, Run.append_iff]
      constructor
      · rintro ⟨r', hrun, hc⟩
        obtain ⟨m, hstep, hrest⟩ := Run.cons_iff.mp hrun
        obtain ⟨⟨hreading, hsize⟩, rfl⟩ := (step_read crcKermit).mp hstep
        obtain ⟨hclient, hbuffer, hnext⟩ := hr.read crcKermit hreading bytes
        have hm : (r.read crcKermit bytes).Unflagged := by
          rw [Unflagged, hbuffer]
          exact notMem_segments_snd _
        obtain ⟨hreadable, hlevel⟩ := (ih hm).mp ⟨r', hrest, hc⟩
        rw [hnext] at hreadable
        rw [hclient, hbuffer] at hlevel
        exact ⟨⟨hreading, hsize, hreadable⟩, _, SpinelClient.run_inbound_iff.mpr rfl, hlevel⟩
      · rintro ⟨⟨hreading, hsize, hreadable⟩, middle, hframes, hlevel⟩
        rw [SpinelClient.run_inbound_iff.mp hframes] at hlevel
        obtain ⟨hclient, hbuffer, hnext⟩ := hr.read crcKermit hreading bytes
        have hm : (r.read crcKermit bytes).Unflagged := by
          rw [Unflagged, hbuffer]
          exact notMem_segments_snd _
        rw [← hclient, ← hbuffer] at hlevel
        rw [← hnext] at hreadable
        obtain ⟨r', hrest, hc⟩ := (ih hm).mpr ⟨hreadable, hlevel⟩
        exact ⟨r', .cons ((step_read crcKermit).mpr ⟨⟨hreading, hsize⟩, rfl⟩) hrest, hc⟩
    | readFailed =>
      have hm : ({ r with reading := false } : ReaderClient).Unflagged := hr
      constructor
      · rintro ⟨r', hrun, hc⟩
        obtain ⟨m, hstep, hrest⟩ := Run.cons_iff.mp hrun
        obtain ⟨hreading, rfl⟩ := (step_readFailed crcKermit).mp hstep
        obtain ⟨hreadable, hlevel⟩ := (ih hm).mp ⟨r', hrest, hc⟩
        exact ⟨⟨hreading, hreadable⟩, hlevel⟩
      · rintro ⟨⟨hreading, hreadable⟩, hlevel⟩
        obtain ⟨r', hrest, hc⟩ := (ih hm).mpr ⟨hreadable, hlevel⟩
        exact ⟨r', .cons ((step_readFailed crcKermit).mpr ⟨hreading, rfl⟩) hrest, hc⟩
    | call action =>
      rw [frameActions, Run.cons_iff]
      constructor
      · rintro ⟨r', hrun, hc⟩
        obtain ⟨m, hstep, hrest⟩ := Run.cons_iff.mp hrun
        obtain ⟨hcall, client, hclient, rfl⟩ := (step_call crcKermit).mp hstep
        have hbuffer := SpinelClient.step_buffer hclient
        have hm : ({ r with client := client } : ReaderClient).Unflagged := by
          rw [Unflagged, hbuffer]
          exact hr
        obtain ⟨hreadable, hlevel⟩ := (ih hm).mp ⟨r', hrest, hc⟩
        rw [hbuffer] at hlevel
        refine ⟨⟨hcall, hreadable⟩, client.frameLevel, ?_, hlevel⟩
        rw [SpinelClient.Step, SpinelClient.step_frameLevel, hclient, Option.map_some]
      · rintro ⟨⟨hcall, hreadable⟩, middle, hmiddle, hlevel⟩
        rw [SpinelClient.Step, SpinelClient.step_frameLevel] at hmiddle
        obtain ⟨client, hclient, rfl⟩ := Option.map_eq_some_iff.mp hmiddle
        have hbuffer := SpinelClient.step_buffer hclient
        have hm : ({ r with client := client } : ReaderClient).Unflagged := by
          rw [Unflagged, hbuffer]
          exact hr
        rw [← hbuffer] at hlevel
        obtain ⟨r', hrest, hc⟩ := (ih hm).mpr ⟨hreadable, hlevel⟩
        exact ⟨r', .cons ((step_call crcKermit).mpr ⟨hcall, client, hclient, rfl⟩) hrest, hc⟩

end ReaderClient

/-! ## Every run over frames is one over bytes -/

/-- Every frame replaced by its encoding, read byte by byte. -/
def byteActions : List Action → List ReaderAction
  | [] => []
  | action :: actions =>
    match action.frame? with
    | some frame => (frame.encoded crcKermit).map (fun byte => .read [byte]) ++ byteActions actions
    | none => .call action :: byteActions actions

/-- Reads without a step between them are one read. -/
theorem frameActions_reads {buffer : List UInt8} (hbuffer : HdlcSpecial.flag.toU8 ∉ buffer)
    (bytes : List UInt8) (actions : List ReaderAction) :
    frameActions crcKermit buffer (bytes.map (fun byte => .read [byte]) ++ actions) =
      (SpinelProtocol.streamFrames crcKermit (buffer ++ bytes)).map .inbound ++
        frameActions crcKermit (unfinished (buffer ++ bytes)) actions := by
  induction bytes generalizing buffer with
  | nil =>
    rw [List.append_nil, streamFrames_unflagged crcKermit hbuffer, unfinished,
      segments_of_notMem hbuffer]
    rfl
  | cons byte bytes ih =>
    have hrest : HdlcSpecial.flag.toU8 ∉ unfinished (buffer ++ [byte]) := notMem_segments_snd _
    have hframes := SpinelProtocol.streamFrames_append crcKermit (buffer ++ [byte]) bytes
    have hcut := segments_append (d := HdlcSpecial.flag.toU8) (buffer ++ [byte]) bytes
    rw [List.append_assoc, List.singleton_append] at hframes hcut
    rw [List.map_cons, List.cons_append, frameActions, ih hrest, hframes, List.map_append,
      List.append_assoc, unfinished, unfinished, unfinished, hcut]

theorem readable_reads (bytes : List UInt8) {actions : List ReaderAction}
    (h : Readable true actions) :
    Readable true (bytes.map (fun byte => .read [byte]) ++ actions) := by
  induction bytes with
  | nil => exact h
  | cons byte bytes ih => exact ⟨rfl, by simp [readerBufferSize], ih⟩

theorem readable_byteActions (actions : List Action) :
    Readable true (byteActions crcKermit actions) := by
  induction actions with
  | nil => trivial
  | cons action actions ih =>
    rw [byteActions]
    split
    · exact readable_reads _ ih
    · rename_i hcall
      exact ⟨hcall, ih⟩

theorem Action.eq_inbound {action : Action} {frame : SpinelFrame}
    (h : action.frame? = some frame) : action = .inbound frame := by
  cases action <;> cases h
  rfl

/-- The frames of the bytes are the frames they encode. -/
theorem frameActions_byteActions {actions : List Action}
    (h : ∀ frame ∈ inboundFrames actions, SpinelProtocol.Encodable frame) :
    frameActions crcKermit [] (byteActions crcKermit actions) = actions := by
  induction actions with
  | nil => rfl
  | cons action actions ih =>
    rw [byteActions]
    split
    · rename_i frame hframe
      rw [inboundFrames, List.filterMap_cons_some hframe] at h
      obtain ⟨hencodable, hrest⟩ := List.forall_mem_cons.mp h
      have hone : ∀ f ∈ [frame], SpinelProtocol.Encodable f := by
        simpa using hencodable
      have hstream := SpinelProtocol.streamFrames_encodeFrames crcKermit [frame] hone
      have hbytes : SpinelProtocol.encodeFrames crcKermit [frame] = frame.encoded crcKermit :=
        List.append_nil _
      rw [hbytes] at hstream
      rw [frameActions_reads crcKermit List.not_mem_nil, List.nil_append, unfinished, hstream.1,
        hstream.2, ih hrest, Action.eq_inbound hframe]
      rfl
    · rename_i hcall
      rw [inboundFrames, List.filterMap_cons_none hcall] at h
      rw [frameActions, ih h]

namespace ReaderClient

/-- The client over bytes refines the client over frames. With any cuts between the reads, and
    any steps of the calls between them, it reaches what the other one reaches when each read
    is replaced by the frames that it completes. These frames are those of the whole stream,
    and every run over frames that can be encoded arises from bytes. -/
theorem reader_refines :
    (∀ actions c, (∃ r, Run (Step crcKermit) new actions r ∧ r.client.frameLevel = c) ↔
      Readable true actions ∧ Run SpinelClient.Step .new (frameActions crcKermit [] actions) c) ∧
    (∀ actions, Readable true actions →
      inboundFrames (frameActions crcKermit [] actions) =
        SpinelProtocol.streamFrames crcKermit (bytesRead actions)) ∧
    ∀ actions, (∀ frame ∈ inboundFrames actions, SpinelProtocol.Encodable frame) →
      ∃ readerActions, Readable true readerActions ∧
        frameActions crcKermit [] readerActions = actions := by
  refine ⟨fun actions c => ?_, fun actions h => ?_, fun actions h => ?_⟩
  · exact run_iff crcKermit (r := new) List.not_mem_nil actions c
  · exact inboundFrames_frameActions crcKermit h List.not_mem_nil
  · exact ⟨byteActions crcKermit actions, readable_byteActions crcKermit actions,
      frameActions_byteActions crcKermit h⟩

end ReaderClient

end Runs

end ZigpySpinel.Spinel
