import ZigpySpinel.Spinel.Proofs.Reader
import ZigpySpinel.Spinel.Receivers

/-!
# What the receivers of properties are sent

A frame sends at most one value: that of the property it is about, to the channel that is
registered for the property. So while the registration stands the channel is sent the values of
the property in the frames of the stream.
-/

namespace ZigpySpinel.Spinel
open Lib

/-! ## One frame -/

/-- The update of a property that a frame brings, if it does. -/
def propertyUpdate (frame : SpinelFrame) : Option SpinelFramePropValueIs :=
  if frame.header.transactionId = 0 ∧ frame.commandId = SpinelCommandId.propValueIs then
    match SpinelFramePropValueIs.fromBytes frame.payload with
    | .ok propValueIs => some propValueIs
    | .err _ => none
    | .panic _ => none
  else none

/-- The value of this property that a frame brings, if it does. -/
def updateOf (propertyId : UInt32) (frame : SpinelFrame) : Option (List UInt8) :=
  match propertyUpdate frame with
  | some update => if update.propertyId = propertyId then some update.value else none
  | none => none

/-- The update that an effect sends, behind the channel that it is sent to. -/
def Effect.sentUpdate : Effect → Option (ReceiverId × SpinelFramePropValueIs)
  | .sendPropertyUpdate receiver propValueIs => some (receiver, propValueIs)
  | .sendResponse _ _ => none
  | .dropSender _ => none
  | .noReceiver _ => none
  | .parseFailed _ => none
  | .unhandledUnsolicited _ => none
  | .unmatched _ => none

theorem Effect.sentFor_eq (propertyId : UInt32) (effect : Effect) :
    effect.sentFor propertyId =
      effect.sentUpdate.bind fun sent =>
        if sent.2.propertyId = propertyId then some (sent.1, sent.2.value) else none := by
  cases effect <;> rfl

namespace SpinelProtocol

/-- What a frame sends: the update that it brings, to the receiver of its property. -/
theorem handleInboundFrame_sentUpdate (s : SpinelProtocol) (frame : SpinelFrame) :
    (s.handleInboundFrame frame).2.filterMap Effect.sentUpdate =
      ((propertyUpdate frame).bind fun propValueIs =>
        (s.propertyUpdateReceivers propValueIs.propertyId).map (·, propValueIs)).toList := by
  by_cases htid : frame.header.transactionId = 0
  · by_cases hcommand : frame.commandId = SpinelCommandId.propValueIs
    · simp only [handleInboundFrame, propertyUpdate, htid, hcommand, if_true, and_self]
      cases SpinelFramePropValueIs.fromBytes frame.payload with
      | ok propValueIs =>
        cases hreceiver : s.propertyUpdateReceivers propValueIs.propertyId with
        | none => simp [hreceiver, Effect.sentUpdate]
        | some receiver => simp [hreceiver, Effect.sentUpdate]
      | err e => rfl
      | panic m => rfl
    · simp only [handleInboundFrame, propertyUpdate, htid, hcommand, if_true, if_false, and_false]
      rfl
  · have hnone : propertyUpdate frame = none := if_neg fun h => htid h.1
    rw [hnone]
    cases hpending : s.pendingFrames frame.header.transactionId with
    | none =>
      simp only [handleInboundFrame, htid, if_false, hpending]
      rfl
    | some sender =>
      simp only [handleInboundFrame, htid, if_false, hpending]
      rfl

theorem handleInboundFrame_sentFor {s : SpinelProtocol} {propertyId : UInt32} {tx : ReceiverId}
    (h : s.propertyUpdateReceivers propertyId = some tx) (frame : SpinelFrame) :
    (s.handleInboundFrame frame).2.filterMap (Effect.sentFor propertyId) =
      (updateOf propertyId frame).toList.map (tx, ·) := by
  rw [funext (Effect.sentFor_eq propertyId), ← List.filterMap_filterMap,
    handleInboundFrame_sentUpdate, updateOf]
  cases propertyUpdate frame with
  | none => rfl
  | some update =>
    by_cases hsame : update.propertyId = propertyId
    · simp [hsame, h]
    · cases s.propertyUpdateReceivers update.propertyId <;> simp [hsame]

theorem handleInboundFrames_propertyUpdateReceivers (frames : List SpinelFrame)
    (s : SpinelProtocol) :
    (s.handleInboundFrames frames).1.propertyUpdateReceivers = s.propertyUpdateReceivers := by
  induction frames generalizing s with
  | nil => rfl
  | cons frame frames ih =>
    rw [handleInboundFrames]
    exact (ih _).trans (handleInboundFrame_propertyUpdateReceivers s frame)

/-- All frames of a read. -/
theorem handleInboundFrames_sentFor {s : SpinelProtocol} {propertyId : UInt32} {tx : ReceiverId}
    (h : s.propertyUpdateReceivers propertyId = some tx) (frames : List SpinelFrame) :
    (s.handleInboundFrames frames).2.filterMap (Effect.sentFor propertyId) =
      (frames.filterMap (updateOf propertyId)).map (tx, ·) := by
  induction frames generalizing s with
  | nil => rfl
  | cons frame frames ih =>
    have hnext : (s.handleInboundFrame frame).1.propertyUpdateReceivers propertyId = some tx := by
      rw [handleInboundFrame_propertyUpdateReceivers]
      exact h
    rw [handleInboundFrames]
    dsimp only
    rw [List.filterMap_append, handleInboundFrame_sentFor h, ih hnext]
    cases hupdate : updateOf propertyId frame with
    | none =>
      rw [List.filterMap_cons_none hupdate, Option.toList_none, List.map_nil, List.nil_append]
    | some value =>
      rw [List.filterMap_cons_some hupdate]
      rfl

end SpinelProtocol

/-! ## Steps -/

namespace TracedClient

variable (crcKermit : List UInt8 → UInt16)

/-- What a step has done to the stream and to the channels. -/
structure Does (c : TracedClient) (action : ReaderAction) (reader : ReaderClient) : Prop where
  buffer : reader.client.protocol.buffer = unfinished (c.protocol.buffer ++ action.bytes)
  handed : action.handed crcKermit c.protocol =
    SpinelProtocol.streamFrames crcKermit (c.protocol.buffer ++ action.bytes)
  receivers : reader.client.protocol.propertyUpdateReceivers = c.protocol.propertyUpdateReceivers
  sent : ∀ propertyId tx, c.receiver propertyId = some tx →
    (action.effects crcKermit c.protocol).filterMap (Effect.sentFor propertyId) =
      ((action.handed crcKermit c.protocol).filterMap (updateOf propertyId)).map (tx, ·)

/-- Nothing is read. -/
theorem Does.of_quiet {c : TracedClient} {action : ReaderAction} {reader : ReaderClient}
    (hc : c.reader.Unflagged) (hbytes : action.bytes = [])
    (hhanded : action.handed crcKermit c.protocol = [])
    (heffects : action.effects crcKermit c.protocol = [])
    (hbuffer : reader.client.protocol.buffer = c.protocol.buffer)
    (hreceivers : reader.client.protocol.propertyUpdateReceivers =
      c.protocol.propertyUpdateReceivers) : Does crcKermit c action reader := by
  obtain ⟨hrest, hframes⟩ := quiet_of_unflagged crcKermit hc
  refine ⟨?_, ?_, hreceivers, ?_⟩
  · rw [hbuffer, hbytes]
    exact hrest.symm
  · rw [hhanded, hbytes]
    exact hframes.symm
  · intro propertyId tx _
    rw [heffects, hhanded]
    rfl

theorem reader_does {c : TracedClient} (hc : c.reader.Unflagged) {action : ReaderAction}
    {reader : ReaderClient} (h : c.reader.Step crcKermit action reader) :
    Does crcKermit c action reader := by
  cases action with
  | read bytes =>
    obtain ⟨⟨hreading, -⟩, rfl⟩ := (ReaderClient.step_read crcKermit).mp h
    cases bytes with
    | nil => exact .of_quiet crcKermit hc rfl rfl rfl rfl rfl
    | cons byte bytes =>
      have hparse :=
        SpinelProtocol.parseFramesFromBytesInto_eq crcKermit c.protocol (byte :: bytes) []
      obtain ⟨-, hbuffer, -⟩ := hc.read crcKermit hreading (byte :: bytes)
      refine ⟨hbuffer, ?_, ?_, ?_⟩
      · simp only [ReaderAction.handed, SpinelProtocol.parseFramesFromBytes, hparse]
        rfl
      · have hkept := SpinelProtocol.handleInboundFrames_propertyUpdateReceivers
          (c.protocol.parseFramesFromBytes crcKermit (byte :: bytes)).2
          (c.protocol.parseFramesFromBytes crcKermit (byte :: bytes)).1
        exact hkept
      · intro propertyId tx hreceiver
        exact SpinelProtocol.handleInboundFrames_sentFor
          (s := (c.protocol.parseFramesFromBytes crcKermit (byte :: bytes)).1) hreceiver _
  | readFailed =>
    obtain ⟨-, rfl⟩ := (ReaderClient.step_readFailed crcKermit).mp h
    exact .of_quiet crcKermit hc rfl rfl rfl rfl rfl
  | call action =>
    obtain ⟨-, client, hclient, rfl⟩ := (ReaderClient.step_call crcKermit).mp h
    exact .of_quiet crcKermit hc rfl rfl rfl (SpinelClient.step_buffer hclient)
      (SpinelClient.step_propertyUpdateReceivers hclient)

theorem step_reader {c c' : TracedClient} {action : ReaderAction}
    (h : c.Step crcKermit (.reader action) c') :
    ∃ reader, c.reader.Step crcKermit action reader ∧
      c' = {
        reader := reader
        frames := c.frames ++ action.handed crcKermit c.protocol
        effects := c.effects ++ action.effects crcKermit c.protocol } := by
  obtain ⟨reader, hreader, rfl⟩ := Option.map_eq_some_iff.mp h
  exact ⟨reader, hreader, rfl⟩

/-! ## Runs -/

/-- The bytes that a step reads. -/
def bytesOf : TracedAction → List UInt8
  | .reader action => action.bytes
  | .setPropertyUpdateReceiver _ _ => []

/-- All bytes that the reader gets. -/
def bytesRead (actions : List TracedAction) : List UInt8 := actions.flatMap bytesOf

theorem bytesRead_snoc (actions : List TracedAction) (action : TracedAction) :
    bytesRead (actions ++ [action]) = bytesRead actions ++ bytesOf action := by
  rw [bytesRead, List.flatMap_append, List.flatMap_singleton]
  rfl

/-- The frames of the stream have been handed over, and the rest of it is in the buffer. -/
structure Received (stream : List UInt8) (c : TracedClient) : Prop where
  frames : c.frames = SpinelProtocol.streamFrames crcKermit stream
  buffer : c.protocol.buffer = unfinished stream

theorem Received.unflagged {stream : List UInt8} {c : TracedClient}
    (h : Received crcKermit stream c) : c.reader.Unflagged := by
  have hbuffer : c.reader.client.protocol.buffer = unfinished stream := h.buffer
  rw [ReaderClient.Unflagged, hbuffer]
  exact notMem_segments_snd _

theorem Received.step {stream : List UInt8} {c c' : TracedClient} {action : TracedAction}
    (h : Received crcKermit stream c) (hstep : c.Step crcKermit action c') :
    Received crcKermit (stream ++ bytesOf action) c' := by
  cases action with
  | reader action =>
    obtain ⟨reader, hreader, rfl⟩ := step_reader crcKermit hstep
    have hdoes := reader_does crcKermit h.unflagged hreader
    refine ⟨?_, ?_⟩
    · dsimp only
      rw [h.frames, hdoes.handed, h.buffer]
      exact (SpinelProtocol.streamFrames_append crcKermit stream action.bytes).symm
    · rw [bytesOf, unfinished_append, ← h.buffer]
      exact hdoes.buffer
  | setPropertyUpdateReceiver propertyId tx =>
    cases hstep
    rw [bytesOf, List.append_nil]
    exact ⟨h.frames, h.buffer⟩

theorem received_run {actions : List TracedAction} {c : TracedClient}
    (h : Run (Step crcKermit) new actions c) : Received crcKermit (bytesRead actions) c := by
  refine h.inv_labels (fun actions c => Received crcKermit (bytesRead actions) c) ?_ ⟨rfl, rfl⟩
  intro actions c action c' hreceived hstep
  rw [bytesRead_snoc]
  exact hreceived.step crcKermit hstep

/-- While the registration for a property stands, what is sent are the values of the property in
    the frames, and all of them to the registered channel. -/
structure Sends (propertyId : UInt32) (tx : ReceiverId) (c₁ c : TracedClient) : Prop where
  receiver : c.receiver propertyId = some tx
  sent : ∃ frames effects, c.frames = c₁.frames ++ frames ∧ c.effects = c₁.effects ++ effects ∧
    effects.filterMap (Effect.sentFor propertyId) =
      (frames.filterMap (updateOf propertyId)).map (tx, ·)

theorem Sends.step {propertyId : UInt32} {tx : ReceiverId} {c₁ c c' : TracedClient}
    (h : Sends propertyId tx c₁ c) (hc : c.reader.Unflagged) {action : TracedAction}
    (hstep : c.Step crcKermit action c')
    (hkept : ∀ tx', action ≠ .setPropertyUpdateReceiver propertyId tx') :
    Sends propertyId tx c₁ c' := by
  obtain ⟨frames, effects, hframes, heffects, hsent⟩ := h.sent
  cases action with
  | reader action =>
    obtain ⟨reader, hreader, rfl⟩ := step_reader crcKermit hstep
    have hdoes := reader_does crcKermit hc hreader
    refine ⟨?_, frames ++ action.handed crcKermit c.protocol,
      effects ++ action.effects crcKermit c.protocol, ?_, ?_, ?_⟩
    · change reader.client.protocol.propertyUpdateReceivers propertyId = some tx
      rw [hdoes.receivers]
      exact h.receiver
    · rw [hframes, List.append_assoc]
    · rw [heffects, List.append_assoc]
    · rw [List.filterMap_append, List.filterMap_append, hsent, hdoes.sent propertyId tx h.receiver,
        List.map_append]
  | setPropertyUpdateReceiver other tx' =>
    cases hstep
    have hne : propertyId ≠ other := by
      rintro rfl
      exact hkept tx' rfl
    have hreceiver : (c.setPropertyUpdateReceiver other tx').receiver propertyId = some tx :=
      (Function.update_of_ne hne ..).trans h.receiver
    exact ⟨hreceiver, frames, effects, hframes, heffects, hsent⟩

end TracedClient

end ZigpySpinel.Spinel
