import ZigpySpinel.Ieee802154.Proofs.NoPanic
import ZigpySpinel.Spinel.Proofs.Receivers
import ZigpySpinel.Spinel.Proofs.RxFrame
import ZigpySpinel.Tools.PacketCapture

/-!
# What a capture prints

The channel is fed by the reader and drained by the main task. What has gone through it is, in
order, a part of the updates in the stream since the registration, and all of them exactly if
the channel was never full where an update came. What is printed depends on nothing else.
-/

namespace ZigpySpinel.Tools
open Lib Spinel Ieee802154

/-- The update of `STREAM_RAW` that a frame brings, if it does. -/
def streamRawUpdate (frame : SpinelFrame) : Option SpinelFramePropValueIs :=
  (propertyUpdate frame).filter fun propValueIs =>
    propValueIs.propertyId = SpinelPropertyId.streamRaw

/-- The packet that is printed for an update, if any. -/
def printedPacket (streamRawProp : SpinelFramePropValueIs) :
    Option (SpinelRxFrame × Ieee802154Frame) :=
  match capturedPacket streamRawProp with
  | .ok packet => packet
  | .err _ => none
  | .panic _ => none

/-- The updates for which the main task panics: without the length of the PSDU, or with a frame
    control for PSDU that announces a sequence number. -/
def Fatal (streamRawProp : SpinelFramePropValueIs) : Prop :=
  streamRawProp.value.length < 2 ∨
    ∃ packet, SpinelRxFrame.fromBytes streamRawProp.value = .ok packet ∧
      ∃ b0 b1, Ieee802154Frame.BareControl b0 b1 ∧ packet.psdu = [b0, b1]

theorem noPanic_capturedPacket_iff (streamRawProp : SpinelFramePropValueIs) :
    (capturedPacket streamRawProp).NoPanic ↔ ¬ Fatal streamRawProp := by
  by_cases hshort : streamRawProp.value.length < 2
  · rw [capturedPacket, SpinelRxFrame.fromBytes_of_short hshort]
    exact ⟨fun h => absurd rfl (h _), fun h => absurd (.inl hshort) h⟩
  · rw [Fatal, or_iff_right hshort, capturedPacket]
    cases hread : SpinelRxFrame.fromBytes streamRawProp.value with
    | ok packet =>
      have hpsdu : (Ieee802154Frame.fromBytesWithoutFcs packet.psdu).NoPanic ↔ _ :=
        Ieee802154Frame.noPanic_fromBytesWithoutFcs_iff
      simp only [Outcome.ok.injEq, exists_eq_left']
      rw [← hpsdu]
      cases Ieee802154Frame.fromBytesWithoutFcs packet.psdu with
      | ok frame => exact iff_of_true (Outcome.noPanic_ok _) (Outcome.noPanic_ok _)
      | err e => exact iff_of_true (Outcome.noPanic_ok _) (Outcome.noPanic_err _)
      | panic m => exact iff_of_false (fun h => h m rfl) (fun h => h m rfl)
    | err e => simp [Outcome.noPanic_ok]
    | panic m =>
      have hlong : 2 ≤ streamRawProp.value.length := Nat.not_lt.mp hshort
      rcases hvalue : streamRawProp.value with _ | ⟨lo, _ | ⟨hi, rest⟩⟩
      · simp [hvalue] at hlong
      · simp [hvalue] at hlong
      · rw [hvalue] at hread
        exact absurd hread ((SpinelRxFrame.faithful_cons lo hi rest).1 m)

namespace PacketCapture

variable (crcKermit : List UInt8 → UInt16)

/-! ## What the steps do to the stream -/

/-- The bytes that a step reads. -/
def bytesOf : CaptureAction → List UInt8
  | .read bytes => bytes
  | .readFailed => []
  | .handle => []
  | .request => []
  | .call _ => []
  | .answered => []
  | .listen => []
  | .recv => []

/-- All bytes that the reader gets. -/
def bytesRead (actions : List CaptureAction) : List UInt8 := actions.flatMap bytesOf

/-- The frame that a step handles. -/
def handledBy (s : PacketCapture) : CaptureAction → List SpinelFrame
  | .handle => s.parsed.head?.toList
  | .read _ => []
  | .readFailed => []
  | .request => []
  | .call _ => []
  | .answered => []
  | .listen => []
  | .recv => []

theorem step_det (s : PacketCapture) (action : CaptureAction) (t t' : PacketCapture)
    (h : s.Step crcKermit action t) (h' : s.Step crcKermit action t') : t = t' :=
  Option.some.inj (h.2.symm.trans h'.2)

theorem step_read {s s' : PacketCapture} {bytes : List UInt8}
    (h : s.Step crcKermit (.read bytes) s') :
    s.reading = true ∧ s.parsed = [] ∧ s' = s.read crcKermit bytes := by
  obtain ⟨⟨hreading, hparsed, -⟩, heq⟩ := Option.ite_none_right_eq_some.mp h.2
  exact ⟨hreading, hparsed, (Option.some.inj heq).symm⟩

theorem step_readFailed {s s' : PacketCapture} (h : s.Step crcKermit .readFailed s') :
    s' = { s with reading := false } := by
  obtain ⟨-, heq⟩ := Option.ite_none_right_eq_some.mp h.2
  exact (Option.some.inj heq).symm

theorem step_handle {s s' : PacketCapture} (h : s.Step crcKermit .handle s') :
    ∃ frame frames, s.parsed = frame :: frames ∧ s' = s.handle frame frames := by
  have hstep := h.2
  simp only [step] at hstep
  split at hstep
  · cases hstep
  · rename_i frame frames hparsed
    exact ⟨frame, frames, hparsed, (Option.some.inj hstep).symm⟩

theorem step_call {s s' : PacketCapture} {action : Action}
    (h : s.Step crcKermit (.call action) s') :
    ∃ client, s.client.step action = some client ∧ s' = { s with client := client } := by
  have hstep := h.2
  simp only [step] at hstep
  split at hstep
  · cases hstep
  · cases hstep
  · split at hstep
    · cases hstep
    · obtain ⟨client, hclient, rfl⟩ := Option.map_eq_some_iff.mp hstep
      exact ⟨client, hclient, rfl⟩

theorem step_request {s s' : PacketCapture} (h : s.Step crcKermit .request s') :
    ∃ request todo, s.main = .requesting (request :: todo) ∧ s.parsed = [] ∧
      s' = s.request request todo := by
  have hstep := h.2
  simp only [step] at hstep
  split at hstep
  · rename_i request todo hmain hparsed
    exact ⟨request, todo, hmain, hparsed, (Option.some.inj hstep).symm⟩
  · cases hstep

theorem step_answered {s s' : PacketCapture} (h : s.Step crcKermit .answered s') :
    ∃ call request todo result, s.main = .awaiting call request todo ∧
      s' = s.answered request todo result := by
  have hstep := h.2
  simp only [step] at hstep
  split at hstep
  · rename_i call request todo hmain
    split at hstep
    · rename_i result hphase
      exact ⟨call, request, todo, result, hmain, (Option.some.inj hstep).symm⟩
    · cases hstep
  · cases hstep

theorem step_listen {s s' : PacketCapture} (h : s.Step crcKermit .listen s') :
    s.main = .requesting [] ∧ s.parsed = [] ∧ s' = s.listen := by
  have hstep := h.2
  simp only [step] at hstep
  split at hstep
  · rename_i hmain hparsed
    exact ⟨hmain, hparsed, (Option.some.inj hstep).symm⟩
  · cases hstep

theorem step_recv {s s' : PacketCapture} (h : s.Step crcKermit .recv s') :
    ∃ streamRawProp streamRaw, s.main = .listening ∧
      s.streamRaw.recv = some (streamRawProp, streamRaw) ∧ s' = s.recv streamRawProp streamRaw := by
  have hstep := h.2
  simp only [step] at hstep
  split at hstep
  · rename_i streamRawProp streamRaw hmain hrecv
    exact ⟨streamRawProp, streamRaw, hmain, hrecv, (Option.some.inj hstep).symm⟩
  · cases hstep

/-- The only receiver is that of `STREAM_RAW`. -/
def Registered (s : PacketCapture) : Prop :=
  s.client.protocol.propertyUpdateReceivers =
    Function.update (fun _ => none) SpinelPropertyId.streamRaw (some streamRawTx)

/-! ## The stream -/

theorem read_frames {s : PacketCapture} (hs : HdlcSpecial.flag.toU8 ∉ s.client.protocol.buffer)
    (hparsed : s.parsed = []) (bytes : List UInt8) :
    (s.read crcKermit bytes).client.protocol.buffer =
        unfinished (s.client.protocol.buffer ++ bytes) ∧
      (s.read crcKermit bytes).parsed =
        SpinelProtocol.streamFrames crcKermit (s.client.protocol.buffer ++ bytes) := by
  cases bytes with
  | nil =>
    obtain ⟨hbuffer, hframes⟩ := quiet_of_unflagged crcKermit hs
    rw [hbuffer, hframes]
    exact ⟨rfl, hparsed⟩
  | cons byte bytes =>
    have hparse := SpinelProtocol.parseFramesFromBytesInto_eq crcKermit s.client.protocol
      (byte :: bytes) []
    simp only [read, SpinelProtocol.parseFramesFromBytes, hparse]
    exact ⟨rfl, rfl⟩

/-- The frames that a read completes are those that wait to be handled, and those that a step
    handles are no longer among them. -/
theorem step_frames {s s' : PacketCapture} {action : CaptureAction}
    (hs : HdlcSpecial.flag.toU8 ∉ s.client.protocol.buffer) (h : s.Step crcKermit action s') :
    s'.client.protocol.buffer = unfinished (s.client.protocol.buffer ++ bytesOf action) ∧
      s.handledBy action ++ s'.parsed =
        s.parsed ++ SpinelProtocol.streamFrames crcKermit
          (s.client.protocol.buffer ++ bytesOf action) := by
  obtain ⟨hbuffer, hframes⟩ := quiet_of_unflagged crcKermit hs
  cases action with
  | read bytes =>
    obtain ⟨-, hparsed, rfl⟩ := step_read crcKermit h
    obtain ⟨hrest, hread⟩ := read_frames crcKermit hs hparsed bytes
    rw [hparsed]
    exact ⟨hrest, hread⟩
  | readFailed =>
    obtain rfl := step_readFailed crcKermit h
    rw [bytesOf, hbuffer, hframes, List.append_nil]
    exact ⟨rfl, rfl⟩
  | handle =>
    obtain ⟨frame, frames, hparsed, rfl⟩ := step_handle crcKermit h
    rw [bytesOf, hbuffer, hframes, List.append_nil, handledBy, hparsed]
    exact ⟨SpinelProtocol.handleInboundFrame_buffer _ frame, rfl⟩
  | request =>
    obtain ⟨request, todo, -, -, rfl⟩ := step_request crcKermit h
    rw [bytesOf, hbuffer, hframes, List.append_nil, PacketCapture.request]
    split
    all_goals exact ⟨rfl, rfl⟩
  | call action =>
    obtain ⟨client, hclient, rfl⟩ := step_call crcKermit h
    rw [bytesOf, hbuffer, hframes, List.append_nil]
    exact ⟨SpinelClient.step_buffer hclient, rfl⟩
  | answered =>
    obtain ⟨_, request, todo, result, -, rfl⟩ := step_answered crcKermit h
    rw [bytesOf, hbuffer, hframes, List.append_nil, PacketCapture.answered]
    split
    all_goals exact ⟨rfl, rfl⟩
  | listen =>
    obtain ⟨-, -, rfl⟩ := step_listen crcKermit h
    rw [bytesOf, hbuffer, hframes, List.append_nil]
    exact ⟨rfl, rfl⟩
  | recv =>
    obtain ⟨streamRawProp, streamRaw, -, -, rfl⟩ := step_recv crcKermit h
    rw [bytesOf, hbuffer, hframes, List.append_nil, PacketCapture.recv]
    dsimp only
    split
    all_goals exact ⟨rfl, rfl⟩

theorem bytesRead_snoc (actions : List CaptureAction) (action : CaptureAction) :
    bytesRead (actions ++ [action]) = bytesRead actions ++ bytesOf action := by
  rw [bytesRead, List.flatMap_append, List.flatMap_singleton]
  rfl

theorem buffer_of_run {s s' : PacketCapture} {actions : List CaptureAction}
    (hs : HdlcSpecial.flag.toU8 ∉ s.client.protocol.buffer)
    (h : Run (Step crcKermit) s actions s') :
    s'.client.protocol.buffer = unfinished (s.client.protocol.buffer ++ bytesRead actions) := by
  refine h.inv_labels
    (fun actions s' => s'.client.protocol.buffer =
      unfinished (s.client.protocol.buffer ++ bytesRead actions))
    (fun actions s₁ action s₂ hbuffer hstep => ?_)
    (quiet_of_unflagged crcKermit hs).1.symm
  have hunflagged : HdlcSpecial.flag.toU8 ∉ s₁.client.protocol.buffer := by
    rw [hbuffer]
    exact notMem_segments_snd _
  rw [(step_frames crcKermit hunflagged hstep).1, hbuffer, bytesRead_snoc, ← List.append_assoc,
    ← unfinished_append]

/-! ## Before the registration -/

/-- Nothing has been captured. -/
structure Quiet (s : PacketCapture) : Prop where
  receivers : s.client.protocol.propertyUpdateReceivers = fun _ => none
  queue : s.streamRaw.queue = []
  received : s.received = []
  printed : s.printed = []

/-- Up to the registration nothing is captured. -/
def QuietUntilListening (s : PacketCapture) : Prop :=
  s.Quiet ∨ s.main = .listening ∨ s.main = .panicked

theorem handle_receivers (s : PacketCapture) (frame : SpinelFrame) (frames : List SpinelFrame) :
    (s.handle frame frames).client.protocol.propertyUpdateReceivers =
      s.client.protocol.propertyUpdateReceivers :=
  SpinelProtocol.handleInboundFrame_propertyUpdateReceivers _ frame

theorem toStreamRaw_eq (effect : Effect) :
    toStreamRaw effect =
      effect.sentUpdate.bind fun sent => if sent.1 = streamRawTx then some sent.2 else none := by
  cases effect <;> rfl

/-- What a frame sends into the channel: the update that it brings, if its property has the
    channel for receiver. -/
theorem handleInboundFrame_sent (s : SpinelProtocol) (frame : SpinelFrame) :
    (s.handleInboundFrame frame).2.filterMap toStreamRaw =
      ((propertyUpdate frame).filter fun propValueIs =>
        s.propertyUpdateReceivers propValueIs.propertyId = some streamRawTx).toList := by
  rw [funext toStreamRaw_eq, ← List.filterMap_filterMap, s.handleInboundFrame_sentUpdate]
  cases propertyUpdate frame with
  | none => rfl
  | some propValueIs =>
    cases hreceiver : s.propertyUpdateReceivers propValueIs.propertyId with
    | none => simp [hreceiver, Option.filter]
    | some receiver =>
      by_cases heq : receiver = streamRawTx
      · simp [hreceiver, heq, Option.filter]
      · simp [hreceiver, heq, Option.filter]

theorem Registered.sent {s : PacketCapture} (hs : s.Registered) (frame : SpinelFrame) :
    (s.client.protocol.handleInboundFrame frame).2.filterMap toStreamRaw =
      (streamRawUpdate frame).toList := by
  have hreceiver : ∀ propertyId,
      s.client.protocol.propertyUpdateReceivers propertyId = some streamRawTx ↔
        propertyId = SpinelPropertyId.streamRaw := by
    intro propertyId
    rw [hs]
    by_cases h : propertyId = SpinelPropertyId.streamRaw
    · rw [h, Function.update_self]
      simp
    · rw [Function.update_of_ne h]
      simp [h]
  simp only [handleInboundFrame_sent, hreceiver, streamRawUpdate]

theorem Quiet.sent {s : PacketCapture} (hs : s.Quiet) (frame : SpinelFrame) :
    (s.client.protocol.handleInboundFrame frame).2.filterMap toStreamRaw = [] := by
  rw [handleInboundFrame_sent, hs.receivers]
  simp

theorem Quiet.handle {s : PacketCapture} (hs : s.Quiet) (frame : SpinelFrame)
    (frames : List SpinelFrame) : (s.handle frame frames).Quiet where
  receivers := (handle_receivers s frame frames).trans hs.receivers
  queue := by
    simp only [PacketCapture.handle, hs.sent, List.foldl_nil, hs.queue]
  received := hs.received
  printed := hs.printed

theorem Quiet.read {s : PacketCapture} (hs : s.Quiet) (bytes : List UInt8) :
    (s.read crcKermit bytes).Quiet := by
  cases bytes with
  | nil => exact ⟨hs.receivers, hs.queue, hs.received, hs.printed⟩
  | cons byte bytes => exact ⟨hs.receivers, hs.queue, hs.received, hs.printed⟩

/-! ## From the registration on -/

/-- Nothing but the stream and the calls has changed. -/
structure Alike (s s' : PacketCapture) : Prop where
  receivers : s'.client.protocol.propertyUpdateReceivers = s.client.protocol.propertyUpdateReceivers
  main : s'.main = s.main
  streamRaw : s'.streamRaw = s.streamRaw
  received : s'.received = s.received
  printed : s'.printed = s.printed

theorem alike_read (s : PacketCapture) (bytes : List UInt8) : Alike s (s.read crcKermit bytes) := by
  cases bytes with
  | nil => exact ⟨rfl, rfl, rfl, rfl, rfl⟩
  | cons byte bytes => exact ⟨rfl, rfl, rfl, rfl, rfl⟩

/-- The main task listens for good, so that only two steps touch the channel. -/
theorem step_listening {s s' : PacketCapture} {action : CaptureAction} (hs : s.main = .listening)
    (h : s.Step crcKermit action s') : action = .handle ∨ action = .recv ∨ Alike s s' := by
  cases action with
  | read bytes =>
    obtain ⟨-, -, rfl⟩ := step_read crcKermit h
    exact .inr (.inr (alike_read crcKermit s bytes))
  | readFailed =>
    obtain rfl := step_readFailed crcKermit h
    exact .inr (.inr ⟨rfl, rfl, rfl, rfl, rfl⟩)
  | handle => exact .inl rfl
  | request =>
    obtain ⟨_, _, hmain, -⟩ := step_request crcKermit h
    rw [hs] at hmain
    cases hmain
  | call action =>
    obtain ⟨client, hclient, rfl⟩ := step_call crcKermit h
    exact .inr (.inr ⟨SpinelClient.step_propertyUpdateReceivers hclient, rfl, rfl, rfl, rfl⟩)
  | answered =>
    obtain ⟨_, _, _, _, hmain, -⟩ := step_answered crcKermit h
    rw [hs] at hmain
    cases hmain
  | listen =>
    obtain ⟨hmain, -, -⟩ := step_listen crcKermit h
    rw [hs] at hmain
    cases hmain
  | recv => exact .inr (.inl rfl)

/-- What a pass of the main task's loop leaves. -/
theorem recv_spec (s : PacketCapture) (streamRawProp : SpinelFramePropValueIs)
    (streamRaw : BoundedChannel SpinelFramePropValueIs 32) :
    let s' := s.recv streamRawProp streamRaw
    s'.streamRaw = streamRaw ∧ s'.received = s.received ++ [streamRawProp] ∧
      s'.client = s.client ∧ s'.printed = s.printed ++ (printedPacket streamRawProp).toList ∧
      (Fatal streamRawProp ∧ s'.main = .panicked ∨ ¬ Fatal streamRawProp ∧ s'.main = s.main) := by
  have hfatal := noPanic_capturedPacket_iff streamRawProp
  simp only [recv, printedPacket]
  cases hpacket : capturedPacket streamRawProp with
  | ok packet =>
    rw [hpacket] at hfatal
    exact ⟨rfl, rfl, rfl, rfl, .inr ⟨hfatal.mp (Outcome.noPanic_ok packet), rfl⟩⟩
  | err e => exact e.elim
  | panic m =>
    rw [hpacket] at hfatal
    have hpanics : Fatal streamRawProp := by
      by_contra hnot
      exact hfatal.mpr hnot m rfl
    exact ⟨rfl, rfl, rfl, (List.append_nil _).symm, .inl ⟨hpanics, rfl⟩⟩

theorem QuietUntilListening.step {s s' : PacketCapture} {action : CaptureAction}
    (hs : s.QuietUntilListening) (h : s.Step crcKermit action s') : s'.QuietUntilListening := by
  rcases hs with hs | hs | hs
  · cases action with
    | read bytes =>
      obtain ⟨-, -, rfl⟩ := step_read crcKermit h
      exact .inl (hs.read crcKermit bytes)
    | readFailed =>
      obtain rfl := step_readFailed crcKermit h
      exact .inl ⟨hs.receivers, hs.queue, hs.received, hs.printed⟩
    | handle =>
      obtain ⟨frame, frames, -, rfl⟩ := step_handle crcKermit h
      exact .inl (hs.handle frame frames)
    | request =>
      obtain ⟨request, todo, -, -, rfl⟩ := step_request crcKermit h
      rw [PacketCapture.request]
      split
      all_goals exact .inl ⟨hs.receivers, hs.queue, hs.received, hs.printed⟩
    | call action =>
      obtain ⟨client, hclient, rfl⟩ := step_call crcKermit h
      have hreceivers := SpinelClient.step_propertyUpdateReceivers hclient
      exact .inl ⟨hreceivers.trans hs.receivers, hs.queue, hs.received, hs.printed⟩
    | answered =>
      obtain ⟨_, request, todo, result, -, rfl⟩ := step_answered crcKermit h
      rw [PacketCapture.answered]
      split
      all_goals exact .inl ⟨hs.receivers, hs.queue, hs.received, hs.printed⟩
    | listen =>
      obtain ⟨-, -, rfl⟩ := step_listen crcKermit h
      exact .inr (.inl rfl)
    | recv =>
      obtain ⟨streamRawProp, streamRaw, -, hrecv, rfl⟩ := step_recv crcKermit h
      have hqueue := BoundedChannel.recv_eq_some hrecv
      rw [hs.queue] at hqueue
      cases hqueue
  · rcases step_listening crcKermit hs h with rfl | rfl | halike
    · obtain ⟨frame, frames, -, rfl⟩ := step_handle crcKermit h
      exact .inr (.inl hs)
    · obtain ⟨streamRawProp, streamRaw, -, -, rfl⟩ := step_recv crcKermit h
      obtain ⟨-, -, -, -, ⟨-, hmain⟩ | ⟨-, hmain⟩⟩ := recv_spec s streamRawProp streamRaw
      · exact .inr (.inr hmain)
      · exact .inr (.inl (hmain.trans hs))
    · exact .inr (.inl (halike.main.trans hs))
  · exact absurd hs h.1

/-- The frame that is handled next brings an update only if there is room for it. -/
def HasRoom (s : PacketCapture) : CaptureAction → Prop
  | .handle => ∀ frame ∈ s.parsed.head?, (streamRawUpdate frame).isSome → s.streamRaw.HasRoom
  | .read _ => True
  | .readFailed => True
  | .request => True
  | .call _ => True
  | .answered => True
  | .listen => True
  | .recv => True

theorem hasRoom_of_ne {s : PacketCapture} {action : CaptureAction} (h : action ≠ .handle) :
    s.HasRoom action := by
  cases action <;> trivial

/-- The state after these steps, which began at the registration. -/
structure Capturing (s₁ : PacketCapture) (actions : List CaptureAction) (s : PacketCapture) :
    Prop where
  run : Run (Step crcKermit) s₁ actions s
  main : s.main = .listening ∨ s.main = .panicked
  registered : s.Registered
  /-- what has gone through the channel, of the frames that have been handled -/
  channel : ∃ handled, handled ++ s.parsed =
      SpinelProtocol.streamFrames crcKermit (s₁.client.protocol.buffer ++ bytesRead actions) ∧
    (s.received ++ s.streamRaw.queue).Sublist (handled.filterMap streamRawUpdate) ∧
    (s.received ++ s.streamRaw.queue = handled.filterMap streamRawUpdate ↔
      Run (guarded HasRoom (Step crcKermit)) s₁ actions s)
  printed : s.printed = s.received.filterMap printedPacket
  panicked : s.main = .panicked ↔ ∃ p ∈ s.received, Fatal p


theorem filterMap_singleton {α β : Type} (f : α → Option β) (x : α) :
    [x].filterMap f = (f x).toList := by
  cases hx : f x with
  | none => rw [List.filterMap_cons_none hx]; rfl
  | some y => rw [List.filterMap_cons_some hx]; rfl

section Capturing

variable {s₁ s s' : PacketCapture} {actions : List CaptureAction}

/-- Every state of the run has handled or still has to handle the frames of the stream. -/
theorem capturing_frames (hs₁ : HdlcSpecial.flag.toU8 ∉ s₁.client.protocol.buffer)
    (hrun : Run (Step crcKermit) s₁ actions s) {action : CaptureAction}
    (h : s.Step crcKermit action s') {handled : List SpinelFrame}
    (hframes : handled ++ s.parsed =
      SpinelProtocol.streamFrames crcKermit (s₁.client.protocol.buffer ++ bytesRead actions)) :
    (handled ++ s.handledBy action) ++ s'.parsed =
      SpinelProtocol.streamFrames crcKermit
        (s₁.client.protocol.buffer ++ bytesRead (actions ++ [action])) := by
  have hbuffer := buffer_of_run crcKermit hs₁ hrun
  have hunflagged : HdlcSpecial.flag.toU8 ∉ s.client.protocol.buffer := by
    rw [hbuffer]
    exact notMem_segments_snd _
  obtain ⟨-, hstep⟩ := step_frames crcKermit hunflagged h
  rw [List.append_assoc, hstep, ← List.append_assoc, hframes, hbuffer, bytesRead_snoc,
    ← List.append_assoc]
  exact (SpinelProtocol.streamFrames_append crcKermit _ _).symm

theorem Capturing.guarded_iff (hs : Capturing crcKermit s₁ actions s) {action : CaptureAction}
    (h : s.Step crcKermit action s') :
    Run (guarded HasRoom (Step crcKermit)) s₁ (actions ++ [action]) s' ↔
      Run (guarded HasRoom (Step crcKermit)) s₁ actions s ∧ s.HasRoom action :=
  Run.guarded_snoc_iff (step_det crcKermit) hs.run h

theorem Capturing.handle (hs : Capturing crcKermit s₁ actions s)
    (hs₁ : HdlcSpecial.flag.toU8 ∉ s₁.client.protocol.buffer)
    (h : s.Step crcKermit .handle s') : Capturing crcKermit s₁ (actions ++ [.handle]) s' := by
  have hguard := hs.guarded_iff crcKermit h
  obtain ⟨handled, hframes, hsub, hiff⟩ := hs.channel
  have hnext := capturing_frames crcKermit hs₁ hs.run h hframes
  have hrun : Run (Step crcKermit) s₁ (actions ++ [.handle]) s' := .snoc hs.run h
  obtain ⟨frame, frames, hparsed, rfl⟩ := step_handle crcKermit h
  have hreceivers := handle_receivers s frame frames
  rw [handledBy, hparsed] at hnext
  have hsent := hs.registered.sent frame
  refine ⟨hrun, hs.main, hreceivers.trans hs.registered, ⟨handled ++ [frame], hnext, ?_⟩,
    hs.printed, hs.panicked⟩
  rw [List.filterMap_append, filterMap_singleton, hguard]
  have hqueue : (s.handle frame frames).streamRaw =
      (streamRawUpdate frame).toList.foldl BoundedChannel.send s.streamRaw := by
    rw [← hsent]
    rfl
  have hreceived : (s.handle frame frames).received = s.received := rfl
  rw [hqueue, hreceived]
  cases hupdate : streamRawUpdate frame with
  | none =>
    have hroom : s.HasRoom .handle := by
      intro f hf hsome
      rw [hparsed] at hf
      cases hf
      rw [hupdate] at hsome
      cases hsome
    simp only [Option.toList_none, List.foldl_nil, List.append_nil, and_iff_left hroom]
    exact ⟨hsub, hiff⟩
  | some update =>
    simp only [Option.toList_some, List.foldl_cons, List.foldl_nil]
    by_cases hfree : s.streamRaw.HasRoom
    · have hroom : s.HasRoom .handle := fun _ _ _ => hfree
      rw [BoundedChannel.send_of_hasRoom hfree, ← List.append_assoc, and_iff_left hroom]
      refine ⟨hsub.append_right _, ?_⟩
      rw [List.append_left_inj]
      exact hiff
    · have hfull : ¬ s.HasRoom .handle := by
        intro hroom
        exact hfree (hroom frame (by rw [hparsed]; rfl) (by rw [hupdate]; rfl))
      rw [BoundedChannel.send_of_full hfree]
      refine ⟨hsub.trans (List.sublist_append_left _ _), ?_⟩
      constructor
      · intro heq
        have hle := hsub.length_le
        rw [heq, List.length_append, List.length_singleton] at hle
        omega
      · intro hroom
        exact absurd hroom.2 hfull

theorem Capturing.recv (hs : Capturing crcKermit s₁ actions s)
    (hs₁ : HdlcSpecial.flag.toU8 ∉ s₁.client.protocol.buffer)
    (h : s.Step crcKermit .recv s') : Capturing crcKermit s₁ (actions ++ [.recv]) s' := by
  have hguard := hs.guarded_iff crcKermit h
  obtain ⟨handled, hframes, hsub, hiff⟩ := hs.channel
  have hnext := capturing_frames crcKermit hs₁ hs.run h hframes
  have hrun : Run (Step crcKermit) s₁ (actions ++ [.recv]) s' := .snoc hs.run h
  obtain ⟨update, streamRaw, hmain, hrecv, rfl⟩ := step_recv crcKermit h
  obtain ⟨hqueue, hreceived, hclient, hprinted, hend⟩ := recv_spec s update streamRaw
  have hparts : (s.recv update streamRaw).received ++ (s.recv update streamRaw).streamRaw.queue =
      s.received ++ s.streamRaw.queue := by
    rw [hqueue, hreceived, BoundedChannel.recv_eq_some hrecv, List.append_assoc]
    rfl
  have hroom : s.HasRoom .recv := trivial
  have hnone : ¬ ∃ p ∈ s.received, Fatal p := by
    intro hfatal
    rw [← hs.panicked, hmain] at hfatal
    cases hfatal
  refine ⟨hrun, ?_, ?_, ⟨handled, ?_, ?_, ?_⟩, ?_, ?_⟩
  · rcases hend with ⟨-, hend⟩ | ⟨-, hend⟩
    · exact .inr hend
    · exact .inl (hend.trans hmain)
  · rw [Registered, hclient]
    exact hs.registered
  · rwa [handledBy, List.append_nil] at hnext
  · rw [hparts]
    exact hsub
  · rw [hparts, hguard, and_iff_left hroom]
    exact hiff
  · rw [hprinted, hreceived, hs.printed, List.filterMap_append, filterMap_singleton]
  · rw [hreceived]
    simp only [List.mem_append, List.mem_singleton, or_and_right, exists_or, exists_eq_left,
      or_iff_right hnone]
    rcases hend with ⟨hfatal, hend⟩ | ⟨hfatal, hend⟩
    · simp [hfatal, hend]
    · simp [hfatal, hend, hmain]

theorem Capturing.other (hs : Capturing crcKermit s₁ actions s)
    (hs₁ : HdlcSpecial.flag.toU8 ∉ s₁.client.protocol.buffer) {action : CaptureAction}
    (h : s.Step crcKermit action s') (halike : Alike s s') (hne : action ≠ .handle) :
    Capturing crcKermit s₁ (actions ++ [action]) s' := by
  have hguard := hs.guarded_iff crcKermit h
  obtain ⟨handled, hframes, hsub, hiff⟩ := hs.channel
  have hnext := capturing_frames crcKermit hs₁ hs.run h hframes
  have hnothing : s.handledBy action = [] := by
    cases action <;> first | rfl | exact absurd rfl hne
  rw [hnothing, List.append_nil] at hnext
  refine ⟨.snoc hs.run h, ?_, halike.receivers.trans hs.registered, ⟨handled, hnext, ?_, ?_⟩, ?_, ?_⟩
  · rw [halike.main]
    exact hs.main
  · rw [halike.received, halike.streamRaw]
    exact hsub
  · rw [halike.received, halike.streamRaw, hguard, and_iff_left (hasRoom_of_ne hne)]
    exact hiff
  · rw [halike.printed, halike.received]
    exact hs.printed
  · rw [halike.main, halike.received]
    exact hs.panicked

theorem Capturing.step (hs : Capturing crcKermit s₁ actions s)
    (hs₁ : HdlcSpecial.flag.toU8 ∉ s₁.client.protocol.buffer) {action : CaptureAction}
    (h : s.Step crcKermit action s') : Capturing crcKermit s₁ (actions ++ [action]) s' := by
  have hmain : s.main = .listening := hs.main.resolve_right h.1
  by_cases hhandle : action = .handle
  · subst hhandle
    exact hs.handle crcKermit hs₁ h
  · rcases step_listening crcKermit hmain h with heq | rfl | halike
    · exact absurd heq hhandle
    · exact hs.recv crcKermit hs₁ h
    · exact hs.other crcKermit hs₁ h halike hhandle

end Capturing

/-- The process has ended. -/
def ended (s : PacketCapture) : Bool :=
  match s.main with
  | .panicked => true
  | .requesting _ => false
  | .awaiting _ _ _ => false
  | .listening => false

/-- The steps one after the other, as far as they can be taken. -/
def stepAll (s : PacketCapture) (actions : List CaptureAction) : Option PacketCapture :=
  actions.foldlM (fun s action => if s.ended then none else s.step crcKermit action) s

theorem run_of_stepAll {s s' : PacketCapture} {actions : List CaptureAction}
    (h : s.stepAll crcKermit actions = some s') : Run (Step crcKermit) s actions s' := by
  refine (Run.of_foldlM h).mono fun s action s' hstep => ?_
  obtain ⟨hended, hstep⟩ := Option.ite_none_left_eq_some.mp hstep
  refine ⟨fun hpanicked => hended ?_, hstep⟩
  rw [ended, hpanicked]

/-- A value of a property as it is on the wire. -/
def propValueIs (tid : UInt8) (payload : List UInt8) : List UInt8 :=
  let frame : SpinelFrame := {
    header := { flag := 0b10, networkLinkId := 0, transactionId := tid }
    commandId := SpinelCommandId.propValueIs
    payload := payload }
  frame.encoded fun _ => 0x7FA1

end PacketCapture

end ZigpySpinel.Tools
