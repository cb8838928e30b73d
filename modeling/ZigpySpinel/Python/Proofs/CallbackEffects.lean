import ZigpySpinel.Python.Proofs.Delivery

/-!
# Which frames the packet callback acts on

The callback sends, counts and delivers only for a frame that passes its filters and whose
network frame decrypts to a route request or to data of an application. The filter of the
destination looks at short addresses alone, so a frame for the long address of another
device passes it.
-/

namespace ZigpySpinel.Python
open Lib

/-! ## What a decrypted frame asks for -/

/-- What the callback acts on. -/
inductive Request where
  | routeRequest
  | data (aps : ZigbeeApsFrame)
  deriving DecidableEq, Repr

/-- What a decrypted frame asks of the callback, if anything. -/
def DecryptedZigbeeNwkFrame.request (frame : DecryptedZigbeeNwkFrame) :
    Except PyException (Option Request) := do
  let routeRequest ← isRouteRequest frame
  if routeRequest then .ok (some .routeRequest)
  else if frame.nwkHeader.frameControl.frameType ≠ .data then .ok none
  else do
    let aps ← ZigbeeApsFrame.fromBytes frame.payload
    if aps.frameControl.frameType ≠ .data then .ok none else .ok (some (.data aps))

variable (encryptBlock : Key → Block → Block)

/-- The callback does what the frame asks for, and nothing else. -/
theorem handleFrame_eq (answers : Answers) (r : ReceivedFrame) (s : CallbackState) :
    (handleFrame encryptBlock answers r s).1 =
      match r.decrypted.request with
      | .ok (some .routeRequest) =>
        (sendRouteReply encryptBlock answers r.ieeeFrame r.nwkFrame.nwkHeader s).1
      | .ok (some (.data aps)) => (handleAps encryptBlock answers r aps s).1
      | _ => s := by
  rw [handleFrame, DecryptedZigbeeNwkFrame.request]
  cases isRouteRequest r.decrypted with
  | error e => rfl
  | ok routeRequest =>
    cases routeRequest with
    | true =>
      rcases sendRouteReply encryptBlock answers r.ieeeFrame r.nwkFrame.nwkHeader s with
        ⟨t, e | status⟩
      · rfl
      · rfl
    | false =>
      by_cases htype : r.decrypted.nwkHeader.frameControl.frameType ≠ .data
      · simp only [if_pos htype, bind, Except.bind, Bool.false_eq_true, if_false]
      · simp only [if_neg htype, bind, Except.bind, Bool.false_eq_true, if_false]
        cases ZigbeeApsFrame.fromBytes r.decrypted.payload with
        | error e => rfl
        | ok aps =>
          by_cases haps : aps.frameControl.frameType ≠ .data
          · simp only [if_pos haps, handleAps]
          · simp only [if_neg haps]

/-- A frame that asks for application data holds an application data frame. -/
theorem DecryptedZigbeeNwkFrame.frameType_of_request {frame : DecryptedZigbeeNwkFrame}
    {aps : ZigbeeApsFrame} (h : frame.request = .ok (some (.data aps))) :
    aps.frameControl.frameType = .data := by
  obtain ⟨routeRequest, -, h⟩ := except_bind_eq_ok.mp h
  split at h
  · cases h
  · split at h
    · cases h
    · obtain ⟨aps', -, h⟩ := except_bind_eq_ok.mp h
      split at h
      · cases h
      next htype =>
        cases h
        exact not_not.mp htype

/-! ## The state after sending -/

theorem app_sendAttempts (answers : Answers) (frame : IEEE802154Frame) (remaining attempt : Nat)
    (s : CallbackState) : (sendAttempts answers frame remaining attempt s).1.app = s.app := by
  induction remaining generalizing attempt s with
  | zero => rfl
  | succ remaining ih =>
    rw [sendAttempts]
    cases streamRawValue s.app.channel frame with
    | error e => rfl
    | ok value =>
      dsimp only
      cases statusOf (answers attempt) with
      | error e => rfl
      | ok status =>
        dsimp only
        split
        · rw [ih, CallbackState.app_log]
        · rfl

/-- A reply leaves the application as the place that makes it does. -/
theorem app_sendReply (answers : Answers) (attempts : Nat) (ieeeFrame : IEEE802154Frame)
    (place : AppState → AppState × Option DecryptedZigbeeNwkFrame) (s : CallbackState) :
    (sendReply encryptBlock answers attempts ieeeFrame place s).1.app.toAppState =
      (place s.app.toAppState).1 := by
  unfold sendReply
  dsimp only
  split
  · rfl
  · rw [sendSpinelFrame, app_sendAttempts]

/-- An application frame that asks for no acknowledgement is delivered. -/
theorem handleAps_deliver (answers : Answers) (r : ReceivedFrame) {aps : ZigbeeApsFrame}
    (htype : aps.frameControl.frameType = .data) (hack : aps.frameControl.ackRequest = false)
    (s : CallbackState) :
    (handleAps encryptBlock answers r aps s).1 =
      s.log (.packetReceived (receivedPacket r.decrypted.nwkHeader aps)) := by
  rw [handleAps, if_neg (not_not.mpr htype), hack, if_neg Bool.false_ne_true]

/-- Where it asks for one, the acknowledgement comes first. -/
theorem handleAps_ack (answers : Answers) (r : ReceivedFrame) {aps : ZigbeeApsFrame}
    (htype : aps.frameControl.frameType = .data) (hack : aps.frameControl.ackRequest = true)
    (s : CallbackState) :
    let sent := (sendApsAck encryptBlock answers r.ieeeFrame r.nwkFrame.nwkHeader aps s).1
    (handleAps encryptBlock answers r aps s).1 = sent ∨
      (handleAps encryptBlock answers r aps s).1 =
        sent.log (.packetReceived (receivedPacket r.decrypted.nwkHeader aps)) := by
  rw [handleAps, if_neg (not_not.mpr htype), hack, if_pos rfl]
  rcases sendApsAck encryptBlock answers r.ieeeFrame r.nwkFrame.nwkHeader aps s with ⟨t, e | status⟩
  · exact .inl rfl
  · exact .inr rfl

/-! ## What the callback leaves alone -/

/-- Nothing is sent, no frame counter is used, and nothing is delivered. -/
structure CallbackState.Untouched (s : CallbackState) (app : PacketApp) : Prop where
  transmitted : s.transmitted = []
  txCounter : s.app.txCounter = app.txCounter
  received : s.received = []

theorem CallbackState.Untouched.start (app : PacketApp) : (CallbackState.start app).Untouched app :=
  ⟨rfl, rfl, rfl⟩

/-- A frame counter is used up before anything else of a reply is done. -/
theorem not_untouched_sendReply (answers : Answers) (attempts : Nat) (ieeeFrame : IEEE802154Frame)
    (place : AppState → AppState × Option DecryptedZigbeeNwkFrame)
    (hplace : ∀ app, (place app).1 = app.increment) {app : PacketApp} {s : CallbackState}
    (happ : s.app = (sendReply encryptBlock answers attempts ieeeFrame place (.start app)).1.app) :
    ¬ s.Untouched app := by
  intro h
  have hcounter := h.txCounter
  rw [happ, app_sendReply, hplace] at hcounter
  simp [AppState.increment, CallbackState.start] at hcounter

/-- A decrypted frame touches something exactly if it asks for something. -/
theorem untouched_handleFrame_iff (answers : Answers) (app : PacketApp) (r : ReceivedFrame) :
    (handleFrame encryptBlock answers r (.start app)).1.Untouched app ↔
      ∀ request, r.decrypted.request ≠ .ok (some request) := by
  rw [handleFrame_eq]
  cases hrequest : r.decrypted.request with
  | error e => exact iff_of_true (.start app) (by simp)
  | ok request =>
    cases request with
    | none => exact iff_of_true (.start app) (by simp)
    | some request =>
      refine iff_of_false ?_ (fun h => h request rfl)
      cases request with
      | routeRequest =>
        exact not_untouched_sendReply encryptBlock answers 5 r.ieeeFrame
          (AppState.sendRouteReply r.nwkFrame.nwkHeader) (fun _ => rfl) rfl
      | data aps =>
        dsimp only
        have htype := DecryptedZigbeeNwkFrame.frameType_of_request hrequest
        cases hack : aps.frameControl.ackRequest with
        | false =>
          rw [handleAps_deliver encryptBlock answers r htype hack]
          intro h
          have hreceived := h.received
          rw [CallbackState.received_log_packet] at hreceived
          exact List.append_ne_nil_of_right_ne_nil _ (List.cons_ne_nil _ _) hreceived
        | true =>
          apply not_untouched_sendReply encryptBlock answers 1 r.ieeeFrame
            (AppState.sendApsAck r.nwkFrame.nwkHeader aps) (fun _ => rfl)
          rcases handleAps_ack encryptBlock answers r htype hack (.start app) with hsent | hsent
          · rw [hsent, sendApsAck]
          · rw [hsent, CallbackState.app_log, sendApsAck]

/-- The network frame in a frame decrypts under the network key, and asks for something. -/
def PacketApp.Understands (app : PacketApp) (frame : IEEE802154Frame) : Prop :=
  ∃ nwkFrame decrypted request, ZigbeeNwkFrame.fromBytes frame.payload = .ok nwkFrame ∧
    nwkFrame.decrypt encryptBlock app.key = .ok decrypted ∧
    decrypted.request = .ok (some request)

/-- A frame touches something exactly if the filters let it through and it is understood. -/
theorem untouched_packetCallback_iff (answers : Answers) (app : PacketApp) {value : List UInt8}
    {frame : IEEE802154Frame} (h : parseFrame value = .ok frame) :
    (packetCallback encryptBlock answers app value).1.Untouched app ↔
      ¬ (app.ignores frame = false ∧ app.Understands encryptBlock frame) := by
  have hreceive : receive encryptBlock app value =
      if app.ignores frame then .ok none
      else ZigbeeNwkFrame.fromBytes frame.payload >>= fun nwkFrame =>
        nwkFrame.decrypt encryptBlock app.key >>= fun decrypted =>
          .ok (some { ieeeFrame := frame, nwkFrame := nwkFrame, decrypted := decrypted }) := by
    rw [receive, h]
    rfl
  rw [packetCallback, hreceive]
  cases hignores : app.ignores frame with
  | true =>
    rw [if_pos rfl]
    exact iff_of_true (.start app) (by simp)
  | false =>
    rw [if_neg Bool.false_ne_true]
    cases hnwk : ZigbeeNwkFrame.fromBytes frame.payload with
    | error e =>
      refine iff_of_true (.start app) ?_
      rintro ⟨-, nwkFrame, decrypted, request, hread, -⟩
      rw [hnwk] at hread
      cases hread
    | ok nwkFrame =>
      cases hdecrypt : nwkFrame.decrypt encryptBlock app.key with
      | error e =>
        simp only [hdecrypt, bind, Except.bind]
        refine iff_of_true (.start app) ?_
        rintro ⟨-, nwkFrame', decrypted, request, hread, hdecrypt', -⟩
        rw [hnwk] at hread
        cases hread
        rw [hdecrypt] at hdecrypt'
        cases hdecrypt'
      | ok decrypted =>
        simp only [hdecrypt, bind, Except.bind]
        rw [untouched_handleFrame_iff]
        constructor
        · rintro hnone ⟨-, nwkFrame', decrypted', request, hread, hdecrypt', hrequest⟩
          rw [hnwk] at hread
          cases hread
          rw [hdecrypt] at hdecrypt'
          cases hdecrypt'
          exact hnone request hrequest
        · intro hnot request hrequest
          exact hnot ⟨trivial, nwkFrame, decrypted, request, hnwk, hdecrypt, hrequest⟩

/-! ## Frames for other devices -/

/-- The destination is neither the short address nor the long address of this node, nor a
    short address from `0xFF00` on. -/
structure PacketApp.Elsewhere (app : PacketApp) (frame : IEEE802154Frame) : Prop where
  notNwk : frame.destAddress ≠ some (.nwk app.nwk)
  notIeee : frame.destAddress ≠ some (.eui64 app.ieee)
  notBroadcast : ∀ nwk, frame.destAddress = some (.nwk nwk) → nwk.value < 0xFF00

/-- Of the frames with another destination, the filters let through those data frames of this
    PAN that have a long one. -/
theorem PacketApp.ignores_elsewhere_iff {app : PacketApp} {frame : IEEE802154Frame}
    (hwf : frame.WellFormed) (h : app.Elsewhere frame) :
    app.ignores frame = false ↔ frame.frameControl.frameType = .data ∧
      frame.destPanId = some app.panId ∧ ∃ other, frame.destAddress = some (.eui64 other) := by
  have hannounces := hwf.destAddress
  have hpan := hwf.destPanId
  cases hmode : frame.frameControl.destAddrMode with
  | none =>
    rw [hmode] at hannounces hpan
    have hnone : frame.destPanId = none := by simpa [IEEE802154Frame.hasAddress] using hpan
    simp [PacketApp.ignores, hnone]
  | undefined0x01 =>
    rw [hmode] at hannounces hpan
    have hnone : frame.destPanId = none := by simpa [IEEE802154Frame.hasAddress] using hpan
    simp [PacketApp.ignores, hnone]
  | short =>
    rw [hmode] at hannounces
    obtain ⟨nwk, hnwk⟩ := hannounces
    have hne : nwk ≠ app.nwk := by
      rintro rfl
      exact h.notNwk hnwk
    have helsewhere : app.addressedElsewhere frame = true := by
      simp [PacketApp.addressedElsewhere, hmode, hnwk, h.notBroadcast nwk hnwk, hne]
    simp [PacketApp.ignores, helsewhere, hnwk]
  | long =>
    rw [hmode] at hannounces
    obtain ⟨eui64, heui64⟩ := hannounces
    have hpasses : app.addressedElsewhere frame = false := by
      rw [PacketApp.addressedElsewhere, hmode]
      rfl
    simp [PacketApp.ignores, hpasses, heui64]

/-- A frame for another device leaves everything as it is, exactly if it is not a data frame of
    this PAN for a long address that the callback understands. -/
theorem untouched_elsewhere_iff (answers : Answers) {app : PacketApp} {value : List UInt8}
    {frame : IEEE802154Frame} (h : parseFrame value = .ok frame) (helsewhere : app.Elsewhere frame) :
    (packetCallback encryptBlock answers app value).1.Untouched app ↔
      ¬ (frame.frameControl.frameType = .data ∧ frame.destPanId = some app.panId ∧
        (∃ other, frame.destAddress = some (.eui64 other)) ∧
        app.Understands encryptBlock frame) := by
  obtain ⟨⟨frameLen, data⟩, -, hread⟩ := except_bind_eq_ok.mp h
  have hwf := (IEEE802154Frame.of_fromBytes hread).1
  rw [untouched_packetCallback_iff encryptBlock answers app h,
    PacketApp.ignores_elsewhere_iff hwf helsewhere, and_assoc, and_assoc]

/-- The network frame of a route request of the node `0x1234`, encrypted. -/
def routeRequestBytes : List UInt8 :=
  [0x09, 0x12, 0xfc, 0xff, 0x34, 0x12, 0x1e, 0x01, 0x01, 0x02, 0x03, 0x04, 0x05, 0x06, 0x07, 0x08,
    0x28, 0x05, 0x00, 0x00, 0x00, 0x01, 0x02, 0x03, 0x04, 0x05, 0x06, 0x07, 0x08, 0x00,
    0xb9, 0x7c, 0x48, 0x2f, 0x4e, 0x80, 0x34, 0x38, 0x23, 0x29]

/-- It is sent to the long address of another device. -/
def otherDeviceValue : List UInt8 :=
  [0x39, 0x00, 0x61, 0x8c, 0x01, 0x0d, 0x9f, 0x08, 0x07, 0x06, 0x05, 0x04, 0x03, 0x02, 0x01,
    0x34, 0x12] ++ routeRequestBytes ++ [0x37, 0x97]

/-- The frame in this value. -/
def otherDeviceFrame : IEEE802154Frame where
  frameControl := { replyFrameControl with destAddrMode := .long }
  sequenceNumber := some 1
  destPanId := some 0x9f0d
  destAddress := some (.eui64 ⟨[0x08, 0x07, 0x06, 0x05, 0x04, 0x03, 0x02, 0x01], rfl⟩)
  srcPanId := some 0x9f0d
  srcAddress := some (.nwk ⟨0x1234⟩)
  payload := routeRequestBytes
  fcs := some [0x37, 0x97]

theorem parseFrame_otherDeviceValue : parseFrame otherDeviceValue = .ok otherDeviceFrame := by
  decide +kernel

theorem elsewhere_otherDeviceFrame :
    (PacketApp.loadNetworkInfo 0).Elsewhere otherDeviceFrame where
  notNwk := by decide
  notIeee := by decide
  notBroadcast := by
    intro nwk h
    cases h

/-- The coordinator answers it, and uses up a frame counter. -/
theorem otherDevice_answered :
    parseFrame otherDeviceValue = .ok otherDeviceFrame ∧
      (PacketApp.loadNetworkInfo 0).Elsewhere otherDeviceFrame ∧
      (packetCallback coordinatorAes okAnswers (PacketApp.loadNetworkInfo 0)
        otherDeviceValue).1.transmitted.length = 1 ∧
      (packetCallback coordinatorAes okAnswers (PacketApp.loadNetworkInfo 0)
        otherDeviceValue).1.app.txCounter = (PacketApp.loadNetworkInfo 0).txCounter + 1 := by
  refine ⟨parseFrame_otherDeviceValue, elsewhere_otherDeviceFrame, ?_, ?_⟩
  · decide +kernel
  · decide +kernel

theorem untouched_elsewhere_iff_otherDevice :
    (packetCallback coordinatorAes okAnswers (PacketApp.loadNetworkInfo 0)
        otherDeviceValue).1.Untouched (PacketApp.loadNetworkInfo 0) ↔
      ¬ (otherDeviceFrame.frameControl.frameType = .data ∧
        otherDeviceFrame.destPanId = some (PacketApp.loadNetworkInfo 0).panId ∧
        (∃ other, otherDeviceFrame.destAddress = some (.eui64 other)) ∧
        (PacketApp.loadNetworkInfo 0).Understands coordinatorAes otherDeviceFrame) :=
  untouched_elsewhere_iff coordinatorAes okAnswers parseFrame_otherDeviceValue
    elsewhere_otherDeviceFrame

end ZigpySpinel.Python
