import ZigpySpinel.Python.Network
import ZigpySpinel.Python.Proofs.SentPackets

/-!
# From one application to another

What `send_packet` gives to the radio of one node is what the packet callback of another node
reads, if this one has the same network key: the 802.15.4 frame, the network frame, its
encryption and the application frame are each read as they were written. The packet that
`zigpy` gets there has the fields of the one that was sent.
-/

namespace ZigpySpinel.Python
open Lib

/-! ## From radio to radio -/

/-- What is written of a frame between two short addresses is read back, with its check
    sequence. -/
theorem fromBytes_serialize_short {sequenceNumber : UInt8} {panId : UInt16} {destination source : Nwk}
    {payload data : List UInt8}
    (h : (replyOf sequenceNumber panId (some (.nwk destination)) (some (.nwk source))
      payload).serialize = .ok data) :
    ∃ fcs, IEEE802154Frame.fromBytes data =
      .ok { readReplyOf sequenceNumber panId destination source with
        payload := payload, fcs := some fcs } := by
  rw [serialize_replyOf] at h
  have hdata := Except.ok.inj h
  generalize hfcs : u16ToLeBytes (Ieee802154.Ieee802154Frame.computeFcs _) = fcs at hdata
  have hfcsLength : fcs.length = 2 := by rw [← hfcs, length_u16ToLeBytes]
  have hsplit : data = (readReplyOf sequenceNumber panId destination source).header
      (IEEE802154Frame.hasSrcPanId replyFrameControl) ++ (payload ++ fcs) := by
    rw [← hdata]
    simp only [List.append_assoc]
    rfl
  have htake : (payload ++ fcs).take ((payload ++ fcs).length - 2) = payload := by
    have hlength : (payload ++ fcs).length - 2 = payload.length := by
      rw [List.length_append, hfcsLength, Nat.add_sub_cancel]
    rw [hlength, List.take_left]
  have hread := IEEE802154Frame.fromBytes_header
    (wellFormed_readReplyOf sequenceNumber panId destination source) rfl (payload ++ fcs)
  rw [htake] at hread
  exact ⟨_, by rw [hsplit]; exact hread⟩

variable (encryptBlock : Key → Block → Block)

theorem parseFrame_reported {sent value : List UInt8} (h : Reported sent value) :
    parseFrame value = parseFrame sent := by
  obtain ⟨length, data, params, metadata, hlength, rfl, rfl⟩ := h
  simp only [parseFrame, List.append_assoc, codec_uint16.read trivial, bind, Except.bind, ← hlength,
    List.take_left]

/-- The frame of a packet as a node reads it that has the key. -/
structure CarriesPacket (key : Key) (panId : UInt16) (packet : OutgoingPacket)
    (frame : IEEE802154Frame) (nwk : EncryptedZigbeeNwkFrame) (decrypted : DecryptedZigbeeNwkFrame)
    (aps : ZigbeeApsFrame) : Prop where
  frameControl : frame.frameControl = replyFrameControl
  sequenceNumber : frame.sequenceNumber.isSome
  panId : frame.destPanId = some panId
  destAddress : frame.destAddress = some (.nwk packet.destAddress)
  srcAddress : frame.srcAddress = some (.nwk packet.srcAddress)
  nwkFrame : ZigbeeNwkFrame.fromBytes frame.payload = .ok nwk
  decrypts : nwk.decrypt encryptBlock key = .ok decrypted
  holds : decrypted.Holds packet.toZigbeePacket aps

/-- What `send_packet` gives to the radio carries the packet. -/
theorem carriesPacket_of_transmitted {answers : Answers} {packet : OutgoingPacket} {app : PacketApp}
    {sent : List UInt8}
    (h : sent ∈ (sendPacket encryptBlock answers packet (.start app)).1.transmitted) :
    ∃ frame nwk decrypted aps, parseFrame sent = .ok frame ∧
      CarriesPacket encryptBlock app.key app.panId packet frame nwk decrypted aps := by
  obtain ⟨frame, hframe, hvalue⟩ := mem_transmitted_sendPacket encryptBlock h
  obtain ⟨sequenceNumber, nwk, encrypted, payload, hnwk, hencrypt, hpayload, rfl⟩ :=
    packetIeeeFrame_eq_ok encryptBlock hframe
  obtain ⟨aps, hholds⟩ := AppState.holds_of_packetFrame hnwk
  obtain ⟨hread, hdecrypt⟩ := hholds.secured.read_back hencrypt hpayload
  obtain ⟨data, hdata, hparse⟩ := parseFrame_streamRawValue hvalue
  obtain ⟨fcs, hshort⟩ := fromBytes_serialize_short hdata
  rw [hshort] at hparse
  exact ⟨_, encrypted, nwk, aps, hparse, {
    frameControl := rfl
    sequenceNumber := rfl
    panId := rfl
    destAddress := rfl
    srcAddress := rfl
    nwkFrame := hread
    decrypts := hdecrypt
    holds := hholds }⟩

/-! ## Delivery -/

/-- The 802.15.4 destination of a packet passes the filter of a node. -/
def PacketApp.Hears (app : PacketApp) (packet : OutgoingPacket) : Prop :=
  packet.destAddress.value < 0xFF00 → packet.destAddress = app.nwk

/-- A node of a network takes a packet, and acknowledges it where this is asked for. -/
structure PacketApp.Takes (app : PacketApp) (panId : UInt16) (packet : OutgoingPacket) : Prop where
  panId : app.panId = panId
  hears : app.Hears packet
  acknowledges : packet.ackRequested = true →
    app.increment.NumbersFit ∧ 0 ≤ app.channel ∧ app.channel < 0x100

section Delivery

variable {encryptBlock} {key : Key} {panId : UInt16} {packet : OutgoingPacket}
  {frame : IEEE802154Frame} {nwk : EncryptedZigbeeNwkFrame} {decrypted : DecryptedZigbeeNwkFrame}
  {aps : ZigbeeApsFrame}

theorem CarriesPacket.ignores_iff
    (h : CarriesPacket encryptBlock key panId packet frame nwk decrypted aps) (app : PacketApp) :
    app.ignores frame = false ↔ app.panId = panId ∧ app.Hears packet := by
  have helsewhere : app.addressedElsewhere frame = false ↔ app.Hears packet := by
    have hmode : (replyFrameControl.destAddrMode == .short) = true := rfl
    rw [PacketApp.addressedElsewhere, h.frameControl, h.destAddress, hmode, Bool.true_and,
      Bool.and_eq_false_iff, decide_eq_false_iff_not, bne_eq_false_iff_eq, ← imp_iff_not_or,
      PacketApp.Hears]
  have htype : (replyFrameControl.frameType != .data) = false := rfl
  rw [PacketApp.ignores, h.frameControl, h.panId, htype, Bool.false_or, Bool.or_eq_false_iff,
    helsewhere, bne_eq_false_iff_eq, Option.some.injEq, eq_comm]

theorem CarriesPacket.receive_eq
    (h : CarriesPacket encryptBlock key panId packet frame nwk decrypted aps)
    {app : PacketApp} (hkey : app.key = key) {value : List UInt8}
    (hparse : parseFrame value = .ok frame) :
    receive encryptBlock app value =
      if app.ignores frame then .ok none
      else .ok (some { ieeeFrame := frame, nwkFrame := nwk, decrypted := decrypted }) := by
  simp only [receive, hparse, h.nwkFrame, hkey, h.decrypts, bind, Except.bind]

/-- An application frame is delivered exactly if it asks for no acknowledgement or one can be
    made. -/
theorem received_handleAps (encryptBlock : Key → Block → Block) {answers : Answers}
    (app : PacketApp) {r : ReceivedFrame} {panId : UInt16}
    (hpan : r.ieeeFrame.destPanId = some panId)
    {destAddress : Address} (hdest : r.ieeeFrame.destAddress = some destAddress)
    {aps : ZigbeeApsFrame} (htype : aps.frameControl.frameType = .data)
    (hanswers : aps.frameControl.ackRequest = true → answers.Statuses) :
    let s := (handleAps encryptBlock answers r aps (.start app)).1
    ((aps.frameControl.ackRequest = true → app.CanAcknowledge r.ieeeFrame r.nwkFrame.nwkHeader) →
        s.received = [receivedPacket r.decrypted.nwkHeader aps]) ∧
      (¬ (aps.frameControl.ackRequest = true →
          app.CanAcknowledge r.ieeeFrame r.nwkFrame.nwkHeader) → s.received = []) := by
  have hreceived : (sendApsAck encryptBlock answers r.ieeeFrame r.nwkFrame.nwkHeader aps
      (.start app)).1.received = [] := by
    rw [sendApsAck, received_sendReply]
    rfl
  rw [handleAps, if_neg (by simp [htype])]
  cases hrequest : aps.frameControl.ackRequest with
  | false => simp [CallbackState.start, CallbackState.received, CallbackState.log]
  | true =>
    have hack := sendApsAck_returns_iff encryptBlock (hanswers hrequest) hpan hdest
      r.nwkFrame.nwkHeader aps (.start app)
    rw [if_pos rfl]
    rcases hsent : sendApsAck encryptBlock answers r.ieeeFrame r.nwkFrame.nwkHeader aps
        (.start app) with ⟨t, result⟩
    rw [hsent] at hack hreceived
    cases result with
    | error e =>
      have hnot : ¬ app.CanAcknowledge r.ieeeFrame r.nwkFrame.nwkHeader := by
        intro hcan
        obtain ⟨status, hstatus⟩ := hack.mpr hcan
        cases hstatus
      simp [hreceived, hnot]
    | ok status =>
      have hcan : app.CanAcknowledge r.ieeeFrame r.nwkFrame.nwkHeader := hack.mp ⟨status, rfl⟩
      simp [hreceived, hcan]

/-- An acknowledgement of a packet needs nothing but the numbers of the node. -/
theorem CarriesPacket.canAcknowledge_iff
    (h : CarriesPacket encryptBlock key panId packet frame nwk decrypted aps) (app : PacketApp) :
    app.CanAcknowledge frame nwk.nwkHeader ↔
      app.increment.NumbersFit ∧ 0 ≤ app.channel ∧ app.channel < 0x100 := by
  obtain ⟨-, hdecrypted⟩ := EncryptedZigbeeNwkFrame.of_decrypt h.decrypts
  have hradius : decrypted.nwkHeader.radius = nwk.nwkHeader.radius := by rw [hdecrypted]
  constructor
  · intro hcan
    exact ⟨hcan.numbers, hcan.channel⟩
  · rintro ⟨hnumbers, hchannel⟩
    exact {
      radius := by rw [← hradius]; exact h.holds.radius
      sequenceNumber := h.sequenceNumber
      srcAddress := by rw [h.srcAddress]; rfl
      numbers := hnumbers
      channel := hchannel }

/-- The callback of a node with the key hands over the packet of a frame that carries one, or
    nothing. -/
theorem CarriesPacket.received
    (h : CarriesPacket encryptBlock key panId packet frame nwk decrypted aps)
    {app : PacketApp} (hkey : app.key = key) {answers : Answers}
    (hanswers : packet.ackRequested = true → answers.Statuses)
    {value : List UInt8} (hparse : parseFrame value = .ok frame) :
    let s := (packetCallback encryptBlock answers app value).1
    (app.Takes panId packet → s.received = [receivedPacket decrypted.nwkHeader aps]) ∧
      (¬ app.Takes panId packet → s.received = []) := by
  have hroute : isRouteRequest decrypted = .ok false := by
    rw [isRouteRequest, h.holds.nwkType]
    rfl
  have hread : ZigbeeApsFrame.fromBytes decrypted.payload = .ok aps := by
    rw [h.holds.payload, ZigbeeApsFrame.fromBytes_serialize]
  have hignores := h.ignores_iff app
  rw [packetCallback, h.receive_eq hkey hparse]
  cases happ : app.ignores frame with
  | true =>
    rw [happ] at hignores
    refine ⟨fun htakes => ?_, fun _ => rfl⟩
    have hfalse := hignores.mpr ⟨htakes.panId, htakes.hears⟩
    cases hfalse
  | false =>
    obtain ⟨hpan, hhears⟩ := hignores.mp happ
    have htakes : app.Takes panId packet ↔ (aps.frameControl.ackRequest = true →
        app.CanAcknowledge frame nwk.nwkHeader) := by
      rw [h.holds.ackRequest, h.canAcknowledge_iff]
      exact ⟨fun htakes => htakes.acknowledges, fun hack => ⟨hpan, hhears, hack⟩⟩
    have hdelivered := received_handleAps encryptBlock app
      (r := { ieeeFrame := frame, nwkFrame := nwk, decrypted := decrypted })
      h.panId h.destAddress h.holds.apsType
      (fun hrequest => hanswers (h.holds.ackRequest.symm.trans hrequest))
    rw [htakes]
    simp only [Bool.false_eq_true, if_false, handleFrame, hroute, h.holds.nwkType, hread, ne_eq,
      not_true_eq_false]
    exact hdelivered

end Delivery

/-- A packet that one node sends reaches `zigpy` on another node with the same key, once and with
    its own fields, exactly if this node is in the same PAN and lets the destination through,
    and can acknowledge the packet where this is asked for. Otherwise nothing reaches it. -/
theorem sendPacket_delivered {answers answers' : Answers} {sender receiver : PacketApp}
    (hkey : receiver.key = sender.key) {packet : OutgoingPacket}
    (hanswers : packet.ackRequested = true → answers'.Statuses)
    {sent value : List UInt8} (hreported : Reported sent value)
    (hsent : sent ∈ (sendPacket encryptBlock answers packet (.start sender)).1.transmitted) :
    let s := (packetCallback encryptBlock answers' receiver value).1
    (receiver.Takes sender.panId packet →
        ∃ p, s.received = [p] ∧ p.Carries packet.toZigbeePacket) ∧
      (¬ receiver.Takes sender.panId packet → s.received = []) := by
  obtain ⟨frame, nwk, decrypted, aps, hparse, hcarries⟩ :=
    carriesPacket_of_transmitted encryptBlock hsent
  have hvalue : parseFrame value = .ok frame := by rw [parseFrame_reported hreported, hparse]
  obtain ⟨htakes, hnot⟩ := hcarries.received hkey hanswers hvalue
  exact ⟨fun h => ⟨_, htakes h, hcarries.holds.fields⟩, hnot⟩

/-- The frame of a packet that the coordinator sends. -/
def onOffFrame : List UInt8 :=
  [0x61, 0x88, 0x07, 0x0d, 0x9f, 0x34, 0x12, 0x00, 0x00,
    0x08, 0x02, 0x34, 0x12, 0x00, 0x00, 0x1e, 0x07,
    0x28, 0xe9, 0x03, 0x00, 0x00, 0x46, 0xb8, 0xa1, 0x1c, 0x00, 0x4b, 0x12, 0x00, 0x00,
    0x11, 0xc5, 0xe8, 0x85, 0x61, 0xf6, 0xa7, 0x76, 0xc6, 0x0d, 0xa6, 0xc1, 0x02, 0x3f, 0xd0,
    0xff, 0x6f]

/-- What the coordinator gives to its radio. -/
def onOffSent : List UInt8 :=
  u16ToLeBytes 0x30 ++ onOffFrame ++ [0x14, 0x01, 0x04, 0x01, 0x01, 0x00, 0x01, 0x00, 0x00, 0x14]

/-- What the radio of the other node reports, with the strength of the signal. -/
def onOffReported : List UInt8 := u16ToLeBytes 0x30 ++ onOffFrame ++ [0xc8, 0x80]

theorem reported_onOff : Reported onOffSent onOffReported :=
  ⟨0x30, onOffFrame, _, _, rfl, rfl, rfl⟩

/-- The other node. -/
def onOffReceiver : PacketApp where
  toAppState := { AppState.loadNetworkInfo 0 with
    nwk := ⟨0x1234⟩
    ieee := ⟨[0x1d, 0x2c, 0x3b, 0x00, 0x00, 0x4b, 0x12, 0x00], rfl⟩ }
  panId := 0x9f0d
  channel := 20

theorem onOffReceiver_takes : onOffReceiver.Takes 0x9f0d onOffPacket :=
  ⟨rfl, fun _ => rfl, fun _ => ⟨⟨by decide, by decide⟩, by decide⟩⟩

theorem mem_onOffSent : onOffSent ∈ (sendPacket coordinatorAes okAnswers onOffPacket
    (.start (.loadNetworkInfo 0))).1.transmitted := by decide +kernel

theorem sendPacket_delivered_onOff :
    ∃ p, (packetCallback coordinatorAes okAnswers onOffReceiver onOffReported).1.received = [p] ∧
      p.Carries onOffPacket.toZigbeePacket := by
  have hkey : onOffReceiver.key = (PacketApp.loadNetworkInfo 0).key := rfl
  have hdelivered := sendPacket_delivered coordinatorAes hkey (fun _ => statuses_okAnswers)
    reported_onOff mem_onOffSent
  exact hdelivered.1 onOffReceiver_takes

end ZigpySpinel.Python
