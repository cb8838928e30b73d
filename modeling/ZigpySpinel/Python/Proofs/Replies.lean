import ZigpySpinel.Python.Proofs.CallbackEffects

/-!
# The frames of automatic replies

A reply has the addresses of the received frame the other way round, under a frame control
that announces two short ones. What is read back is a frame of this node for the sender
exactly if the received frame has a short source and the short address of this node for its
destination: a broadcast address becomes the source of the reply, and of a long address two
bytes are read and six are left in front of the payload.
-/

namespace ZigpySpinel.Python
open Lib

/-! ## What is sent -/

@[simp] theorem CallbackState.transmitted_log_setProperty (s : CallbackState)
    (propertyId : PropertyID) (value : List UInt8) :
    (s.log (.setProperty propertyId value)).transmitted = s.transmitted ++ [value] := by
  rw [transmitted, transmitted, log, List.filterMap_append]
  rfl

@[simp] theorem CallbackState.transmitted_log_packet (s : CallbackState) (packet : ReceivedPacket) :
    (s.log (.packetReceived packet)).transmitted = s.transmitted := by
  rw [transmitted, transmitted, log, List.filterMap_append]
  exact List.append_nil _

/-- Every attempt sends the same value. -/
theorem mem_transmitted_sendAttempts {answers : Answers} {frame : IEEE802154Frame}
    {remaining attempt : Nat} {s : CallbackState} {value : List UInt8}
    (h : value ∈ (sendAttempts answers frame remaining attempt s).1.transmitted) :
    value ∈ s.transmitted ∨ streamRawValue s.app.channel frame = .ok value := by
  induction remaining generalizing attempt s with
  | zero => exact .inl h
  | succ remaining ih =>
    rw [sendAttempts] at h
    cases hvalue : streamRawValue s.app.channel frame with
    | error e =>
      rw [hvalue] at h
      exact .inl h
    | ok sent =>
      rw [hvalue] at h
      dsimp only at h
      -- after an attempt, its value has been sent as well
      have hlogged : value ∈ (s.log (.setProperty .streamRaw sent)).transmitted →
          value ∈ s.transmitted ∨ Except.ok sent = (Except.ok value : Except PyException _) := by
        intro hmem
        rw [CallbackState.transmitted_log_setProperty, List.mem_append, List.mem_singleton] at hmem
        exact hmem.imp id (fun heq => by rw [heq])
      cases hstatus : statusOf (answers attempt) with
      | error e =>
        rw [hstatus] at h
        exact hlogged h
      | ok status =>
        rw [hstatus] at h
        dsimp only at h
        split at h
        · rcases ih h with hmem | hsame
          · exact hlogged hmem
          · rw [CallbackState.app_log, hvalue] at hsame
            exact .inr hsame
        · exact hlogged h

variable (encryptBlock : Key → Block → Block)

theorem mem_transmitted_sendReply {answers : Answers} {attempts : Nat} {ieeeFrame : IEEE802154Frame}
    {place : AppState → AppState × Option DecryptedZigbeeNwkFrame} {app : PacketApp}
    {value : List UInt8}
    (h : value ∈
      (sendReply encryptBlock answers attempts ieeeFrame place (.start app)).1.transmitted) :
    ∃ frame, replyFrame encryptBlock (place app.toAppState).1.key ieeeFrame
        (place app.toAppState).2 = .ok frame ∧ streamRawValue app.channel frame = .ok value := by
  unfold sendReply at h
  dsimp only at h
  split at h
  · cases h
  next frame hframe =>
    rcases mem_transmitted_sendAttempts h with hmem | hvalue
    · cases hmem
    · exact ⟨frame, hframe, hvalue⟩

/-! ## The reply to a request -/

/-- The network frame of the reply to a request. -/
def PacketApp.replyTo (app : PacketApp) (header : ZigbeeNwkHeader) :
    Request → Option DecryptedZigbeeNwkFrame
  | .routeRequest => (AppState.sendRouteReply header app.toAppState).2
  | .data aps =>
    if aps.frameControl.ackRequest then (AppState.sendApsAck header aps app.toAppState).2 else none

/-- The encrypted network frame of the reply to a received frame. -/
def PacketApp.RepliesWith (app : PacketApp) (r : ReceivedFrame)
    (encrypted : EncryptedZigbeeNwkFrame) : Prop :=
  ∃ request reply, r.decrypted.request = .ok (some request) ∧
    app.replyTo r.nwkFrame.nwkHeader request = some reply ∧
    reply.encrypt encryptBlock app.key = .ok encrypted

theorem PacketApp.RepliesWith.unique {app : PacketApp} {r : ReceivedFrame}
    {encrypted encrypted' : EncryptedZigbeeNwkFrame} (h : app.RepliesWith encryptBlock r encrypted)
    (h' : app.RepliesWith encryptBlock r encrypted') : encrypted = encrypted' := by
  obtain ⟨request, reply, hrequest, hreply, hencrypt⟩ := h
  obtain ⟨request', reply', hrequest', hreply', hencrypt'⟩ := h'
  rw [hrequest] at hrequest'
  cases hrequest'
  rw [hreply] at hreply'
  cases hreply'
  rw [hencrypt] at hencrypt'
  exact Except.ok.inj hencrypt'

theorem AppState.isReply_of_routeReplyFrame {app : AppState} {received : ZigbeeNwkHeader}
    {reply : DecryptedZigbeeNwkFrame} (h : app.routeReplyFrame received = some reply) :
    IsReply reply := by
  simp only [routeReplyFrame, Option.bind_eq_bind, Option.bind_eq_some_iff] at h
  obtain ⟨header, hheader, h⟩ := h
  cases h
  exact ⟨rfl, ⟨header, app.ieee, rfl, extendedSource_of_auxHeader hheader⟩, Nat.le_refl 8⟩

theorem PacketApp.isReply_of_replyTo {app : PacketApp} {header : ZigbeeNwkHeader} {request : Request}
    {reply : DecryptedZigbeeNwkFrame} (h : app.replyTo header request = some reply) :
    IsReply reply := by
  cases request with
  | routeRequest => exact AppState.isReply_of_routeReplyFrame h
  | data aps =>
    rw [replyTo] at h
    split at h
    · exact AppState.isReply_of_apsAckFrame h
    · cases h

theorem of_receive {app : PacketApp} {value : List UInt8} {r : ReceivedFrame}
    (h : receive encryptBlock app value = .ok (some r)) :
    parseFrame value = .ok r.ieeeFrame ∧ r.ieeeFrame.destPanId = some app.panId := by
  obtain ⟨frame, hparse, h⟩ := except_bind_eq_ok.mp h
  split at h
  · cases h
  next hpasses =>
    obtain ⟨nwkFrame, -, h⟩ := except_bind_eq_ok.mp h
    obtain ⟨decrypted, -, h⟩ := except_bind_eq_ok.mp h
    cases h
    refine ⟨hparse, ?_⟩
    simp only [PacketApp.ignores, Bool.or_eq_true, bne_iff_ne, not_or, not_not] at hpasses
    exact hpasses.1.2

/-- What is sent is the frame of a reply to what is received. -/
theorem mem_transmitted_packetCallback {answers : Answers} {app : PacketApp}
    {value sent : List UInt8} {r : ReceivedFrame}
    (hreceive : receive encryptBlock app value = .ok (some r))
    (h : sent ∈ (packetCallback encryptBlock answers app value).1.transmitted) :
    ∃ request frame, r.decrypted.request = .ok (some request) ∧
      replyFrame encryptBlock app.key r.ieeeFrame (app.replyTo r.nwkFrame.nwkHeader request) =
        .ok frame ∧ streamRawValue app.channel frame = .ok sent := by
  rw [packetCallback, hreceive] at h
  dsimp only at h
  rw [handleFrame_eq] at h
  cases hrequest : r.decrypted.request with
  | error e =>
    rw [hrequest] at h
    cases h
  | ok request =>
    rw [hrequest] at h
    cases request with
    | none => cases h
    | some request =>
      cases request with
      | routeRequest =>
        obtain ⟨frame, hframe, hvalue⟩ := mem_transmitted_sendReply encryptBlock h
        exact ⟨.routeRequest, frame, rfl, hframe, hvalue⟩
      | data aps =>
        dsimp only at h
        have htype := DecryptedZigbeeNwkFrame.frameType_of_request hrequest
        cases hack : aps.frameControl.ackRequest with
        | false =>
          rw [handleAps_deliver encryptBlock answers r htype hack,
            CallbackState.transmitted_log_packet] at h
          cases h
        | true =>
          have hsent : sent ∈ (sendApsAck encryptBlock answers r.ieeeFrame r.nwkFrame.nwkHeader aps
              (.start app)).1.transmitted := by
            rcases handleAps_ack encryptBlock answers r htype hack (.start app) with heq | heq
            · rwa [heq] at h
            · rwa [heq, CallbackState.transmitted_log_packet] at h
          obtain ⟨frame, hframe, hvalue⟩ := mem_transmitted_sendReply encryptBlock hsent
          refine ⟨.data aps, frame, rfl, ?_, hvalue⟩
          rw [PacketApp.replyTo, hack, if_pos rfl]
          exact hframe

/-! ## Reading a reply -/

/-- A value for the radio holds its frame as a received value does. -/
theorem parseFrame_streamRawValue {channel : Int} {frame : IEEE802154Frame} {value : List UInt8}
    (h : streamRawValue channel frame = .ok value) :
    ∃ data, frame.serialize = .ok data ∧ parseFrame value = IEEE802154Frame.fromBytes data := by
  obtain ⟨data, hdata, h⟩ := except_bind_eq_ok.mp h
  obtain ⟨length, hlength, h⟩ := except_bind_eq_ok.mp h
  obtain ⟨channelByte, -, h⟩ := except_bind_eq_ok.mp h
  cases h
  have hcount : length.toNat = data.length :=
    Int.ofNat_inj.mp (uint16T_eq_some (orRaise_eq_ok.mp hlength)).symm
  refine ⟨data, hdata, ?_⟩
  simp only [parseFrame, List.append_assoc, codec_uint16.read trivial, bind, Except.bind, hcount,
    List.take_left]

/-- Of an address, two bytes are read as a short one: all of a short address, and six less
    than a long one has. -/
theorem Address.exists_nwk (address : Address) :
    ∃ (nwk : Nwk) (rest : List UInt8), address.serialize = nwk.toBytes ++ rest ∧
      (rest = [] ∧ address = .nwk nwk ∨ rest ≠ [] ∧ ∃ eui64, address = .eui64 eui64) := by
  cases address with
  | nwk nwk => exact ⟨nwk, [], (List.append_nil _).symm, .inl ⟨rfl, rfl⟩⟩
  | eui64 eui64 =>
    rcases eui64 with ⟨⟨bytes, hbytes⟩⟩
    rcases bytes with _ | ⟨b0, _ | ⟨b1, rest⟩⟩
    · cases hbytes
    · cases hbytes
    · refine ⟨⟨u16FromLeBytes b0 b1⟩, rest, ?_, .inr ⟨?_, _, rfl⟩⟩
      · rw [Nwk.toBytes, u16ToLeBytes_fromLeBytes]
        rfl
      · rintro rfl
        cases hbytes

/-- The fields that are read of a reply to a short address. -/
def readReplyOf (sequenceNumber : UInt8) (panId : UInt16) (destination source : Nwk) :
    IEEE802154Frame :=
  { replyOf sequenceNumber panId (some (.nwk destination)) (some (.nwk source)) [] with
    srcPanId := some panId }

theorem wellFormed_readReplyOf (sequenceNumber : UInt8) (panId : UInt16) (destination source : Nwk) :
    (readReplyOf sequenceNumber panId destination source).WellFormed where
  sequenceNumber := iff_of_true rfl rfl
  destPanId := iff_of_true rfl rfl
  destAddress := ⟨destination, rfl⟩
  srcPanId := fun _ => rfl
  srcAddress := ⟨source, rfl⟩

/-- What a reply to a short address is read as. -/
theorem fromBytes_serialize_replyOf {sequenceNumber : UInt8} {panId : UInt16} {destination source : Nwk}
    {srcAddress : Address} {rest payload data : List UInt8}
    (hsource : srcAddress.serialize = source.toBytes ++ rest)
    (h : (replyOf sequenceNumber panId (some (.nwk destination)) (some srcAddress)
      payload).serialize = .ok data) :
    ∃ parsed, IEEE802154Frame.fromBytes data = .ok parsed ∧
      parsed.frameControl = replyFrameControl ∧ parsed.destAddress = some (.nwk destination) ∧
      parsed.srcAddress = some (.nwk source) ∧ parsed.payload = rest ++ payload := by
  rw [serialize_replyOf] at h
  have hdata := Except.ok.inj h
  rw [hsource] at hdata
  have hpan : (readReplyOf sequenceNumber panId destination source).SrcPanIdRead := rfl
  generalize hfcs : u16ToLeBytes (Ieee802154.Ieee802154Frame.computeFcs _) = fcs at hdata
  have hfcsLength : fcs.length = 2 := by rw [← hfcs, length_u16ToLeBytes]
  have hsplit : data = (readReplyOf sequenceNumber panId destination source).header
      (IEEE802154Frame.hasSrcPanId replyFrameControl) ++ (rest ++ payload ++ fcs) := by
    rw [← hdata]
    simp only [List.append_assoc]
    rfl
  have htake : (rest ++ payload ++ fcs).take ((rest ++ payload ++ fcs).length - 2) =
      rest ++ payload := by
    have hlength : (rest ++ payload ++ fcs).length - 2 = (rest ++ payload).length := by
      rw [List.length_append, hfcsLength, Nat.add_sub_cancel]
    rw [hlength, List.take_left]
  rw [hsplit]
  exact ⟨_, IEEE802154Frame.fromBytes_header (wellFormed_readReplyOf _ _ _ _) hpan _, rfl, rfl, rfl,
    htake⟩

/-- What is sent to the short source of a received frame: it is read back with the destination
    of this frame as its source, of which what is longer than a short address stands in front
    of the encrypted reply. -/
theorem exists_parsed_of_transmitted {answers : Answers} {app : PacketApp}
    {value sent : List UInt8} {r : ReceivedFrame}
    (hreceive : receive encryptBlock app value = .ok (some r))
    (h : sent ∈ (packetCallback encryptBlock answers app value).1.transmitted) {destination : Nwk}
    (hsrc : r.ieeeFrame.srcAddress = some (.nwk destination)) :
    ∃ encrypted payload address source rest parsed, app.RepliesWith encryptBlock r encrypted ∧
      encrypted.serialize = .ok payload ∧ r.ieeeFrame.destAddress = some address ∧
      (rest = [] ∧ address = .nwk source ∨ rest ≠ [] ∧ ∃ eui64, address = .eui64 eui64) ∧
      parseFrame sent = .ok parsed ∧
      parsed.frameControl = replyFrameControl ∧ parsed.destAddress = some (.nwk destination) ∧
      parsed.srcAddress = some (.nwk source) ∧ parsed.payload = rest ++ payload := by
  obtain ⟨hparse, hpan⟩ := of_receive encryptBlock hreceive
  obtain ⟨address, haddress⟩ := exists_destAddress hparse hpan
  obtain ⟨request, frame, hrequest, hframe, hvalue⟩ :=
    mem_transmitted_packetCallback encryptBlock hreceive h
  obtain ⟨reply, sequenceNumber, encrypted, payload, hreply, -, hencrypt, hpayload, -, hreplyOf⟩ :=
    replyFrame_eq_ok encryptBlock (fun _ hmem => PacketApp.isReply_of_replyTo hmem) hpan hframe
  obtain ⟨data, hdata, hread⟩ := parseFrame_streamRawValue hvalue
  rw [hreplyOf, hsrc, haddress] at hdata
  obtain ⟨source, rest, hsource, hrest⟩ := address.exists_nwk
  obtain ⟨parsed, hparsed, hcontrol, hdest, hsrcParsed, hpayloadParsed⟩ :=
    fromBytes_serialize_replyOf hsource hdata
  exact ⟨encrypted, payload, address, source, rest, parsed,
    ⟨request, reply, hrequest, hreply, hencrypt⟩, hpayload, haddress, hrest,
    hread.trans hparsed, hcontrol, hdest, hsrcParsed, hpayloadParsed⟩

/-! ## Replies of this node -/

/-- A frame is a reply of this node to the sender of a received one, around an encrypted network
    frame. -/
structure PacketApp.OwnReply (app : PacketApp) (r : ReceivedFrame)
    (encrypted : EncryptedZigbeeNwkFrame) (parsed : IEEE802154Frame) : Prop where
  destAddrMode : parsed.frameControl.destAddrMode = .short
  srcAddrMode : parsed.frameControl.srcAddrMode = .short
  srcAddress : parsed.srcAddress = some (.nwk app.nwk)
  notBroadcast : app.nwk.value < 0xFF00
  destAddress : ∃ source, r.ieeeFrame.srcAddress = some (.nwk source) ∧
    parsed.destAddress = some (.nwk source)
  payload : encrypted.serialize = .ok parsed.payload

/-- Whenever the callback sends something, all of it is read back as replies of this node around
    the encrypted reply, exactly if the received frame goes from a short address to the short
    address of this node, and this is no broadcast address. -/
theorem ownReplies_iff {answers : Answers} {app : PacketApp} {value : List UInt8}
    {r : ReceivedFrame} (hreceive : receive encryptBlock app value = .ok (some r))
    (hsent : (packetCallback encryptBlock answers app value).1.transmitted ≠ []) :
    (∀ sent ∈ (packetCallback encryptBlock answers app value).1.transmitted,
      ∃ encrypted parsed, app.RepliesWith encryptBlock r encrypted ∧
        parseFrame sent = .ok parsed ∧ app.OwnReply r encrypted parsed) ↔
      r.ieeeFrame.destAddress = some (.nwk app.nwk) ∧ app.nwk.value < 0xFF00 ∧
        ∃ source, r.ieeeFrame.srcAddress = some (.nwk source) := by
  constructor
  · intro hall
    obtain ⟨sent, hmem⟩ := List.exists_mem_of_ne_nil _ hsent
    obtain ⟨encrypted, parsed, hreplies, hparsed, hown⟩ := hall sent hmem
    obtain ⟨destination, hsrc, -⟩ := hown.destAddress
    obtain ⟨encrypted', payload, address, source, rest, parsed', hreplies', hpayload, haddress,
      hrest, hparsed', -, -, hsource, hpayloadParsed⟩ :=
      exists_parsed_of_transmitted encryptBlock hreceive hmem hsrc
    obtain rfl := hreplies.unique encryptBlock hreplies'
    rw [hparsed] at hparsed'
    cases hparsed'
    -- the payload that is read back is the reply, so nothing of an address is in front of it
    have hnothing : rest = [] := by
      have hsame : payload = rest ++ payload := by
        rw [← hpayloadParsed]
        exact Except.ok.inj (hpayload.symm.trans hown.payload)
      exact List.self_eq_append_left.mp hsame
    have hown' : source = app.nwk := by
      have hboth := hsource.symm.trans hown.srcAddress
      cases hboth
      rfl
    refine ⟨?_, hown.notBroadcast, destination, hsrc⟩
    rcases hrest with ⟨-, hshort⟩ | ⟨hsome, -⟩
    · rw [haddress, hshort, hown']
    · exact absurd hnothing hsome
  · rintro ⟨hdest, hunicast, destination, hsrc⟩ sent hmem
    obtain ⟨encrypted, payload, address, source, rest, parsed, hreplies, hpayload, haddress, hrest,
      hparsed, hcontrol, hdestParsed, hsource, hpayloadParsed⟩ :=
      exists_parsed_of_transmitted encryptBlock hreceive hmem hsrc
    rw [hdest] at haddress
    cases haddress
    rcases hrest with ⟨hnothing, hshort⟩ | ⟨-, eui64, hlong⟩
    · cases hshort
      refine ⟨encrypted, parsed, hreplies, hparsed, ?_⟩
      rw [hnothing, List.nil_append] at hpayloadParsed
      exact {
        destAddrMode := by rw [hcontrol]; rfl
        srcAddrMode := by rw [hcontrol]; rfl
        srcAddress := hsource
        notBroadcast := hunicast
        destAddress := ⟨destination, hsrc, hdestParsed⟩
        payload := by rw [hpayloadParsed, hpayload] }
    · cases hlong

/-- A route request of the node `0x1234`, with its destination and its check sequence. -/
def routeRequestValue (destination fcs : List UInt8) : List UInt8 :=
  [0x33, 0x00, 0x61, 0x88, 0x01, 0x0d, 0x9f] ++ destination ++ [0x34, 0x12] ++ routeRequestBytes ++
    fcs

/-- To a broadcast address, as route requests are sent. -/
def broadcastValue : List UInt8 := routeRequestValue [0xff, 0xff] [0x68, 0xa8]

/-- To the coordinator alone. -/
def unicastValue : List UInt8 := routeRequestValue [0x00, 0x00] [0x31, 0xb6]

/-- The broadcast request is answered by a frame with the broadcast address for its source. -/
theorem broadcast_answered :
    (PacketApp.loadNetworkInfo 0).nwk = ⟨0x0000⟩ ∧
      (parseFrame broadcastValue).map (fun frame => frame.srcAddress) =
        .ok (some (.nwk ⟨0x1234⟩)) ∧
      (packetCallback coordinatorAes okAnswers (PacketApp.loadNetworkInfo 0)
          broadcastValue).1.transmitted.map
        (fun sent => (parseFrame sent).map fun frame => (frame.destAddress, frame.srcAddress)) =
        [.ok (some (.nwk ⟨0x1234⟩), some (.nwk ⟨0xffff⟩))] := by
  refine ⟨rfl, ?_, ?_⟩
  · decide +kernel
  · decide +kernel

/-- The long address of the node. -/
def routeRequestSourceBytes : List UInt8 := [0x01, 0x02, 0x03, 0x04, 0x05, 0x06, 0x07, 0x08]

theorem length_routeRequestSourceBytes : routeRequestSourceBytes.length = 8 := rfl

def routeRequestSource : Eui64 where
  value := ⟨routeRequestSourceBytes, length_routeRequestSourceBytes⟩

/-- The network frame of the request. -/
def routeRequestFrame : EncryptedZigbeeNwkFrame where
  nwkHeader := {
    frameControl := {
      frameType := .command
      protocolVersion := 2
      discoverRoute := .suppress
      multicast := false
      security := true
      sourceRoute := false
      destination := false
      extendedSource := true
      endDeviceInitiator := false
      reserved := 0b00 }
    destination := ⟨0xfffc⟩
    source := ⟨0x1234⟩
    radius := 30
    sequenceNumber := 1
    destinationIeee := none
    sourceIeee := some routeRequestSource
    multicastControl := none
    sourceRouteRelayIndex := none
    sourceRoute := none }
  auxHeader := some {
    securityControl := AppState.securityControl
    frameCounter := 5
    extendedSource := some routeRequestSource
    keySequenceNumber := 0 }
  payload := [0xb9, 0x7c, 0x48, 0x2f, 0x4e, 0x80, 0x34, 0x38, 0x23, 0x29]

/-- What the callback makes of the request to the coordinator. -/
def unicastReceived : ReceivedFrame where
  ieeeFrame := {
    frameControl := replyFrameControl
    sequenceNumber := some 1
    destPanId := some 0x9f0d
    destAddress := some (.nwk ⟨0x0000⟩)
    srcPanId := some 0x9f0d
    srcAddress := some (.nwk ⟨0x1234⟩)
    payload := routeRequestBytes
    fcs := some [0x31, 0xb6] }
  nwkFrame := routeRequestFrame
  decrypted := ⟨{ routeRequestFrame.toZigbeeNwkFrame with
    payload := [0x01, 0x00, 0x11, 0x00, 0x00, 0x00] }⟩

theorem ownReplies_iff_unicast :
    (∀ sent ∈ (packetCallback coordinatorAes okAnswers (PacketApp.loadNetworkInfo 0)
        unicastValue).1.transmitted,
      ∃ encrypted parsed,
        (PacketApp.loadNetworkInfo 0).RepliesWith coordinatorAes unicastReceived encrypted ∧
          parseFrame sent = .ok parsed ∧
          (PacketApp.loadNetworkInfo 0).OwnReply unicastReceived encrypted parsed) ↔
      unicastReceived.ieeeFrame.destAddress = some (.nwk (PacketApp.loadNetworkInfo 0).nwk) ∧
        (PacketApp.loadNetworkInfo 0).nwk.value < 0xFF00 ∧
        ∃ source, unicastReceived.ieeeFrame.srcAddress = some (.nwk source) := by
  have hreceive : receive coordinatorAes (PacketApp.loadNetworkInfo 0) unicastValue =
      .ok (some unicastReceived) := by decide +kernel
  have hsent : (packetCallback coordinatorAes okAnswers (PacketApp.loadNetworkInfo 0)
      unicastValue).1.transmitted ≠ [] := by decide +kernel
  exact ownReplies_iff coordinatorAes hreceive hsent

end ZigpySpinel.Python
