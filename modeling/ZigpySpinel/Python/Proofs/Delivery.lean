import ZigpySpinel.Python.PacketCallback
import ZigpySpinel.Python.Proofs.Ieee802154Codec
import ZigpySpinel.Python.Proofs.NwkCcm

/-!
# Which data frames reach `zigpy`

A data frame is delivered behind its acknowledgement, so an acknowledgement that cannot be
built keeps the frame from `zigpy`. The encryption of a reply always returns, and its bytes
are few; what can fail are the conversions of numbers and the fields that the received frame
does not have.
-/

namespace ZigpySpinel.Python
open Lib

/-! ## Sending -/

@[simp] theorem CallbackState.app_log (s : CallbackState) (effect : CallbackEffect) :
    (s.log effect).app = s.app := rfl

@[simp] theorem CallbackState.received_log_setProperty (s : CallbackState) (propertyId : PropertyID)
    (value : List UInt8) : (s.log (.setProperty propertyId value)).received = s.received := by
  rw [received, received, log, List.filterMap_append]
  exact List.append_nil _

@[simp] theorem CallbackState.received_log_packet (s : CallbackState) (packet : ReceivedPacket) :
    (s.log (.packetReceived packet)).received = s.received ++ [packet] := by
  rw [received, received, log, List.filterMap_append]
  rfl

/-- Sending delivers nothing. -/
theorem received_sendAttempts (answers : Answers) (frame : IEEE802154Frame)
    (remaining attempt : Nat) (s : CallbackState) :
    (sendAttempts answers frame remaining attempt s).1.received = s.received := by
  induction remaining generalizing attempt s with
  | zero => rfl
  | succ remaining ih =>
    rw [sendAttempts]
    cases streamRawValue s.app.channel frame with
    | error e => rfl
    | ok value =>
      dsimp only
      cases statusOf (answers attempt) with
      | error e => exact s.received_log_setProperty _ _
      | ok status =>
        dsimp only
        split
        · rw [ih]
          exact s.received_log_setProperty _ _
        · exact s.received_log_setProperty _ _

/-- The radio answers every attempt with a status. -/
def Answers.Statuses (answers : Answers) : Prop :=
  ∀ attempt, ∃ status rest, answers attempt = .ok (.lastStatus, status :: rest)

theorem Answers.Statuses.statusOf {answers : Answers} (h : answers.Statuses) (attempt : Nat) :
    ∃ status, statusOf (answers attempt) = .ok status := by
  obtain ⟨status, rest, hanswer⟩ := h attempt
  rw [hanswer]
  exact ⟨status, rfl⟩

/-- Where the radio answers, sending ends well exactly if the frame can be written. -/
theorem sendAttempts_returns_iff {answers : Answers} (h : answers.Statuses)
    (frame : IEEE802154Frame) (remaining attempt : Nat) (s : CallbackState) :
    (∃ status, (sendAttempts answers frame (remaining + 1) attempt s).2 = .ok status) ↔
      ∃ value, streamRawValue s.app.channel frame = .ok value := by
  induction remaining generalizing attempt s with
  | zero =>
    obtain ⟨status, hstatus⟩ := h.statusOf attempt
    rw [sendAttempts]
    cases streamRawValue s.app.channel frame with
    | error e => simp
    | ok value =>
      simp only [hstatus]
      split
      · simp [sendAttempts]
      · simp
  | succ remaining ih =>
    obtain ⟨status, hstatus⟩ := h.statusOf attempt
    rw [sendAttempts]
    cases hvalue : streamRawValue s.app.channel frame with
    | error e => simp
    | ok value =>
      simp only [hstatus]
      split
      · rw [ih, CallbackState.app_log, hvalue]
      · simp

/-! ## Writing a reply -/

/-- The replies that the application makes: without a source route, with the own address in
    the auxiliary header, and with a short payload. -/
structure IsReply (reply : DecryptedZigbeeNwkFrame) : Prop where
  sourceRoute : reply.nwkHeader.sourceRoute = none
  auxHeader : ∃ auxHeader source, reply.auxHeader = some auxHeader ∧
    auxHeader.extendedSource = some source
  payload : reply.payload.length ≤ 8

theorem ZigbeeNwkHeader.exists_serialize {header : ZigbeeNwkHeader} (h : header.sourceRoute = none) :
    ∃ bytes, header.serialize = .ok bytes := by
  rw [serialize, serializeSourceRoute, h]
  exact ⟨_, rfl⟩

/-- A reply is encrypted and written, and its bytes are few. -/
theorem IsReply.exists_payload (encryptBlock : Key → Block → Block) (key : Key)
    {reply : DecryptedZigbeeNwkFrame} (h : IsReply reply) :
    ∃ encrypted payload, reply.encrypt encryptBlock key = .ok encrypted ∧
      encrypted.serialize = .ok payload ∧ payload.length ≤ 563 := by
  obtain ⟨auxHeader, source, haux, hsource⟩ := h.auxHeader
  obtain ⟨header, hheader⟩ := ZigbeeNwkHeader.exists_serialize h.sourceRoute
  have hshort := h.payload
  have hencrypt := reply.encrypt_eq encryptBlock key haux hsource hheader (by omega)
  have hserialize : auxHeader.serialize = .ok auxHeader.body := by
    rw [ZigbeeNwkAuxHeader.serialize_eq, hsource]
    rfl
  refine ⟨_, header ++ auxHeader.body ++ ccmPayload encryptBlock key auxHeader source header
    reply.payload, hencrypt, ?_, ?_⟩
  · simp only [ZigbeeNwkFrame.serialize, hheader, haux, hserialize, bind, Except.bind]
  · have hheaderLen := (ZigbeeNwkHeader.length_of_serialize hheader).2
    have hauxLen := auxHeader.length_body
    rw [List.length_append, List.length_append, length_ccmPayload]
    omega

theorem Address.length_serialize_le (address : Address) : address.serialize.length ≤ 8 := by
  cases address with
  | nwk addr => exact Nat.le_trans (Nat.le_of_eq addr.length_toBytes) (by decide)
  | eui64 addr => exact Nat.le_of_eq addr.length_toBytes

/-- The frame of a reply with all its fields. -/
def replyOf (sequenceNumber : UInt8) (panId : UInt16) (destAddress srcAddress : Option Address)
    (payload : List UInt8) : IEEE802154Frame where
  frameControl := replyFrameControl
  sequenceNumber := some sequenceNumber
  destPanId := some panId
  destAddress := destAddress
  srcPanId := none
  srcAddress := srcAddress
  payload := payload
  fcs := none

/-- A reply is written with whatever addresses it has, if it has both. -/
theorem serialize_replyOf (sequenceNumber : UInt8) (panId : UInt16) (destAddress srcAddress : Address)
    (payload : List UInt8) :
    let data := replyFrameControl.serialize ++ [sequenceNumber] ++ u16ToLeBytes panId ++
      destAddress.serialize ++ [] ++ srcAddress.serialize ++ payload
    (replyOf sequenceNumber panId (some destAddress) (some srcAddress) payload).serialize =
      .ok (data ++ u16ToLeBytes (Ieee802154.Ieee802154Frame.computeFcs data)) := by
  intro data
  have hbody : (replyOf sequenceNumber panId (some destAddress) (some srcAddress)
      payload).serializeBody = .ok data := rfl
  simp only [IEEE802154Frame.serialize, hbody, IEEE802154Frame.computeFcs_eq_toLeBytes, bind,
    Except.bind]

theorem serialize_replyOf_none (sequenceNumber : UInt8) (panId : UInt16)
    (srcAddress : Option Address) (payload : List UInt8) :
    (replyOf sequenceNumber panId none srcAddress payload).serialize = .error .attributeError := rfl

/-- A written reply is short. -/
theorem length_serialize_replyOf_lt {sequenceNumber : UInt8} {panId : UInt16}
    {destAddress srcAddress : Address} {payload data : List UInt8} (hpayload : payload.length ≤ 563)
    (h : (replyOf sequenceNumber panId (some destAddress) (some srcAddress) payload).serialize =
      .ok data) : data.length < 0x10000 := by
  have hdest := destAddress.length_serialize_le
  have hsrc := srcAddress.length_serialize_le
  have hcontrol : replyFrameControl.serialize.length = 2 := rfl
  rw [serialize_replyOf] at h
  rw [← Except.ok.inj h]
  simp only [List.length_append, List.length_cons, List.length_nil, length_u16ToLeBytes, hcontrol]
  omega

/-- A short frame that can be written goes to the radio on every channel that fits a byte. -/
theorem streamRawValue_returns_iff {channel : Int} {frame : IEEE802154Frame} {data : List UInt8}
    (h : frame.serialize = .ok data) (hlen : data.length < 0x10000) :
    (∃ value, streamRawValue channel frame = .ok value) ↔ 0 ≤ channel ∧ channel < 0x100 := by
  obtain ⟨length, hlength⟩ := uint16T_isSome_iff.mpr ⟨Int.natCast_nonneg _, Int.ofNat_lt.mpr hlen⟩
  rw [← uint8T_isSome_iff]
  unfold streamRawValue
  rw [h]
  constructor
  · rintro ⟨value, hvalue⟩
    obtain ⟨written, -, hvalue⟩ := except_bind_eq_ok.mp hvalue
    obtain ⟨length', -, hvalue⟩ := except_bind_eq_ok.mp hvalue
    obtain ⟨b, hb, -⟩ := except_bind_eq_ok.mp hvalue
    exact ⟨b, orRaise_eq_ok.mp hb⟩
  · rintro ⟨b, hb⟩
    refine ⟨_, except_bind_eq_ok.mpr ⟨data, rfl, except_bind_eq_ok.mpr ⟨length, ?_,
      except_bind_eq_ok.mpr ⟨b, ?_, rfl⟩⟩⟩⟩
    · exact orRaise_eq_ok.mpr hlength
    · exact orRaise_eq_ok.mpr hb

/-- A reply goes to the radio exactly if it has a destination and the channel fits a byte. -/
theorem streamRawValue_replyOf {channel : Int} (sequenceNumber : UInt8) (panId : UInt16)
    (destAddress : Option Address) (srcAddress : Address) {payload : List UInt8}
    (hpayload : payload.length ≤ 563) :
    (∃ value, streamRawValue channel
        (replyOf sequenceNumber panId destAddress (some srcAddress) payload) = .ok value) ↔
      destAddress.isSome ∧ 0 ≤ channel ∧ channel < 0x100 := by
  cases destAddress with
  | none =>
    rw [streamRawValue, serialize_replyOf_none]
    simp [bind, Except.bind]
  | some destAddress =>
    have hserialize := serialize_replyOf sequenceNumber panId destAddress srcAddress payload
    dsimp only at hserialize
    rw [streamRawValue_returns_iff hserialize (length_serialize_replyOf_lt hpayload hserialize)]
    simp

/-! ## The acknowledgement -/

/-- The numbers that the auxiliary header of a transmission is built from. -/
def AppState.NumbersFit (app : AppState) : Prop :=
  (0 ≤ app.txCounter ∧ app.txCounter < 0x100000000) ∧ 0 ≤ app.seq ∧ app.seq < 0x100

theorem AppState.auxHeader_isSome_iff (app : AppState) :
    (∃ header, app.auxHeader = some header) ↔ app.NumbersFit := by
  rw [NumbersFit, ← uint32T_isSome_iff, ← uint8T_isSome_iff, auxHeader]
  simp only [Option.bind_eq_bind, Option.bind_eq_some_iff]
  constructor
  · rintro ⟨header, n, hn, number, hnumber, -⟩
    exact ⟨⟨n, hn⟩, number, hnumber⟩
  · rintro ⟨⟨n, hn⟩, number, hnumber⟩
    exact ⟨_, n, hn, number, hnumber, rfl⟩

theorem AppState.extendedSource_of_auxHeader {app : AppState} {header : ZigbeeNwkAuxHeader}
    (h : app.auxHeader = some header) : header.extendedSource = some app.ieee := by
  rw [auxHeader] at h
  simp only [Option.bind_eq_bind, Option.bind_eq_some_iff] at h
  obtain ⟨n, -, number, -, h⟩ := h
  cases h
  rfl

theorem AppState.isReply_of_apsAckFrame {app : AppState} {received : ZigbeeNwkHeader}
    {aps : ZigbeeApsFrame} {reply : DecryptedZigbeeNwkFrame}
    (h : app.apsAckFrame received aps = some reply) : IsReply reply := by
  simp only [apsAckFrame, Option.bind_eq_bind, Option.bind_eq_some_iff] at h
  obtain ⟨radius, -, header, hheader, h⟩ := h
  cases h
  exact ⟨rfl, ⟨header, app.ieee, rfl, extendedSource_of_auxHeader hheader⟩, Nat.le_refl 8⟩

/-- The network frame of an acknowledgement can be built exactly if the radius can be
    decremented and the numbers of the application fit. -/
theorem AppState.apsAckFrame_isSome_iff (app : AppState) (received : ZigbeeNwkHeader)
    (aps : ZigbeeApsFrame) :
    (∃ reply, app.apsAckFrame received aps = some reply) ↔
      1 ≤ received.radius.toNat ∧ app.NumbersFit := by
  have hlt : received.radius.toNat < 256 := received.radius.toNat_lt
  have hradius : (∃ b, uint8T (received.radius.toNat - 1) = some b) ↔ 1 ≤ received.radius.toNat := by
    rw [uint8T_isSome_iff]
    omega
  rw [← hradius, ← auxHeader_isSome_iff, apsAckFrame]
  simp only [Option.bind_eq_bind, Option.bind_eq_some_iff]
  constructor
  · rintro ⟨reply, radius, hradius, header, hheader, -⟩
    exact ⟨⟨radius, hradius⟩, header, hheader⟩
  · rintro ⟨⟨radius, hradius⟩, header, hheader⟩
    exact ⟨_, radius, hradius, header, hheader, rfl⟩

variable (encryptBlock : Key → Block → Block)

/-- What the frame of a reply takes from the received frame. -/
theorem replyFrame_eq_ok {key : Key} {ieeeFrame frame : IEEE802154Frame}
    {reply : Option DecryptedZigbeeNwkFrame} (hreply : ∀ r ∈ reply, IsReply r) {panId : UInt16}
    (hpan : ieeeFrame.destPanId = some panId)
    (h : replyFrame encryptBlock key ieeeFrame reply = .ok frame) :
    ∃ r sequenceNumber encrypted payload, reply = some r ∧
      ieeeFrame.sequenceNumber = some sequenceNumber ∧ r.encrypt encryptBlock key = .ok encrypted ∧
      encrypted.serialize = .ok payload ∧ payload.length ≤ 563 ∧
      frame = replyOf sequenceNumber panId ieeeFrame.srcAddress ieeeFrame.destAddress payload := by
  obtain ⟨sequenceNumber, hsequence, h⟩ := except_bind_eq_ok.mp h
  obtain ⟨r, hr, h⟩ := except_bind_eq_ok.mp h
  have hsome := orRaise_eq_ok.mp hr
  obtain ⟨encrypted, payload, hencrypt, hpayload, hlen⟩ :=
    (hreply r hsome).exists_payload encryptBlock key
  rw [hencrypt] at h
  change (encrypted.serialize >>= _) = _ at h
  rw [hpayload] at h
  cases h
  refine ⟨r, sequenceNumber, encrypted, payload, hsome, orRaise_eq_ok.mp hsequence, hencrypt,
    hpayload, hlen, ?_⟩
  rw [replyOf, hpan]

theorem exists_replyFrame (key : Key) {ieeeFrame : IEEE802154Frame} {reply : DecryptedZigbeeNwkFrame}
    (hreply : IsReply reply) {panId : UInt16} (hpan : ieeeFrame.destPanId = some panId)
    {sequenceNumber : UInt8} (hsequence : ieeeFrame.sequenceNumber = some sequenceNumber) :
    ∃ payload, payload.length ≤ 563 ∧ replyFrame encryptBlock key ieeeFrame (some reply) =
      .ok (replyOf sequenceNumber panId ieeeFrame.srcAddress ieeeFrame.destAddress payload) := by
  obtain ⟨encrypted, payload, hencrypt, hpayload, hlen⟩ := hreply.exists_payload encryptBlock key
  refine ⟨payload, hlen, ?_⟩
  rw [replyFrame, hsequence, replyOf, ← hpan]
  simp only [orRaise, hencrypt, hpayload, bind, Except.bind]

/-- An acknowledgement can be built and written: the radius can be decremented, the received
    frame has the fields that the reply takes from it, and the numbers of the application fit
    after the counter is incremented. -/
structure PacketApp.CanAcknowledge (app : PacketApp) (ieeeFrame : IEEE802154Frame)
    (header : ZigbeeNwkHeader) : Prop where
  radius : 1 ≤ header.radius.toNat
  sequenceNumber : ieeeFrame.sequenceNumber.isSome
  srcAddress : ieeeFrame.srcAddress.isSome
  numbers : app.increment.NumbersFit
  channel : 0 ≤ app.channel ∧ app.channel < 0x100

theorem received_sendReply (answers : Answers) (attempts : Nat) (ieeeFrame : IEEE802154Frame)
    (place : AppState → AppState × Option DecryptedZigbeeNwkFrame) (s : CallbackState) :
    (sendReply encryptBlock answers attempts ieeeFrame place s).1.received = s.received := by
  unfold sendReply
  dsimp only
  split
  · rfl
  · exact received_sendAttempts answers _ attempts 0 _

/-- Where the radio answers, an acknowledgement ends well exactly if it can be built. -/
theorem sendApsAck_returns_iff {answers : Answers} (hanswers : answers.Statuses)
    {ieeeFrame : IEEE802154Frame} {panId : UInt16} (hpan : ieeeFrame.destPanId = some panId)
    {destAddress : Address} (hdest : ieeeFrame.destAddress = some destAddress)
    (header : ZigbeeNwkHeader) (aps : ZigbeeApsFrame) (s : CallbackState) :
    (∃ status, (sendApsAck encryptBlock answers ieeeFrame header aps s).2 = .ok status) ↔
      s.app.CanAcknowledge ieeeFrame header := by
  have hack := AppState.apsAckFrame_isSome_iff s.app.increment header aps
  unfold sendApsAck sendReply AppState.sendApsAck
  dsimp only
  constructor
  · rintro ⟨status, hstatus⟩
    cases hreply : replyFrame encryptBlock s.app.increment.key ieeeFrame
        (s.app.increment.apsAckFrame header aps) with
    | error e =>
      rw [hreply] at hstatus
      cases hstatus
    | ok frame =>
      rw [hreply] at hstatus
      obtain ⟨r, sequenceNumber, encrypted, payload, hr, hsequence, -, -, hlen, hframe⟩ :=
        replyFrame_eq_ok encryptBlock (fun _ hmem => AppState.isReply_of_apsAckFrame hmem) hpan hreply
      obtain ⟨hradius, hnumbers⟩ := hack.mp ⟨r, hr⟩
      have hwritten := (sendAttempts_returns_iff hanswers frame 0 0 _).mp ⟨status, hstatus⟩
      rw [hframe, hdest] at hwritten
      obtain ⟨hsrc, hchannel⟩ := (streamRawValue_replyOf _ _ _ _ hlen).mp hwritten
      refine ⟨hradius, ?_, hsrc, hnumbers, hchannel⟩
      rw [hsequence]
      rfl
  · intro h
    obtain ⟨reply, happ⟩ := hack.mpr ⟨h.radius, h.numbers⟩
    obtain ⟨sequenceNumber, hsequence⟩ := Option.isSome_iff_exists.mp h.sequenceNumber
    obtain ⟨payload, hlen, hreply⟩ := exists_replyFrame encryptBlock s.app.increment.key
      (AppState.isReply_of_apsAckFrame happ) hpan hsequence
    rw [happ, hreply, hdest]
    apply (sendAttempts_returns_iff hanswers _ 0 0 _).mpr
    exact (streamRawValue_replyOf _ _ _ _ hlen).mpr ⟨h.srcAddress, h.channel⟩

/-! ## Delivery -/

/-- The value holds a data frame of this PAN that passes the destination filter, and its
    network frame decrypts to a data frame with an application data frame in it. -/
structure PacketApp.AcceptsData (app : PacketApp) (value : List UInt8) (r : ReceivedFrame)
    (aps : ZigbeeApsFrame) : Prop where
  parsed : parseFrame value = .ok r.ieeeFrame
  frameType : r.ieeeFrame.frameControl.frameType = .data
  panId : r.ieeeFrame.destPanId = some app.panId
  destination : app.addressedElsewhere r.ieeeFrame = false
  nwkFrame : ZigbeeNwkFrame.fromBytes r.ieeeFrame.payload = .ok r.nwkFrame
  decrypted : r.nwkFrame.decrypt encryptBlock app.key = .ok r.decrypted
  nwkType : r.decrypted.nwkHeader.frameControl.frameType = .data
  apsFrame : ZigbeeApsFrame.fromBytes r.decrypted.payload = .ok aps
  apsType : aps.frameControl.frameType = .data

theorem PacketApp.AcceptsData.packetCallback_eq {app : PacketApp} {value : List UInt8}
    {r : ReceivedFrame} {aps : ZigbeeApsFrame} (h : app.AcceptsData encryptBlock value r aps)
    (answers : Answers) :
    packetCallback encryptBlock answers app value =
      handleAps encryptBlock answers r aps (.start app) := by
  have hignores : app.ignores r.ieeeFrame = false := by
    rw [PacketApp.ignores, h.frameType, h.panId, h.destination]
    simp
  have hreceive : receive encryptBlock app value = .ok (some r) := by
    simp only [receive, h.parsed, hignores, h.nwkFrame, h.decrypted, bind, Except.bind]
    rfl
  have hroute : isRouteRequest r.decrypted = .ok false := by
    rw [isRouteRequest, h.nwkType]
    rfl
  simp only [packetCallback, hreceive, handleFrame, hroute, h.nwkType, h.apsFrame]
  rfl

/-- A frame with a destination PAN id has a destination address. -/
theorem exists_destAddress {value : List UInt8} {frame : IEEE802154Frame}
    (h : parseFrame value = .ok frame) {panId : UInt16} (hpan : frame.destPanId = some panId) :
    ∃ address, frame.destAddress = some address := by
  obtain ⟨⟨frameLen, data⟩, -, h⟩ := except_bind_eq_ok.mp h
  obtain ⟨hwf, -⟩ := IEEE802154Frame.of_fromBytes h
  have hhas := hwf.destPanId.mpr (by rw [hpan]; rfl)
  exact Option.isSome_iff_exists.mp
    ((IEEE802154Frame.isSome_of_announces hwf.destAddress).mp hhas)

/-- An accepted data frame is given to `zigpy`, once and with its own fields, exactly if it asks
    for no acknowledgement or one can be built. -/
theorem delivered_iff {answers : Answers} (hanswers : answers.Statuses) {app : PacketApp}
    {value : List UInt8} {r : ReceivedFrame} {aps : ZigbeeApsFrame}
    (h : app.AcceptsData encryptBlock value r aps) :
    (packetCallback encryptBlock answers app value).1.received =
        [receivedPacket r.nwkFrame.nwkHeader aps] ↔
      (aps.frameControl.ackRequest = true →
        app.CanAcknowledge r.ieeeFrame r.nwkFrame.nwkHeader) := by
  obtain ⟨-, hdecrypted⟩ := EncryptedZigbeeNwkFrame.of_decrypt h.decrypted
  have hheader : r.decrypted.nwkHeader = r.nwkFrame.nwkHeader :=
    congrArg (fun frame => frame.nwkHeader) hdecrypted
  obtain ⟨destAddress, hdest⟩ := exists_destAddress h.parsed h.panId
  have hack := sendApsAck_returns_iff encryptBlock hanswers h.panId hdest
    r.nwkFrame.nwkHeader aps (.start app)
  have hreceived : (sendApsAck encryptBlock answers r.ieeeFrame r.nwkFrame.nwkHeader aps
      (.start app)).1.received = [] := by
    rw [sendApsAck, received_sendReply]
    rfl
  rw [h.packetCallback_eq, handleAps, h.apsType, hheader]
  rw [if_neg (by simp)]
  cases hrequest : aps.frameControl.ackRequest with
  | false => simp [CallbackState.start, CallbackState.received, CallbackState.log]
  | true =>
    rw [if_pos rfl]
    rcases hsent : sendApsAck encryptBlock answers r.ieeeFrame r.nwkFrame.nwkHeader aps
        (.start app) with ⟨t, result⟩
    rw [hsent] at hack hreceived
    cases result with
    | error e =>
      have hnot : ¬ app.CanAcknowledge r.ieeeFrame r.nwkFrame.nwkHeader := by
        intro hcan
        obtain ⟨status, hstatus⟩ := hack.mpr hcan
        cases hstatus
      simp [hreceived, hnot]
    | ok status =>
      have hcan : app.CanAcknowledge r.ieeeFrame r.nwkFrame.nwkHeader := hack.mp ⟨status, rfl⟩
      simp [hreceived, hcan]

/-- AES-128 under the network key on the blocks of the frames in the examples. -/
def coordinatorBlocks : List (Nat × Nat) := [
    -- a route request of the node `0x1234`, and the reply to it
    (0x490102030405060708050000002d0006, 0x0f316350da4dd9b1fddd7791aeff6481),
    (0x0f2f6a4226b2eda3e3dc7693adfb6187, 0x09d03ba36924e0d4f4cab75ec477c35d),
    (0x0ed816a66924e0d5f6c9b35bc270cb5d, 0xa03ec353a7af5babc2b3adc1dd598338),
    (0xa13ed253a7af5babc2b3adc1dd598338, 0xc134cdfb2e23b403b2e4f8783b6499fc),
    (0x010102030405060708050000002d0000, 0xf50ceed26054811e975611921b46961c),
    (0x010102030405060708050000002d0001, 0xb87c592f4e804bd89fd572c62e2cf7f5),
    (0x4946b8a11c004b1200e90300002d0008, 0x08dd5e7c5add00e0d0e49744ddc66ceb),
    (0x08fb57666ecf00e0cee59646dec269ed, 0x7cca61b7743980604f01cd9919ede892),
    (0x7bc2270fd525802b5d01e0701aede8d4, 0xbf812be41c65e6eaca2fe2eeac6ba665),
    (0x072037e45777e6eaca2fe2eeac6ba665, 0xdf7b157850f18be52faf9bbc1972f541),
    (0xdd7b077850f18be42faf9bbc1972f541, 0x9387fd8aec1b682f02b60024d49025e6),
    (0x0146b8a11c004b1200e90300002d0000, 0x909b5a76fc62acf0d4c963ef75f72a8f),
    (0x0146b8a11c004b1200e90300002d0001, 0x51c4ee8565f7a671c70aa47a54d3aca7),
    -- a data frame of the node with the radiuses 0 and 30, and the acknowledgement of it
    (0x490102030405060708050000002d0009, 0x2e5e983a17b1674fcb21918864350fab),
    (0x2e48903817b1535dcb20bc8d64350faa, 0x877e1cd58b57a503503e85c655d93d56),
    (0x857d18d08d50ad03503e85c655d93d56, 0xbaa8c95d52ed2e97ddcfbd51b1cf4b9c),
    (0xfaa9cf5d56ec2f9077cfbd51b1cf4b9c, 0x8d79a983cefa71e379b84d566a39f1d2),
    (0x2e48903817b1535dd520bc8d64350faa, 0x823b1e63570989ec39a9f89374501eb8),
    (0x80381a66510e81ec39a9f89374501eb8, 0xf3b5f7f0da2bd523b4f6fa413f189bb1),
    (0xb3b4f1f0de2ad4241ef6fa413f189bb1, 0x5938d2d46c00b143b2e7caf8a88b44a5),
    (0x08cb567e6ecf00e0cde5baaddec66cad, 0xa8fcff9b10eea1729b226f16a7988b2f),
    (0x105de39b5bfca1729b226f16a7988b2f, 0x04ec472de52d0836539c4e2658a89dd9),
    (0x06ed412de12c0931539c4e2658a89dd9, 0xad841101838c0bf2ca7290d77775d225),
    (0x4946b8a11c004b1200ea0300002d0008, 0x9a210ccc5b2d3e082ca45c21f8b9d9fd),
    (0x9a3704ce6f3f3e0831a571cbfbb9d9bb, 0xe61a531692133442f584a0f5e8a5eb3c),
    (0x5ebb4f16d9013442f584a0f5e8a5eb3c, 0x16dbba92ceb4f9b90aff5332cbba83af),
    (0x14dabc92cab5f8be0aff5332cbba83af, 0x439ee7f2438d4f227444324d8d078c3b),
    (0x0146b8a11c004b1200ea0300002d0000, 0xb0b65fd8d55571521629030af71640ce),
    (0x0146b8a11c004b1200ea0300002d0001, 0xe56886854b999cfb7a1a3437d916b9ec),
    -- a packet for the node, and the acknowledgement of it
    (0x4946b8a11c004b1200e90300002d000b, 0x8d3ee4245dbfbcfd46e4aeae5be1b264),
    (0x8d28ec2669adbcfd58e3834758e1b222, 0xd1796e7e82a3168dcd794df60fb359bd),
    (0x69d8727ec9b1168dcd794df60fb359bd, 0x559e09d31c74802fc4896dfd065ac691),
    (0x159f0fd318758128c58e6ffd065ac691, 0x519965a6cd6ef0b651cef6b3c28bb2b5),
    (0x490102030405060708e90300002d0008, 0x962b1ac8c906c9e3ccb25fa56fa9a511),
    (0x963d12cac906fdf1d1b5724c6ca9a510, 0x7784cf66d8d6c8495fd15a73798706d1),
    (0x7587cb63ded1c0495fd15a73798706d1, 0xe5500685baa4d34fdac2b95f42e3e8c1),
    (0xe7510085bea5d248dac2b95f42e3e8c1, 0xa67137e73749ea98e64a2b73deedb1bd),
    (0x010102030405060708e90300002d0000, 0x957fa0afecdf26c2033ede08e81f49a6),
    (0x010102030405060708e90300002d0001, 0xb85f4b6df62fb24b995c6a8852c8e1be),
    -- another packet for it, under two frame counters
    (0x8d28ec2669adbcfd58ec834758e1b222, 0x1a992d82497542609c52a2ad34b03c3f),
    (0xa2383182026742609c52a2ad34b03c3f, 0xa0f7b49392f0013eee4e95d4262d3c13),
    (0xe0f6b29396f10036ef4695d4262d3c13, 0x7ef703c7ef2d64e60aa716aaa8f76bfa),
    (0x4946b8a11c004b1200d20700002d000b, 0xd0ddb346e4aeff81bf87ef204b0fd525),
    (0xd0cbbb44d0bcff81a18fc2f24c0fd563, 0xc818bba04fd2a740424705473c59d4cb),
    (0x70b9a7a004c0a740424705473c59d4cb, 0x96038f9737ec75186faab78d29c77e19),
    (0xd602899733ed74106ea2b78d29c77e19, 0xd5293f580916373fe96b4244b74d5b3b),
    (0x0146b8a11c004b1200d20700002d0000, 0x77e0397d322eab87e7222a237a41a32a),
    (0x0146b8a11c004b1200d20700002d0001, 0x52e20a827a5d99c6715c4a0fc9d56ab4) ]

/-- A number as a block, highest byte first. -/
def blockOfNat (n : Nat) : Block := ⟨beBytes 16 n, length_beBytes 16 n⟩

/-- Under other keys, and on other blocks, it is not AES. -/
def coordinatorAes : Key → Block → Block := fun key block =>
  if key = (AppState.loadNetworkInfo 0).key then
    ((coordinatorBlocks.lookup (ofLe block.val.reverse)).map blockOfNat).getD Block.zero
  else Block.zero

/-- The integrity code of the following frame under the two radiuses. -/
def requestMic (radius : UInt8) : List UInt8 :=
  if radius = 0 then [0x78, 0x75, 0x47, 0x51] else [0xac, 0x34, 0x3c, 0x06]

def requestFcs (radius : UInt8) : List UInt8 := if radius = 0 then [0x68, 0x86] else [0x94, 0x7e]

/-- A value of `STREAM_RAW` from the node `0x1234`, with an application frame of one byte that
    asks for an acknowledgement. -/
def requestValue (radius : UInt8) : List UInt8 :=
  [0x2e, 0x00, 0x61, 0x88, 0x01, 0x0d, 0x9f, 0x00, 0x00, 0x34, 0x12,
    0x08, 0x02, 0x00, 0x00, 0x34, 0x12, radius, 0x01,
    0x28, 0x05, 0x00, 0x00, 0x00, 0x01, 0x02, 0x03, 0x04, 0x05, 0x06, 0x07, 0x08, 0x00,
    0xf8, 0x7d, 0x5f, 0x2f, 0x4a, 0x81, 0x4a, 0xdf, 0x35] ++ requestMic radius ++ requestFcs radius

/-- The radio answers that it has sent the frame. -/
def okAnswers : Answers := fun _ => .ok (.lastStatus, [0x00])

theorem statuses_okAnswers : okAnswers.Statuses := fun _ => ⟨0x00, [], rfl⟩

/-- The application frame in it. -/
def requestAps : ZigbeeApsFrame where
  frameControl := {
    frameType := .data
    deliveryMode := .unicast
    reserved := false
    security := false
    ackRequest := true
    extendedHeader := false }
  destinationEndpoint := 1
  clusterId := 0x0006
  profileId := 0x0104
  sourceEndpoint := 1
  counter := 7
  asdu := [0xaa]

/-- The network frame in it. -/
def requestNwkFrame (radius : UInt8) : EncryptedZigbeeNwkFrame where
  nwkHeader := {
    frameControl := {
      frameType := .data
      protocolVersion := 2
      discoverRoute := .suppress
      multicast := false
      security := true
      sourceRoute := false
      destination := false
      extendedSource := false
      endDeviceInitiator := false
      reserved := 0b00 }
    destination := ⟨0x0000⟩
    source := ⟨0x1234⟩
    radius := radius
    sequenceNumber := 1
    destinationIeee := none
    sourceIeee := none
    multicastControl := none
    sourceRouteRelayIndex := none
    sourceRoute := none }
  auxHeader := some {
    securityControl := AppState.securityControl
    frameCounter := 5
    extendedSource := some ⟨[0x01, 0x02, 0x03, 0x04, 0x05, 0x06, 0x07, 0x08], rfl⟩
    keySequenceNumber := 0 }
  payload := [0xf8, 0x7d, 0x5f, 0x2f, 0x4a, 0x81, 0x4a, 0xdf, 0x35] ++ requestMic radius

/-- What the callback makes of it. -/
def requestReceived (radius : UInt8) : ReceivedFrame where
  ieeeFrame := {
    frameControl := replyFrameControl
    sequenceNumber := some 1
    destPanId := some 0x9f0d
    destAddress := some (.nwk ⟨0x0000⟩)
    srcPanId := some 0x9f0d
    srcAddress := some (.nwk ⟨0x1234⟩)
    payload := ((requestValue radius).take 46).drop 11
    fcs := some (requestFcs radius) }
  nwkFrame := requestNwkFrame radius
  decrypted := ⟨{ (requestNwkFrame radius).toZigbeeNwkFrame with payload := requestAps.serialize }⟩

/-- The coordinator accepts it, but does not deliver it if its radius is zero. -/
theorem radius_zero_not_delivered :
    (PacketApp.loadNetworkInfo 0).AcceptsData coordinatorAes (requestValue 0) (requestReceived 0)
      requestAps ∧
    (packetCallback coordinatorAes okAnswers (PacketApp.loadNetworkInfo 0)
      (requestValue 0)).1.received = [] := by
  constructor
  · exact ⟨by decide +kernel, rfl, rfl, rfl, by decide +kernel, by decide +kernel, rfl,
      by decide +kernel, rfl⟩
  · decide +kernel

/-- With a larger radius it is delivered. -/
theorem delivered_iff_requestValue :
    (packetCallback coordinatorAes okAnswers (PacketApp.loadNetworkInfo 0)
          (requestValue 30)).1.received =
        [receivedPacket (requestNwkFrame 30).nwkHeader requestAps] ↔
      (requestAps.frameControl.ackRequest = true →
        (PacketApp.loadNetworkInfo 0).CanAcknowledge (requestReceived 30).ieeeFrame
          (requestNwkFrame 30).nwkHeader) := by
  have haccepts : (PacketApp.loadNetworkInfo 0).AcceptsData coordinatorAes (requestValue 30)
      (requestReceived 30) requestAps :=
    ⟨by decide +kernel, rfl, rfl, rfl, by decide +kernel, by decide +kernel, rfl,
      by decide +kernel, rfl⟩
  exact delivered_iff coordinatorAes statuses_okAnswers haccepts

end ZigpySpinel.Python
