import ZigpySpinel.Python.Proofs.ApsCodec
import ZigpySpinel.Python.Proofs.Replies
import ZigpySpinel.Python.SendPacket

/-!
# What `send_packet` sends

The network frame of a packet has its fields as its flags announce them, so that it is read
and decrypted as it was built. A packet goes to the radio exactly if its numbers and those of
the application fit their fields and the whole frame is not too long for its length field. Then
one and the same value is sent until the radio reports something other than `NO_ACK`, five times
at most.
-/

namespace ZigpySpinel.Python
open Lib

/-! ## Secured network frames -/

/-- A frame with fields as its flags announce them, and with an auxiliary header that has an
    extended source. -/
structure DecryptedZigbeeNwkFrame.Secured (frame : DecryptedZigbeeNwkFrame) : Prop where
  nwkHeader : frame.nwkHeader.WellFormed
  security : frame.nwkHeader.frameControl.security = true
  auxHeader : ∃ auxHeader source, frame.auxHeader = some auxHeader ∧
    auxHeader.extendedSource = some source ∧ auxHeader.securityControl.extendedNonce = true

section Secured

variable (encryptBlock : Key → Block → Block) (key : Key)

/-- A longer payload has no length field. -/
theorem DecryptedZigbeeNwkFrame.length_of_encrypt {encryptBlock : Key → Block → Block} {key : Key}
    {frame : DecryptedZigbeeNwkFrame} {g : EncryptedZigbeeNwkFrame}
    (h : frame.encrypt encryptBlock key = .ok g) :
    frame.payload.length < 65536 := by
  rw [encrypt] at h
  obtain ⟨⟨L, M⟩, hLM, h⟩ := except_bind_eq_ok.mp h
  obtain ⟨aux, -, h⟩ := except_bind_eq_ok.mp h
  obtain ⟨nonce, -, h⟩ := except_bind_eq_ok.mp h
  obtain ⟨mac, hmac, -⟩ := except_bind_eq_ok.mp h
  have hL : L = 2 := by
    rw [ZigbeeNwkFrame.getEncryptionLM] at hLM
    split at hLM
    · cases hLM
    · cases hLM
      rfl
  obtain ⟨header, -, hmac⟩ := except_bind_eq_ok.mp hmac
  obtain ⟨auxBytes, -, hmac⟩ := except_bind_eq_ok.mp hmac
  obtain ⟨authLength, -, hmac⟩ := except_bind_eq_ok.mp hmac
  obtain ⟨textLength, htext, -⟩ := except_bind_eq_ok.mp hmac
  rw [hL, toBytesBig] at htext
  split at htext
  next hfits => omega
  · cases htext

/-- A secured frame is encrypted under CCM, whatever its payload is that has a length field. -/
theorem DecryptedZigbeeNwkFrame.Secured.encrypt_eq {frame : DecryptedZigbeeNwkFrame}
    (h : frame.Secured) (hlen : frame.payload.length < 65536) :
    ∃ auxHeader source, frame.auxHeader = some auxHeader ∧
      auxHeader.extendedSource = some source ∧
      frame.encrypt encryptBlock key = .ok ⟨{ frame.toZigbeeNwkFrame with
        payload := ccmPayload encryptBlock key auxHeader source frame.nwkHeader.body
          frame.payload }⟩ := by
  obtain ⟨auxHeader, source, haux, hsource, -⟩ := h.auxHeader
  exact ⟨auxHeader, source, haux, hsource, frame.encrypt_eq encryptBlock key haux hsource
    (ZigbeeNwkHeader.serialize_eq h.nwkHeader) hlen⟩

/-- The encrypted frame is written, with its header in front. -/
theorem DecryptedZigbeeNwkFrame.Secured.serialize_eq {frame : DecryptedZigbeeNwkFrame}
    (h : frame.Secured) (payload : List UInt8) :
    ({ frame.toZigbeeNwkFrame with payload := payload } : ZigbeeNwkFrame).serialize =
      .ok (frame.nwkHeader.body ++ encodeOptional ZigbeeNwkAuxHeader.body frame.auxHeader ++
        payload) := by
  obtain ⟨auxHeader, source, haux, hsource, -⟩ := h.auxHeader
  have hserialize : auxHeader.serialize = .ok auxHeader.body := by
    rw [ZigbeeNwkAuxHeader.serialize_eq, hsource]
    rfl
  simp only [ZigbeeNwkFrame.serialize, ZigbeeNwkHeader.serialize_eq h.nwkHeader, haux, hserialize,
    bind, Except.bind, encodeOptional]

/-- The frame has its fields as its flags announce them, whatever its payload is. -/
theorem DecryptedZigbeeNwkFrame.Secured.wellFormed {frame : DecryptedZigbeeNwkFrame}
    (h : frame.Secured) (payload : List UInt8) :
    ZigbeeNwkFrame.WellFormed { frame.toZigbeeNwkFrame with payload := payload } := by
  obtain ⟨auxHeader, source, haux, hsource, hflag⟩ := h.auxHeader
  refine ⟨h.nwkHeader, ?_, ?_⟩
  · simp [h.security, haux]
  · intro aux hmem
    rw [haux, Option.mem_some_iff] at hmem
    subst hmem
    simp [ZigbeeNwkAuxHeader.WellFormed, hflag, hsource]

/-- What is encrypted and written is read and decrypted to the same frame. -/
theorem DecryptedZigbeeNwkFrame.Secured.read_back {encryptBlock : Key → Block → Block} {key : Key}
    {frame : DecryptedZigbeeNwkFrame} {g : EncryptedZigbeeNwkFrame} {bytes : List UInt8}
    (h : frame.Secured) (hencrypt : frame.encrypt encryptBlock key = .ok g)
    (hbytes : g.serialize = .ok bytes) :
    ZigbeeNwkFrame.fromBytes bytes = .ok g ∧ g.decrypt encryptBlock key = .ok frame := by
  have hlen := DecryptedZigbeeNwkFrame.length_of_encrypt hencrypt
  obtain ⟨auxHeader, source, haux, hsource, -⟩ := h.auxHeader
  have hheader := ZigbeeNwkHeader.serialize_eq h.nwkHeader
  rw [frame.encrypt_eq encryptBlock key haux hsource hheader hlen] at hencrypt
  cases hencrypt
  have hccm : (ccmPayload encryptBlock key auxHeader source frame.nwkHeader.body
      frame.payload).length = frame.payload.length + 4 := length_ccmPayload encryptBlock key _
  constructor
  · rw [h.serialize_eq] at hbytes
    rw [← Except.ok.inj hbytes]
    generalize ccmPayload encryptBlock key auxHeader source frame.nwkHeader.body
      frame.payload = payload
    have hbody := ZigbeeNwkFrame.fromBytes_body (h.wellFormed payload)
    rw [ZigbeeNwkFrame.body] at hbody
    exact hbody
  · refine (EncryptedZigbeeNwkFrame.decrypt_eq_ok_iff encryptBlock key haux hsource hheader
      ?_ (by dsimp only; omega)).mpr ⟨rfl, ?_⟩
    · intro hnil
      dsimp only at hnil
      rw [hnil] at hccm
      cases hccm
    · have hnone : 4 - (frame.payload.length + 4) = 0 := by omega
      rw [textOf_append_tagOf, hccm, hnone, List.replicate_zero, List.append_nil]

end Secured

/-! ## The network frame of a packet -/

/-- The numbers of a packet fit the fields that they are put into. -/
structure ZigbeePacket.Fits (packet : ZigbeePacket) : Prop where
  radius : 0 ≤ packet.radius ∧ packet.radius < 0x100
  tsn : 0 ≤ packet.tsn ∧ packet.tsn < 0x100
  srcEp : 0 ≤ packet.srcEp ∧ packet.srcEp < 0x100
  dstEp : 0 ≤ packet.dstEp ∧ packet.dstEp < 0x100
  clusterId : 0 ≤ packet.clusterId ∧ packet.clusterId < 0x10000
  profileId : 0 ≤ packet.profileId ∧ packet.profileId < 0x10000

/-- What `zigpy` gets has the fields of a packet that was sent. -/
structure ReceivedPacket.Carries (received : ReceivedPacket) (packet : ZigbeePacket) : Prop where
  src : received.src = .nwk packet.srcAddress
  srcEp : (received.srcEp.toNat : Int) = packet.srcEp
  dst : received.dst = .nwk packet.dstAddress
  dstEp : (received.dstEp.toNat : Int) = packet.dstEp
  tsn : (received.tsn.toNat : Int) = packet.tsn
  profileId : (received.profileId.toNat : Int) = packet.profileId
  clusterId : (received.clusterId.toNat : Int) = packet.clusterId
  data : received.data = packet.data
  radius : (received.radius.toNat : Int) = if packet.radius = 0 then 30 else packet.radius

/-- A network frame holds a packet in an application frame. -/
structure DecryptedZigbeeNwkFrame.Holds (frame : DecryptedZigbeeNwkFrame) (packet : ZigbeePacket)
    (aps : ZigbeeApsFrame) : Prop where
  secured : frame.Secured
  nwkType : frame.nwkHeader.frameControl.frameType = .data
  radius : 1 ≤ frame.nwkHeader.radius.toNat
  payload : frame.payload = aps.serialize
  apsType : aps.frameControl.frameType = .data
  ackRequest : aps.frameControl.ackRequest = packet.ackRequested
  fields : (receivedPacket frame.nwkHeader aps).Carries packet

theorem uint8T_eq_some {n : Int} {value : UInt8} (h : uint8T n = some value) :
    n = value.toNat := by
  have hn := uint8T_isSome_iff.mp ⟨value, h⟩
  rw [uint8T, if_pos hn, Option.some.injEq] at h
  rw [← h, UInt8.toNat_ofNat', Nat.mod_eq_of_lt (by omega)]
  omega

/-- Of a frame whose flags are all clear, the optional fields are absent. -/
theorem ZigbeeNwkHeader.wellFormed_plain {header : ZigbeeNwkHeader}
    (hflags : header.frameControl.destination = false ∧ header.frameControl.extendedSource = false ∧
      header.frameControl.multicast = false ∧ header.frameControl.sourceRoute = false)
    (hfields : header.destinationIeee = none ∧ header.sourceIeee = none ∧
      header.multicastControl = none ∧ header.sourceRouteRelayIndex = none ∧
      header.sourceRoute = none) : header.WellFormed := by
  obtain ⟨hdestination, hsource, hmulticast, hroute⟩ := hflags
  obtain ⟨hdestIeee, hsourceIeee, hcontrol, hindex, hrelays⟩ := hfields
  have hnone : header.route = none := by rw [ZigbeeNwkHeader.route, hindex]
  constructor
  · simp [hdestination, hdestIeee]
  · simp [hsource, hsourceIeee]
  · simp [hmulticast, hcontrol]
  · simp [hroute, hnone]
  · rw [hindex, hnone, Option.map_none]
  · rw [hrelays, hnone, Option.map_none]
  · simp [hnone]

theorem AppState.fields_of_auxHeader {app : AppState} {header : ZigbeeNwkAuxHeader}
    (h : app.auxHeader = some header) :
    header.securityControl = securityControl ∧ header.extendedSource = some app.ieee ∧
      app.txCounter = header.frameCounter.toNat := by
  rw [auxHeader] at h
  simp only [Option.bind_eq_bind, Option.bind_eq_some_iff] at h
  obtain ⟨n, hn, number, -, h⟩ := h
  cases h
  exact ⟨rfl, rfl, uint32T_eq_some hn⟩

/-- The network frame of a packet holds it. -/
theorem AppState.holds_of_packetFrame {app : AppState} {packet : ZigbeePacket}
    {frame : DecryptedZigbeeNwkFrame} (h : app.packetFrame packet = some frame) :
    ∃ aps, frame.Holds packet aps := by
  simp only [packetFrame, Option.bind_eq_bind, Option.bind_eq_some_iff] at h
  obtain ⟨radius, hradius, sequenceNumber, -, auxHeader, haux, dstEp, hdstEp, clusterId, hcluster,
    profileId, hprofile, srcEp, hsrcEp, counter, hcounter, h⟩ := h
  cases h
  obtain ⟨hcontrol, hsource, -⟩ := fields_of_auxHeader haux
  have hradius := uint8T_eq_some hradius
  refine ⟨_, {
    secured := {
      nwkHeader := ZigbeeNwkHeader.wellFormed_plain ⟨rfl, rfl, rfl, rfl⟩ ⟨rfl, rfl, rfl, rfl, rfl⟩
      security := rfl
      auxHeader := ⟨auxHeader, app.ieee, rfl, hsource, by rw [hcontrol]; rfl⟩ }
    nwkType := rfl
    radius := ?_
    payload := rfl
    apsType := rfl
    ackRequest := rfl
    fields := {
      src := rfl
      srcEp := (uint8T_eq_some hsrcEp).symm
      dst := rfl
      dstEp := (uint8T_eq_some hdstEp).symm
      tsn := (uint8T_eq_some hcounter).symm
      profileId := (uint16T_eq_some hprofile).symm
      clusterId := (uint16T_eq_some hcluster).symm
      data := rfl
      radius := hradius.symm } }⟩
  dsimp only
  split at hradius <;> omega

/-- The network frame can be built exactly if the numbers of the packet and those of the
    application fit. -/
theorem AppState.packetFrame_isSome_iff (app : AppState) (packet : ZigbeePacket) :
    (∃ frame, app.packetFrame packet = some frame) ↔ packet.Fits ∧ app.NumbersFit := by
  have hradius : (∃ b, uint8T (if packet.radius = 0 then 30 else packet.radius) = some b) ↔
      0 ≤ packet.radius ∧ packet.radius < 0x100 := by
    rw [uint8T_isSome_iff]
    split <;> omega
  rw [← auxHeader_isSome_iff, packetFrame]
  simp only [Option.bind_eq_bind, Option.bind_eq_some_iff]
  constructor
  · rintro ⟨frame, radius, hr, sequenceNumber, hseq, aux, haux, dstEp, hdst, clusterId, hcluster,
      profileId, hprofile, srcEp, hsrc, counter, hcounter, -⟩
    exact ⟨{
      radius := hradius.mp ⟨radius, hr⟩
      tsn := uint8T_isSome_iff.mp ⟨sequenceNumber, hseq⟩
      srcEp := uint8T_isSome_iff.mp ⟨srcEp, hsrc⟩
      dstEp := uint8T_isSome_iff.mp ⟨dstEp, hdst⟩
      clusterId := uint16T_isSome_iff.mp ⟨clusterId, hcluster⟩
      profileId := uint16T_isSome_iff.mp ⟨profileId, hprofile⟩ }, aux, haux⟩
  · rintro ⟨hfits, aux, haux⟩
    obtain ⟨radius, hr⟩ := hradius.mpr hfits.radius
    obtain ⟨sequenceNumber, hseq⟩ := uint8T_isSome_iff.mpr hfits.tsn
    obtain ⟨srcEp, hsrc⟩ := uint8T_isSome_iff.mpr hfits.srcEp
    obtain ⟨dstEp, hdst⟩ := uint8T_isSome_iff.mpr hfits.dstEp
    obtain ⟨clusterId, hcluster⟩ := uint16T_isSome_iff.mpr hfits.clusterId
    obtain ⟨profileId, hprofile⟩ := uint16T_isSome_iff.mpr hfits.profileId
    exact ⟨_, radius, hr, sequenceNumber, hseq, aux, haux, dstEp, hdst, clusterId, hcluster,
      profileId, hprofile, srcEp, hsrc, sequenceNumber, hseq, rfl⟩

/-! ## The frame around it -/

variable (encryptBlock : Key → Block → Block)

/-- What the frame of a packet is made of. -/
theorem packetIeeeFrame_eq_ok {app : PacketApp} {packet : OutgoingPacket}
    {nwkFrame : Option DecryptedZigbeeNwkFrame} {frame : IEEE802154Frame}
    (h : packetIeeeFrame encryptBlock app packet nwkFrame = .ok frame) :
    ∃ sequenceNumber nwk encrypted payload, nwkFrame = some nwk ∧
      nwk.encrypt encryptBlock app.key = .ok encrypted ∧ encrypted.serialize = .ok payload ∧
      frame = replyOf sequenceNumber app.panId (some (.nwk packet.destAddress))
        (some (.nwk packet.srcAddress)) payload := by
  obtain ⟨sequenceNumber, -, h⟩ := except_bind_eq_ok.mp h
  obtain ⟨nwk, hnwk, h⟩ := except_bind_eq_ok.mp h
  obtain ⟨encrypted, hencrypt, h⟩ := except_bind_eq_ok.mp h
  obtain ⟨payload, hpayload, h⟩ := except_bind_eq_ok.mp h
  cases h
  exact ⟨sequenceNumber, nwk, encrypted, payload, orRaise_eq_ok.mp hnwk, hencrypt, hpayload, rfl⟩

/-- The application after a frame counter is used up. -/
def PacketApp.counted (app : PacketApp) : PacketApp := { app with toAppState := app.increment }

/-- The frame that `send_packet` sends. -/
def PacketApp.frameOf (app : PacketApp) (packet : OutgoingPacket) :
    Except PyException IEEE802154Frame :=
  packetIeeeFrame encryptBlock app.counted packet
    (app.increment.packetFrame packet.toZigbeePacket)

/-- Sending a packet uses up a frame counter, also where there is no frame. -/
theorem sendPacket_of_error {packet : OutgoingPacket} {app : PacketApp} {e : PyException}
    (answers : Answers) (h : app.frameOf encryptBlock packet = .error e) :
    sendPacket encryptBlock answers packet (.start app) = (.start app.counted, .error e) := by
  rw [PacketApp.frameOf, PacketApp.counted] at h
  simp only [sendPacket, AppState.sendPacket, CallbackState.start, h]
  rfl

theorem sendPacket_of_ok {packet : OutgoingPacket} {app : PacketApp} {frame : IEEE802154Frame}
    (answers : Answers) (h : app.frameOf encryptBlock packet = .ok frame) :
    sendPacket encryptBlock answers packet (.start app) =
      ((sendSpinelFrame answers frame 5 (.start app.counted)).1,
        (sendSpinelFrame answers frame 5 (.start app.counted)).2.map fun _ => ()) := by
  rw [PacketApp.frameOf, PacketApp.counted] at h
  simp only [sendPacket, AppState.sendPacket, CallbackState.start, h]
  rw [PacketApp.counted]
  rcases sendSpinelFrame answers frame 5 _ with ⟨s, e | status⟩
  · rfl
  · rfl

theorem mem_transmitted_sendPacket {answers : Answers} {packet : OutgoingPacket} {app : PacketApp}
    {value : List UInt8}
    (h : value ∈ (sendPacket encryptBlock answers packet (.start app)).1.transmitted) :
    ∃ frame, app.frameOf encryptBlock packet = .ok frame ∧
      streamRawValue app.channel frame = .ok value := by
  cases hframe : app.frameOf encryptBlock packet with
  | error e =>
    rw [sendPacket_of_error encryptBlock answers hframe] at h
    cases h
  | ok frame =>
    rw [sendPacket_of_ok encryptBlock answers hframe] at h
    rcases mem_transmitted_sendAttempts h with hnone | hvalue
    · cases hnone
    · exact ⟨frame, rfl, hvalue⟩

/-- Sending a packet delivers nothing. -/
theorem received_sendPacket (answers : Answers) (packet : OutgoingPacket) (app : PacketApp) :
    (sendPacket encryptBlock answers packet (.start app)).1.received = [] := by
  cases hframe : app.frameOf encryptBlock packet with
  | error e =>
    rw [sendPacket_of_error encryptBlock answers hframe]
    rfl
  | ok frame =>
    rw [sendPacket_of_ok encryptBlock answers hframe]
    dsimp only [sendSpinelFrame]
    rw [received_sendAttempts]
    rfl

/-! ## What goes to the radio -/

/-- The end of the attempts behind `n` of them that were not acknowledged: a status, which is
    another one than `NO_ACK` unless none are left, or an answer without one, which is raised. -/
def AttemptsEnd (answers : Answers) (last : Bool) (n : Nat) {α : Type} (result : Except PyException α) :
    Prop :=
  (∃ status, statusOf (answers n) = .ok status ∧ (last = false → status ≠ noAck) ∧
      ∃ value, result = .ok value) ∨
    ∃ e, statusOf (answers n) = .error e ∧ result = .error e

/-- The attempts send one value until the radio reports something other than `NO_ACK` or none are
    left. -/
theorem transmitted_sendAttempts (answers : Answers) {frame : IEEE802154Frame} {value : List UInt8}
    (remaining attempt : Nat) {s : CallbackState}
    (hvalue : streamRawValue s.app.channel frame = .ok value) :
    let result := sendAttempts answers frame (remaining + 1) attempt s
    ∃ n, n ≤ remaining ∧
      result.1.transmitted = s.transmitted ++ List.replicate (n + 1) value ∧
      (∀ k < n, statusOf (answers (attempt + k)) = .ok noAck) ∧
      AttemptsEnd answers (n == remaining) (attempt + n) result.2 := by
  induction remaining generalizing attempt s with
  | zero =>
    refine ⟨0, Nat.le_refl 0, ?_, fun k hk => absurd hk (Nat.not_lt_zero k), ?_⟩
    · rw [sendAttempts]
      simp only [hvalue]
      cases statusOf (answers attempt) with
      | error e => exact CallbackState.transmitted_log_setProperty _ _ _
      | ok status =>
        dsimp only
        split <;> exact CallbackState.transmitted_log_setProperty _ _ _
    · rw [sendAttempts]
      simp only [hvalue]
      cases hstatus : statusOf (answers attempt) with
      | error e => exact .inr ⟨e, hstatus, rfl⟩
      | ok status =>
        refine .inl ⟨status, hstatus, fun hlast => (by cases hlast), ?_⟩
        dsimp only
        split
        · exact ⟨none, rfl⟩
        · exact ⟨some status, rfl⟩
  | succ remaining ih =>
    rw [sendAttempts]
    simp only [hvalue]
    cases hstatus : statusOf (answers attempt) with
    | error e =>
      refine ⟨0, Nat.zero_le _, CallbackState.transmitted_log_setProperty _ _ _,
        fun k hk => absurd hk (Nat.not_lt_zero k), .inr ⟨e, hstatus, rfl⟩⟩
    | ok status =>
      by_cases hno : status = noAck
      · subst hno
        obtain ⟨n, hle, hsent, hnoAcks, hends⟩ :=
          ih (attempt + 1) (s := s.log (.setProperty .streamRaw value)) hvalue
        refine ⟨n + 1, Nat.succ_le_succ hle, ?_, ?_, ?_⟩
        · simp only [if_true]
          rw [hsent, CallbackState.transmitted_log_setProperty, List.append_assoc]
          rfl
        · intro k hk
          cases k with
          | zero => exact hstatus
          | succ k =>
            have hprevious := hnoAcks k (Nat.lt_of_succ_lt_succ hk)
            rwa [Nat.add_right_comm, Nat.add_assoc] at hprevious
        · have hcount : (n + 1 == remaining + 1) = (n == remaining) := by simp
          rw [hcount, ← Nat.add_assoc, Nat.add_right_comm]
          exact hends
      · simp only [if_neg hno]
        refine ⟨0, Nat.zero_le _, CallbackState.transmitted_log_setProperty _ _ _,
          fun k hk => absurd hk (Nat.not_lt_zero k), .inl ⟨status, hstatus, fun _ => hno, _, rfl⟩⟩

/-- A frame that can be written goes to the radio if its length and the channel fit. -/
theorem streamRawValue_fits_iff (channel : Int) {frame : IEEE802154Frame} {data : List UInt8}
    (h : frame.serialize = .ok data) :
    (∃ value, streamRawValue channel frame = .ok value) ↔
      data.length < 0x10000 ∧ 0 ≤ channel ∧ channel < 0x100 := by
  by_cases hlen : data.length < 0x10000
  · rw [streamRawValue_returns_iff h hlen, and_iff_right hlen]
  · refine iff_of_false ?_ (fun hfits => hlen hfits.1)
    rintro ⟨value, hvalue⟩
    rw [streamRawValue, h] at hvalue
    obtain ⟨written, hwritten, hvalue⟩ := except_bind_eq_ok.mp hvalue
    cases hwritten
    obtain ⟨length, hlength, -⟩ := except_bind_eq_ok.mp hvalue
    have hfits := uint16T_isSome_iff.mp ⟨length, orRaise_eq_ok.mp hlength⟩
    omega

/-- The headers of a packet are of fixed length. -/
theorem AppState.length_headers_of_packetFrame {app : AppState} {packet : ZigbeePacket}
    {frame : DecryptedZigbeeNwkFrame} (h : app.packetFrame packet = some frame) :
    (frame.nwkHeader.body ++
      encodeOptional ZigbeeNwkAuxHeader.body frame.auxHeader).length = 22 := by
  simp only [packetFrame, Option.bind_eq_bind, Option.bind_eq_some_iff] at h
  obtain ⟨radius, -, sequenceNumber, -, auxHeader, haux, dstEp, -, clusterId, -, profileId, -,
    srcEp, -, counter, -, h⟩ := h
  cases h
  obtain ⟨-, hsource, -⟩ := fields_of_auxHeader haux
  simp only [encodeOptional, ZigbeeNwkAuxHeader.body, hsource, List.length_append,
    length_u32ToLeBytes, Eui64.length_toBytes]
  rfl

/-- The length of the frame of a packet, with its check sequence. -/
theorem length_of_packetIeeeFrame {app : PacketApp} {packet : OutgoingPacket}
    {nwkFrame : DecryptedZigbeeNwkFrame}
    (h : app.counted.packetFrame packet.toZigbeePacket = some nwkFrame)
    (hlen : packet.data.length + 8 < 65536) :
    ∃ frame data, app.frameOf encryptBlock packet = .ok frame ∧ frame.serialize = .ok data ∧
      data.length = packet.data.length + 45 := by
  obtain ⟨hfits, -⟩ := (app.counted.packetFrame_isSome_iff packet.toZigbeePacket).mp ⟨_, h⟩
  obtain ⟨sequenceNumber, hsequence⟩ := uint8T_isSome_iff.mpr hfits.tsn
  obtain ⟨aps, hholds⟩ := AppState.holds_of_packetFrame h
  have hasdu : aps.asdu = packet.data := hholds.fields.data
  have hpayload : nwkFrame.payload.length = packet.data.length + 8 := by
    rw [hholds.payload, ZigbeeApsFrame.length_serialize, hasdu, Nat.add_comm]
  obtain ⟨auxHeader, source, haux, hsource, hencrypt⟩ :=
    hholds.secured.encrypt_eq encryptBlock app.counted.key (by omega)
  have hserialize := hholds.secured.serialize_eq
    (ccmPayload encryptBlock app.counted.key auxHeader source nwkFrame.nwkHeader.body
      nwkFrame.payload)
  have hframe : app.frameOf encryptBlock packet =
      .ok (replyOf sequenceNumber app.panId (some (.nwk packet.destAddress))
        (some (.nwk packet.srcAddress)) (nwkFrame.nwkHeader.body ++
          encodeOptional ZigbeeNwkAuxHeader.body nwkFrame.auxHeader ++
          ccmPayload encryptBlock app.counted.key auxHeader source nwkFrame.nwkHeader.body
            nwkFrame.payload)) := by
    change packetIeeeFrame encryptBlock app.counted packet
      (app.counted.packetFrame packet.toZigbeePacket) = _
    rw [h]
    simp only [packetIeeeFrame, hsequence, orRaise, hencrypt, hserialize, bind, Except.bind]
    rfl
  refine ⟨_, _, hframe, serialize_replyOf _ _ _ _ _, ?_⟩
  have hheaders := AppState.length_headers_of_packetFrame h
  have hcontrol : replyFrameControl.serialize.length = 2 := rfl
  have hdest : (Address.nwk packet.destAddress).serialize.length = 2 := Nwk.length_toBytes _
  have hsrc : (Address.nwk packet.srcAddress).serialize.length = 2 := Nwk.length_toBytes _
  rw [List.length_append] at hheaders
  simp only [List.length_append, hcontrol, hdest, hsrc, length_u16ToLeBytes, List.length_cons,
    List.length_nil, length_ccmPayload, hpayload]
  omega

/-- A packet that `send_packet` can send: its numbers and those of the application fit after the
    counter is incremented, and the length of the frame fits its field. -/
structure PacketApp.CanSend (app : PacketApp) (packet : OutgoingPacket) : Prop where
  fits : packet.Fits
  numbers : app.increment.NumbersFit
  channel : 0 ≤ app.channel ∧ app.channel < 0x100
  data : packet.data.length < 65491

theorem PacketApp.canSend_iff (app : PacketApp) (packet : OutgoingPacket) :
    app.CanSend packet ↔ ∃ frame value, app.frameOf encryptBlock packet = .ok frame ∧
      streamRawValue app.channel frame = .ok value := by
  constructor
  · intro h
    obtain ⟨nwkFrame, hnwk⟩ := (app.counted.packetFrame_isSome_iff packet.toZigbeePacket).mpr
      ⟨h.fits, h.numbers⟩
    have hdata := h.data
    obtain ⟨frame, data, hframe, hserialize, hlen⟩ :=
      length_of_packetIeeeFrame encryptBlock hnwk (by omega)
    obtain ⟨value, hvalue⟩ := (streamRawValue_fits_iff app.channel hserialize).mpr
      ⟨by omega, h.channel⟩
    exact ⟨frame, value, hframe, hvalue⟩
  · rintro ⟨frame, value, hframe, hvalue⟩
    obtain ⟨sequenceNumber, nwk, encrypted, payload, hnwk, hencrypt, -, -⟩ :=
      packetIeeeFrame_eq_ok encryptBlock hframe
    obtain ⟨hfits, hnumbers⟩ :=
      (app.counted.packetFrame_isSome_iff packet.toZigbeePacket).mp ⟨nwk, hnwk⟩
    obtain ⟨aps, hholds⟩ := AppState.holds_of_packetFrame hnwk
    have hasdu : aps.asdu = packet.data := hholds.fields.data
    have hpayload := DecryptedZigbeeNwkFrame.length_of_encrypt hencrypt
    rw [hholds.payload, ZigbeeApsFrame.length_serialize, hasdu] at hpayload
    obtain ⟨frame', data, hframe', hserialize, hlen⟩ :=
      length_of_packetIeeeFrame encryptBlock hnwk (by omega)
    rw [hframe] at hframe'
    cases hframe'
    obtain ⟨hshort, hchannel⟩ := (streamRawValue_fits_iff app.channel hserialize).mp ⟨value, hvalue⟩
    exact ⟨hfits, hnumbers, hchannel, by omega⟩

/-- Sending a packet uses up one frame counter. Where the packet can be sent, one value goes to the
    radio again as long as this reports `NO_ACK`, five times at most, and `send_packet` returns, or
    raises what the last answer raises. Otherwise it raises and nothing goes to the radio. -/
theorem sendPacket_transmits (answers : Answers) (app : PacketApp) (packet : OutgoingPacket) :
    let result := sendPacket encryptBlock answers packet (.start app)
    result.1.app = app.counted ∧
      (app.CanSend packet → ∃ value n, n ≤ 4 ∧
        result.1.transmitted = List.replicate (n + 1) value ∧
        (∀ k < n, statusOf (answers k) = .ok noAck) ∧ AttemptsEnd answers (n == 4) n result.2) ∧
      (¬ app.CanSend packet → (∃ e, result.2 = .error e) ∧ result.1.transmitted = []) := by
  rw [app.canSend_iff encryptBlock]
  cases hframe : app.frameOf encryptBlock packet with
  | error e =>
    rw [sendPacket_of_error encryptBlock answers hframe]
    simp [CallbackState.start, CallbackState.transmitted]
  | ok frame =>
    rw [sendPacket_of_ok encryptBlock answers hframe]
    dsimp only
    refine ⟨app_sendAttempts answers frame 5 0 (.start app.counted), ?_, ?_⟩
    · rintro ⟨frame', value, hsame, hvalue⟩
      cases hsame
      obtain ⟨n, hle, hsent, hnoAcks, hends⟩ := transmitted_sendAttempts answers 4 0
        (s := .start app.counted) hvalue
      refine ⟨value, n, hle, hsent, ?_, ?_⟩
      · intro k hk
        have hno := hnoAcks k hk
        rwa [Nat.zero_add] at hno
      · rw [Nat.zero_add] at hends
        rcases hends with ⟨status, hstatus, hother, last, hlast⟩ | ⟨e, hstatus, he⟩
        · exact .inl ⟨status, hstatus, hother, (), by rw [sendSpinelFrame, hlast]; rfl⟩
        · exact .inr ⟨e, hstatus, by rw [sendSpinelFrame, he]; rfl⟩
    · intro hnot
      cases hwritten : streamRawValue (CallbackState.start app.counted).app.channel frame with
      | ok value => exact absurd ⟨frame, value, rfl, hwritten⟩ hnot
      | error e =>
        rw [sendSpinelFrame, sendAttempts, hwritten]
        exact ⟨⟨e, rfl⟩, rfl⟩

/-- A packet of three bytes for the node `0x1234`. -/
def onOffPacket : OutgoingPacket where
  srcAddress := ⟨0x0000⟩
  dstAddress := ⟨0x1234⟩
  radius := 0
  tsn := 7
  srcEp := 1
  dstEp := 1
  clusterId := 0x0006
  profileId := 0x0104
  ackRequested := true
  data := [0x01, 0x07, 0x02]
  dstAddrMode := .nwk

theorem canSend_onOffPacket : (PacketApp.loadNetworkInfo 0).CanSend onOffPacket :=
  ⟨⟨by decide, by decide, by decide, by decide, by decide, by decide⟩, ⟨by decide, by decide⟩,
    by decide, by decide⟩

/-- A radio that reports `NO_ACK` once and then gives no answer. -/
def lateAnswers : Answers
  | 0 => .ok (.lastStatus, [noAck])
  | _ => .error .timeoutError

theorem sendPacket_transmits_onOff : ∃ value n, n ≤ 4 ∧
    (sendPacket coordinatorAes lateAnswers onOffPacket (.start (.loadNetworkInfo 0))).1.transmitted =
      List.replicate (n + 1) value ∧
    (∀ k < n, statusOf (lateAnswers k) = .ok noAck) ∧
    AttemptsEnd lateAnswers (n == 4) n
      (sendPacket coordinatorAes lateAnswers onOffPacket (.start (.loadNetworkInfo 0))).2 :=
  (sendPacket_transmits coordinatorAes lateAnswers (.loadNetworkInfo 0) onOffPacket).2.1
    canSend_onOffPacket

end ZigpySpinel.Python
