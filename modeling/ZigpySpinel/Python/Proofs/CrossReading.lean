import ZigpySpinel.Python.Proofs.ApsAgreement
import ZigpySpinel.Python.Proofs.EndToEnd
import ZigpySpinel.Python.Proofs.Ieee802154Agreement
import ZigpySpinel.Python.Proofs.NwkAgreement
import ZigpySpinel.Python.Proofs.NwkReading

/-!
# What the Rust package reads of what `send_packet` sends

The Rust package reads the 802.15.4 frame that the Python application gives to its radio, the
network frame in it, decrypts this one with the network key, and reads the application frame. It
finds the packet that was to be sent.
-/

namespace ZigpySpinel.Python
open Lib Zigbee Ieee802154

/-! ## Decryption -/

variable (aes : Aes128) (key : Key)

/-- What the Python package encrypts under an extended source, the Rust package encrypts alike. -/
theorem rust_encrypt (frame : NwkFrame) {auxHeader : NwkAuxHeader} {source : Eui64}
    {g : EncryptedZigbeeNwkFrame} (hencrypted : frame.encrypted = false)
    (hroute : ∀ route ∈ frame.nwkHeader.sourceRoute, route.WellFormed)
    (haux : frame.auxHeader = some auxHeader) (hsource : auxHeader.extendedSource = some source)
    (h : DecryptedZigbeeNwkFrame.encrypt aes.encryptBlock ⟨frame.toPython⟩ key = .ok g) :
    ∃ payload, frame.encrypt aes key = .ok { frame with payload := payload, encrypted := true } ∧
      g = ⟨{ frame.toPython with payload := payload }⟩ := by
  have hlen : frame.payload.length < 65536 := DecryptedZigbeeNwkFrame.length_of_encrypt h
  have hsource' : auxHeader.withLevel5.extendedSource = some source := hsource
  have hnonceSource : frame.nonceSource auxHeader = some source := by
    rw [NwkFrame.nonceSource, hsource]
  have hmodified := NwkFrame.getModifiedAuxHeader_eq haux
  have hnonce := NwkFrame.getNonce_eq hnonceSource
  have hpython : frame.toPython.auxHeader = some auxHeader.toPython := by
    rw [NwkFrame.toPython, haux]
    rfl
  have hLM : frame.toPython.getEncryptionLM = .ok (2, 4) := by
    rw [ZigbeeNwkFrame.getEncryptionLM, hpython]
  obtain ⟨mac, hmac, hmac'⟩ := computeMac_agrees aes key frame.toPython rfl hroute hsource' hlen
    (NwkFrame.nonceOf source auxHeader.withLevel5)
  obtain ⟨tag, ciphertext, hcrypt, -, hcrypt'⟩ :=
    encryptWith_agrees aes key (NwkFrame.nonceOf source auxHeader.withLevel5) mac hlen
  refine ⟨ciphertext ++ tag.val, ?_, ?_⟩
  · simp only [NwkFrame.encrypt, hencrypted, Bool.false_eq_true, if_false, hmodified, hnonce, hmac,
      hcrypt, Outcome.ok_bind]
  · have hpayload : frame.toPython.payload = frame.payload := rfl
    simp only [DecryptedZigbeeNwkFrame.encrypt, hLM, getModifiedAuxHeader_agrees hpython,
      getNonce_agrees frame.toPython hsource', orRaise, hpayload, hmac', hcrypt', bind,
      Except.bind] at h
    exact (Except.ok.inj h).symm

/-- What the Python package encrypts and writes, the Rust package reads and decrypts. -/
theorem rust_decrypt {frame : DecryptedZigbeeNwkFrame} {g : EncryptedZigbeeNwkFrame}
    {bytes : List UInt8} (h : frame.Secured) (hnamed : NwkNamed frame.nwkHeader.frameControl)
    (hencrypt : frame.encrypt aes.encryptBlock key = .ok g) (hbytes : g.serialize = .ok bytes) :
    ∃ nwk decrypted : NwkFrame, NwkFrame.fromBytes bytes = .ok nwk ∧ nwk.encrypted = true ∧
      nwk.toPython = g.toZigbeeNwkFrame ∧ nwk.decrypt aes key = .ok decrypted ∧
      decrypted.toPython = frame.toZigbeeNwkFrame := by
  obtain ⟨-, hbody⟩ := ZigbeeNwkFrame.of_fromBytes (h.read_back hencrypt hbytes).1
  obtain ⟨rust, hrust, hsame⟩ := NwkFrame.exists_toPython (h.wellFormed frame.payload) hnamed
  obtain ⟨auxHeader, source, haux, hsource, -⟩ := h.auxHeader
  obtain ⟨rustAux, hrustAux, rfl⟩ := Option.map_eq_some_iff.mp
    ((congrArg ZigbeeNwkFrame.auxHeader hsame).trans haux)
  have hsecurity : rust.nwkHeader.frameControl.security = true :=
    (congrArg (fun f => f.nwkHeader.frameControl.security) hsame).trans h.security
  have hpython : frame = ⟨({ rust with encrypted := false } : NwkFrame).toPython⟩ := by
    rcases frame with ⟨frame⟩
    exact congrArg DecryptedZigbeeNwkFrame.mk hsame.symm
  rw [hpython] at hencrypt
  obtain ⟨payload, hrustEncrypt, rfl⟩ := rust_encrypt aes key
    { rust with encrypted := false } rfl hrust.nwkHeader.relays hrustAux hsource hencrypt
  have hwf : NwkFrame.WellFormed { rust with payload := payload, encrypted := true } := {
    nwkHeader := hrust.nwkHeader
    auxHeader := hrust.auxHeader
    auxWellFormed := hrust.auxWellFormed
    encrypted := hsecurity.symm }
  refine ⟨_, { rust with encrypted := false }, ?_, rfl, ?_,
    NwkFrame.decrypt_of_encrypt hrustEncrypt, hsame⟩
  · have hrust : bytes =
        (NwkFrame.toPython { rust with payload := payload, encrypted := true }).body := hbody
    rw [hrust]
    exact NwkFrame.fromBytes_body_toPython hwf
  · rfl

/-! ## The frame around it -/

/-- A value for the radio is the length of the frame, its bytes and ten numbers. -/
theorem layout_of_streamRawValue {channel : Int} {frame : IEEE802154Frame} {value : List UInt8}
    (h : streamRawValue channel frame = .ok value) :
    ∃ length bytes params, frame.serialize = .ok bytes ∧
      value = u16ToLeBytes length ++ bytes ++ params ∧ length.toNat = bytes.length ∧
      params.length = 10 := by
  obtain ⟨bytes, hbytes, h⟩ := except_bind_eq_ok.mp h
  obtain ⟨length, hlength, h⟩ := except_bind_eq_ok.mp h
  obtain ⟨channelByte, -, h⟩ := except_bind_eq_ok.mp h
  have hcount : length.toNat = bytes.length :=
    Int.ofNat_inj.mp (uint16T_eq_some (orRaise_eq_ok.mp hlength)).symm
  refine ⟨length, bytes, [channelByte, 1, 4, 1, 1, 0, 1, 0, 0, channelByte], hbytes, ?_, hcount,
    rfl⟩
  rw [← Except.ok.inj h]
  simp only [List.append_assoc, List.cons_append, List.nil_append]

/-- What is written of a frame between two short addresses the Rust package reads, with its check
    sequence. -/
theorem rust_fromBytes_short {sequenceNumber : UInt8} {panId : UInt16} {destination source : Nwk}
    {payload bytes : List UInt8}
    (h : (replyOf sequenceNumber panId (some (.nwk destination)) (some (.nwk source))
      payload).serialize = .ok bytes) :
    ∃ frame : Ieee802154Frame, Ieee802154Frame.fromBytes bytes = .ok frame ∧
      ∃ fcs, frame.toPython = { readReplyOf sequenceNumber panId destination source with
        payload := payload, fcs := some fcs } := by
  obtain ⟨fcs, hread⟩ := fromBytes_serialize_short h
  rw [serialize_replyOf] at h
  have hbytes := Except.ok.inj h
  have hlong : IEEE802154Frame.headerLength replyFrameControl + 2 ≤ bytes.length := by
    have hcontrol : replyFrameControl.serialize.length = 2 := rfl
    have hheader : IEEE802154Frame.headerLength replyFrameControl = 9 := rfl
    have hdest : (Address.nwk destination).serialize.length = 2 := Nwk.length_toBytes _
    have hsrc : (Address.nwk source).serialize.length = 2 := Nwk.length_toBytes _
    rw [← hbytes]
    simp only [List.length_append, hcontrol, hdest, hsrc, length_u16ToLeBytes, List.length_cons,
      List.length_nil, hheader]
    omega
  have hnamed : Named replyFrameControl := ⟨by decide, by decide, by decide⟩
  obtain ⟨frame, hframe, hsame⟩ := Ieee802154Frame.rust_fromBytes hread
    ⟨_, _, hbytes.symm, rfl⟩ hlong hnamed (.inl rfl)
  exact ⟨frame, hframe, fcs, hsame⟩

/-! ## The packet in it -/

theorem nwkNamed_data {control : ZigbeeNwkFrameControl} (htype : control.frameType = .data)
    (hdiscover : control.discoverRoute = .suppress) : NwkNamed control := by
  rw [NwkNamed, htype, hdiscover]
  decide

/-- The network frame of a packet has a type and a route discovery that the Rust package has
    names for, and so has the application frame in it. -/
theorem AppState.named_of_packetFrame {app : AppState} {packet : ZigbeePacket}
    {frame : DecryptedZigbeeNwkFrame} (h : app.packetFrame packet = some frame) :
    NwkNamed frame.nwkHeader.frameControl ∧ ∃ aps : ZigbeeApsFrame, frame.payload = aps.serialize ∧
      aps.frameControl.frameType = .data ∧ aps.frameControl.deliveryMode = .unicast := by
  simp only [packetFrame, Option.bind_eq_bind, Option.bind_eq_some_iff] at h
  obtain ⟨radius, -, sequenceNumber, -, auxHeader, -, dstEp, -, clusterId, -, profileId, -,
    srcEp, -, counter, -, h⟩ := h
  cases h
  exact ⟨nwkNamed_data rfl rfl, _, rfl, rfl, rfl⟩

/-- What the Rust package reads of a packet. -/
structure ReadsPacket (panId : UInt16) (packet : OutgoingPacket) (frame : Ieee802154Frame)
    (nwk : NwkFrame) (aps : ApsFrame) : Prop where
  frameType : frame.frameControl.frameType = .data
  destPanId : frame.destPanId = some ⟨panId⟩
  destAddress : frame.destAddress = some (.nwk packet.destAddress)
  srcAddress : frame.srcAddress = some (.nwk packet.srcAddress)
  nwkType : nwk.nwkHeader.frameControl.frameType = .data
  nwkSource : nwk.nwkHeader.source = packet.srcAddress
  nwkDestination : nwk.nwkHeader.destination = packet.dstAddress
  radius : (nwk.nwkHeader.radius.toNat : Int) = if packet.radius = 0 then 30 else packet.radius
  apsType : aps.frameControl.frameType = .data
  ackRequest : aps.frameControl.ackRequest = packet.ackRequested
  srcEp : (aps.sourceEndpoint.toNat : Int) = packet.srcEp
  dstEp : (aps.destinationEndpoint.toNat : Int) = packet.dstEp
  clusterId : (aps.clusterId.toNat : Int) = packet.clusterId
  profileId : (aps.profileId.toNat : Int) = packet.profileId
  counter : (aps.counter.toNat : Int) = packet.tsn
  asdu : aps.asdu = packet.data

theorem frameType_of_toPython {frameType : Ieee802154FrameType} (h : frameType.toPython = .data) :
    frameType = .data := by
  cases frameType with
  | data => rfl
  | _ => cases h

theorem nwkType_of_toPython {frameType : NwkFrameType} (h : frameType.toPython = .data) :
    frameType = .data := by
  cases frameType with
  | data => rfl
  | _ => cases h

theorem apsType_of_toPython {frameType : ApsFrameType} (h : frameType.toPython = .data) :
    frameType = .data := by
  cases frameType with
  | data => rfl
  | _ => cases h

theorem panId_of_map {panId : Option PanId} {value : UInt16}
    (h : panId.map PanId.value = some value) : panId = some ⟨value⟩ := by
  obtain ⟨⟨_⟩, rfl, rfl⟩ := Option.map_eq_some_iff.mp h
  rfl

theorem address_of_map {address : Option Ieee802154Address} {short : Nwk}
    (h : address.map Ieee802154Address.toPython = some (.nwk short)) :
    address = some (.nwk short) := by
  obtain ⟨address, rfl, hsame⟩ := Option.map_eq_some_iff.mp h
  cases address with
  | nwk addr =>
    cases hsame
    rfl
  | eui64 addr => cases hsame

/-- An application frame that the Rust package has names for. -/
theorem rust_fromBytes_aps {aps : ZigbeeApsFrame} (htype : aps.frameControl.frameType = .data)
    (hmode : aps.frameControl.deliveryMode = .unicast) :
    ∃ frame : ApsFrame, ApsFrame.fromBytes aps.serialize = .ok frame ∧ frame.toPython = aps := by
  have hnamed : aps.frameControl.frameType ≠ .undefined0x01 ∧
      aps.frameControl.deliveryMode ≠ .undefined0x01 := by
    rw [htype, hmode]
    decide
  obtain ⟨control, hreserved, hcontrol⟩ := (ApsFrameControl.exists_toPython_iff _).mpr hnamed
  exact ApsFrame.rust_fromBytes (ZigbeeApsFrame.fromBytes_serialize aps) hreserved hcontrol

/-- The frame of a packet as the Rust package reads and decrypts it, and the network frame that was
    built for the packet. -/
structure RustReads (app : PacketApp) (packet : OutgoingPacket) (bytes : List UInt8)
    (frame : Ieee802154Frame) (nwk decrypted : NwkFrame) (built : DecryptedZigbeeNwkFrame) :
    Prop where
  fromBytes : Ieee802154Frame.fromBytes bytes = .ok frame
  fields : ∃ sequenceNumber payload fcs, frame.toPython =
    { readReplyOf sequenceNumber app.panId packet.destAddress packet.srcAddress with
      payload := payload, fcs := some fcs }
  nwkFrame : NwkFrame.fromBytes frame.payload = .ok nwk
  encrypted : nwk.encrypted = true
  decrypts : nwk.decrypt aes app.key = .ok decrypted
  decrypted : decrypted.toPython = built.toZigbeeNwkFrame
  built : app.increment.packetFrame packet.toZigbeePacket = some built

theorem rustReads_of_transmitted {answers : Answers} {packet : OutgoingPacket} {app : PacketApp}
    {sent : List UInt8}
    (h : sent ∈ (sendPacket aes.encryptBlock answers packet (.start app)).1.transmitted) :
    ∃ length bytes params, sent = u16ToLeBytes length ++ bytes ++ params ∧
      length.toNat = bytes.length ∧ params.length = 10 ∧
      ∃ frame nwk decrypted built, RustReads aes app packet bytes frame nwk decrypted built := by
  obtain ⟨frame, hframe, hvalue⟩ := mem_transmitted_sendPacket aes.encryptBlock h
  obtain ⟨sequenceNumber, built, encrypted, payload, hbuilt, hencrypt, hpayload, rfl⟩ :=
    packetIeeeFrame_eq_ok aes.encryptBlock hframe
  obtain ⟨length, bytes, params, hbytes, rfl, hlength, hparams⟩ := layout_of_streamRawValue hvalue
  obtain ⟨aps, hholds⟩ := AppState.holds_of_packetFrame hbuilt
  obtain ⟨hnamed, -⟩ := AppState.named_of_packetFrame hbuilt
  obtain ⟨rust, hrust, fcs, hsame⟩ := rust_fromBytes_short hbytes
  obtain ⟨nwk, decrypted, hnwk, hencrypted, -, hdecrypt, hdecrypted⟩ :=
    rust_decrypt aes app.key hholds.secured hnamed hencrypt hpayload
  have hrustPayload : rust.payload = payload := congrArg IEEE802154Frame.payload hsame
  exact ⟨length, bytes, params, rfl, hlength, hparams, rust, nwk, decrypted, built, {
    fromBytes := hrust
    fields := ⟨sequenceNumber, payload, fcs, hsame⟩
    nwkFrame := by rw [hrustPayload, hnwk]
    encrypted := hencrypted
    decrypts := hdecrypt
    decrypted := hdecrypted
    built := hbuilt }⟩

/-- What `send_packet` gives to the radio is the length of a frame, the frame and ten numbers.
    The Rust package reads the frame, the network frame in it, decrypts this one with the key of
    the network, and finds the packet in it. -/
theorem rust_reads_sent {answers : Answers} {packet : OutgoingPacket} {app : PacketApp}
    {sent : List UInt8}
    (h : sent ∈ (sendPacket aes.encryptBlock answers packet (.start app)).1.transmitted) :
    ∃ length bytes params, sent = u16ToLeBytes length ++ bytes ++ params ∧
      length.toNat = bytes.length ∧ params.length = 10 ∧
      ∃ frame nwk decrypted aps, Ieee802154Frame.fromBytes bytes = .ok frame ∧
        NwkFrame.fromBytes frame.payload = .ok nwk ∧ nwk.encrypted = true ∧
        nwk.decrypt aes app.key = .ok decrypted ∧
        ApsFrame.fromBytes decrypted.payload = .ok aps ∧
        ReadsPacket app.panId packet frame decrypted aps := by
  obtain ⟨length, bytes, params, hsent, hlength, hparams, frame, nwk, decrypted, built, hreads⟩ :=
    rustReads_of_transmitted aes h
  obtain ⟨sequenceNumber, payload, fcs, hsame⟩ := hreads.fields
  obtain ⟨aps, hholds⟩ := AppState.holds_of_packetFrame hreads.built
  obtain ⟨-, aps', haps', htype, hmode⟩ := AppState.named_of_packetFrame hreads.built
  have haps : aps' = aps := by
    have hread := ZigbeeApsFrame.fromBytes_serialize aps'
    rw [← haps', hholds.payload, ZigbeeApsFrame.fromBytes_serialize] at hread
    exact (Except.ok.inj hread).symm
  subst haps
  obtain ⟨rustAps, hrustAps, rfl⟩ := rust_fromBytes_aps htype hmode
  have hfields := hholds.fields
  have hnwkType := hholds.nwkType
  have hheader : decrypted.nwkHeader.toPython = built.nwkHeader :=
    congrArg ZigbeeNwkFrame.nwkHeader hreads.decrypted
  rw [← hheader] at hfields hnwkType
  have hpayload : decrypted.payload = rustAps.toPython.serialize :=
    (congrArg ZigbeeNwkFrame.payload hreads.decrypted).trans haps'
  refine ⟨length, bytes, params, hsent, hlength, hparams, frame, nwk, decrypted, rustAps,
    hreads.fromBytes, hreads.nwkFrame, hreads.encrypted, hreads.decrypts, ?_, {
      frameType := frameType_of_toPython
        (congrArg (fun f => f.frameControl.frameType) hsame)
      destPanId := panId_of_map (congrArg IEEE802154Frame.destPanId hsame)
      destAddress := address_of_map (congrArg IEEE802154Frame.destAddress hsame)
      srcAddress := address_of_map (congrArg IEEE802154Frame.srcAddress hsame)
      nwkType := nwkType_of_toPython hnwkType
      nwkSource := AddrModeAddress.nwk.inj hfields.src
      nwkDestination := AddrModeAddress.nwk.inj hfields.dst
      radius := hfields.radius
      apsType := apsType_of_toPython htype
      ackRequest := hholds.ackRequest
      srcEp := hfields.srcEp
      dstEp := hfields.dstEp
      clusterId := hfields.clusterId
      profileId := hfields.profileId
      counter := hfields.tsn
      asdu := hfields.data }⟩
  rw [hpayload, hrustAps]

/-- The frame of the packet that the coordinator sends. -/
theorem rust_reads_sent_onOff :
    ∃ length bytes params, onOffSent = u16ToLeBytes length ++ bytes ++ params ∧
      length.toNat = bytes.length ∧ params.length = 10 ∧
      ∃ frame nwk decrypted aps, Ieee802154Frame.fromBytes bytes = .ok frame ∧
        NwkFrame.fromBytes frame.payload = .ok nwk ∧ nwk.encrypted = true ∧
        nwk.decrypt (Aes128.ofBlockFunction coordinatorAes) (PacketApp.loadNetworkInfo 0).key =
          .ok decrypted ∧
        ApsFrame.fromBytes decrypted.payload = .ok aps ∧
        ReadsPacket (PacketApp.loadNetworkInfo 0).panId onOffPacket frame decrypted aps :=
  rust_reads_sent (Aes128.ofBlockFunction coordinatorAes) mem_onOffSent

end ZigpySpinel.Python
