import ZigpySpinel.Python.Proofs.NwkAgreement
import ZigpySpinel.Python.ZigbeeParsing

/-!
# Network frames in the Python package: decoding

Decoder and encoder of each part are inverse to each other on the values whose optional fields
agree with their flags, the extended source of the auxiliary header apart: the decoder reads
it under its flag and the encoder writes it without asking. Since both packages write the same
bytes, what the Rust package reads is also what the Python package reads.
-/

namespace ZigpySpinel.Python
open Lib Zigbee

/-! ## The frame control -/

/-- The first byte of a frame control. -/
def ZigbeeNwkFrameControl.byte0 (frameType : ZigbeeNwkFrameType) (protocolVersion : BitVec 4)
    (discoverRoute : ZigbeeNwkRouteDiscovery) : Nat :=
  frameType.value + 2 ^ 2 * protocolVersion.toNat + 2 ^ 6 * discoverRoute.value

/-- The second byte of a frame control. -/
def ZigbeeNwkFrameControl.byte1 (multicast security sourceRoute destination extendedSource
    endDeviceInitiator : Bool) (reserved : BitVec 2) : Nat :=
  multicast.toNat + 2 * security.toNat + 2 ^ 2 * sourceRoute.toNat + 2 ^ 3 * destination.toNat +
    2 ^ 4 * extendedSource.toNat + 2 ^ 5 * endDeviceInitiator.toNat + 2 ^ 6 * reserved.toNat

theorem ZigbeeNwkFrameType.value_lt (frameType : ZigbeeNwkFrameType) : frameType.value < 4 := by
  cases frameType <;> decide

theorem ZigbeeNwkRouteDiscovery.value_lt (discoverRoute : ZigbeeNwkRouteDiscovery) :
    discoverRoute.value < 4 := by
  cases discoverRoute <;> decide

theorem ZigbeeNwkFrameType.value_ofBits (bits : BitVec 2) : (ofBits bits).value = bits.toNat := by
  revert bits
  decide

theorem ZigbeeNwkRouteDiscovery.value_ofBits (bits : BitVec 2) :
    (ofBits bits).value = bits.toNat := by
  revert bits
  decide

theorem ZigbeeNwkFrameControl.serialize_eq (control : ZigbeeNwkFrameControl) :
    control.serialize =
      [UInt8.ofNat (byte0 control.frameType control.protocolVersion control.discoverRoute),
        UInt8.ofNat (byte1 control.multicast control.security control.sourceRoute
          control.destination control.extendedSource control.endDeviceInitiator
          control.reserved)] := by
  have hframeType := control.frameType.value_lt
  have hdiscoverRoute := control.discoverRoute.value_lt
  have hversion := control.protocolVersion.isLt
  rw [← leBytes_two]
  · simp only [serialize, byte0, byte1]
    congr 1
    omega
  · rw [byte0]
    omega

theorem ZigbeeNwkFrameControl.byte0_read (frameType : ZigbeeNwkFrameType)
    (discoverRoute : ZigbeeNwkRouteDiscovery) : ∀ protocolVersion : BitVec 4,
      let b := UInt8.ofNat (byte0 frameType protocolVersion discoverRoute)
      ZigbeeNwkFrameType.ofBits (BitVec.ofNat 2 b.toNat) = frameType ∧
        BitVec.ofNat 4 (b.toNat / 2 ^ 2) = protocolVersion ∧
        ZigbeeNwkRouteDiscovery.ofBits (BitVec.ofNat 2 (b.toNat / 2 ^ 6)) = discoverRoute := by
  cases frameType <;> cases discoverRoute <;> decide +kernel

theorem ZigbeeNwkFrameControl.byte0_write (b : UInt8) :
    UInt8.ofNat (byte0 (.ofBits (BitVec.ofNat 2 b.toNat)) (BitVec.ofNat 4 (b.toNat / 2 ^ 2))
      (.ofBits (BitVec.ofNat 2 (b.toNat / 2 ^ 6)))) = b := by
  have hlt : b.toNat < 256 := b.toNat_lt
  rw [byte0, ZigbeeNwkFrameType.value_ofBits, ZigbeeNwkRouteDiscovery.value_ofBits]
  simp only [BitVec.toNat_ofNat]
  refine ofNat_eq_of_eq_toNat ?_
  omega

theorem ZigbeeNwkFrameControl.byte1_read : ∀ (multicast security sourceRoute destination
    extendedSource endDeviceInitiator : Bool) (reserved : BitVec 2),
      let b := UInt8.ofNat (byte1 multicast security sourceRoute destination extendedSource
        endDeviceInitiator reserved)
      b.toNat.testBit 0 = multicast ∧ b.toNat.testBit 1 = security ∧
        b.toNat.testBit 2 = sourceRoute ∧ b.toNat.testBit 3 = destination ∧
        b.toNat.testBit 4 = extendedSource ∧ b.toNat.testBit 5 = endDeviceInitiator ∧
        BitVec.ofNat 2 (b.toNat / 2 ^ 6) = reserved := by decide +kernel

theorem ZigbeeNwkFrameControl.byte1_write (b : UInt8) :
    UInt8.ofNat (byte1 (b.toNat.testBit 0) (b.toNat.testBit 1) (b.toNat.testBit 2)
      (b.toNat.testBit 3) (b.toNat.testBit 4) (b.toNat.testBit 5)
      (BitVec.ofNat 2 (b.toNat / 2 ^ 6))) = b := by
  have hlt : b.toNat < 256 := b.toNat_lt
  simp only [byte1, Nat.toNat_testBit, BitVec.toNat_ofNat]
  refine ofNat_eq_of_eq_toNat ?_
  omega

theorem ZigbeeNwkFrameControl.codec :
    PyCodec (fun _ => True) ZigbeeNwkFrameControl.serialize ZigbeeNwkFrameControl.deserialize where
  decode_encode control rest _ := by
    rcases control with ⟨frameType, version, discoverRoute, multicast, security, sourceRoute,
      destination, extendedSource, endDeviceInitiator, reserved⟩
    obtain ⟨hframeType, hversion, hdiscoverRoute⟩ := byte0_read frameType discoverRoute version
    obtain ⟨h0, h1, h2, h3, h4, h5, hreserved⟩ := byte1_read multicast security sourceRoute
      destination extendedSource endDeviceInitiator reserved
    rw [serialize_eq]
    simp only [List.cons_append, List.nil_append, toStep, deserialize, hframeType, hversion,
      hdiscoverRoute, h0, h1, h2, h3, h4, h5, hreserved, Outcome.ofExcept]
  encode_decode data control rest h := by
    rcases data with _ | ⟨b0, _ | ⟨b1, data⟩⟩
    · cases h
    · cases h
    · cases h
      refine ⟨trivial, ?_⟩
      rw [serialize_eq, byte0_write, byte1_write]
      rfl

/-! ## The network header -/

/-- The bytes of a source route. -/
def ZigbeeNwkHeader.sourceRouteBody (route : UInt8 × List Nwk) : List UInt8 :=
  [UInt8.ofNat route.2.length] ++ [route.1] ++ route.2.flatMap Nwk.toBytes

theorem ZigbeeNwkHeader.codec_sourceRoute :
    PyCodec (fun route => route.2.length < 256) sourceRouteBody deserializeSourceRoute where
  decode_encode route rest h := by
    rcases route with ⟨index, relays⟩
    have hcount : (UInt8.ofNat relays.length).toNat = relays.length := by
      rw [UInt8.toNat_ofNat', Nat.mod_eq_of_lt h]
    have hrelays := (codec_nwk.deserializeTimes relays.length).read
      ⟨rfl, fun _ _ => trivial⟩ rest
    change Outcome.ofExcept (deserializeTimes nwkDeserialize (UInt8.ofNat relays.length).toNat
      (relays.flatMap Nwk.toBytes ++ rest) >>= _) = _
    rw [hcount, hrelays]
    rfl
  encode_decode data route rest h := by
    match data, h with
    | count :: index :: data, h =>
      have hread := Outcome.ofExcept_eq_ok.mp h
      change (deserializeTimes nwkDeserialize count.toNat data >>= _) = _ at hread
      obtain ⟨read, hrelays, hread⟩ := except_bind_eq_ok.mp hread
      cases hread
      obtain ⟨⟨hlen, -⟩, hdata⟩ := (codec_nwk.deserializeTimes count.toNat).written hrelays
      refine ⟨?_, ?_⟩
      · rw [hlen]
        exact count.toNat_lt
      · rw [sourceRouteBody, hlen, UInt8.ofNat_toNat, hdata]
        rfl

/-- The relay index and the relays of a header that has both. -/
def ZigbeeNwkHeader.route (header : ZigbeeNwkHeader) : Option (UInt8 × List Nwk) :=
  match header.sourceRouteRelayIndex, header.sourceRoute with
  | some relayIndex, some sourceRoute => some (relayIndex, sourceRoute)
  | _, _ => none

/-- The network headers whose optional fields agree with their flags. -/
structure ZigbeeNwkHeader.WellFormed (header : ZigbeeNwkHeader) : Prop where
  destinationIeee : header.frameControl.destination = true ↔ header.destinationIeee.isSome
  sourceIeee : header.frameControl.extendedSource = true ↔ header.sourceIeee.isSome
  multicastControl : header.frameControl.multicast = true ↔ header.multicastControl.isSome
  sourceRoute : header.frameControl.sourceRoute = true ↔ header.route.isSome
  relayIndex : header.sourceRouteRelayIndex = header.route.map (·.1)
  relays : header.sourceRoute = header.route.map (·.2)
  fits : ∀ route ∈ header.route, route.2.length < 256

/-- The bytes of a network header. -/
def ZigbeeNwkHeader.body (header : ZigbeeNwkHeader) : List UInt8 :=
  header.frameControl.serialize ++ header.destination.toBytes ++ header.source.toBytes ++
    [header.radius] ++ [header.sequenceNumber] ++
    encodeOptional Eui64.toBytes header.destinationIeee ++
    encodeOptional Eui64.toBytes header.sourceIeee ++
    encodeOptional (fun control => [control]) header.multicastControl ++
    encodeOptional sourceRouteBody header.route

theorem ZigbeeNwkHeader.serialize_eq {header : ZigbeeNwkHeader} (h : header.WellFormed) :
    header.serialize = .ok header.body := by
  have hroute : header.serializeSourceRoute =
      .ok (encodeOptional sourceRouteBody header.route) := by
    rw [serializeSourceRoute, h.relays, h.relayIndex]
    cases hroute : header.route with
    | none => rfl
    | some route =>
      have hlt : route.2.length < 256 := h.fits route hroute
      simp only [Option.map_some, uint8T]
      rw [if_pos (by omega)]
      rfl
  rw [serialize, hroute]
  rfl

theorem ZigbeeNwkHeader.codec :
    PyCodec ZigbeeNwkHeader.WellFormed ZigbeeNwkHeader.body ZigbeeNwkHeader.deserialize where
  decode_encode header rest h := by
    apply Outcome.ofExcept_eq_ok.mpr
    have hcontrol := ZigbeeNwkFrameControl.codec.read (a := header.frameControl) trivial
    have hdestination := (codec_eui64.deserializeIf header.frameControl.destination).read
      ⟨h.destinationIeee, fun _ _ => trivial⟩
    have hsource := (codec_eui64.deserializeIf header.frameControl.extendedSource).read
      ⟨h.sourceIeee, fun _ _ => trivial⟩
    have hmulticast := (codec_uint8.deserializeIf header.frameControl.multicast).read
      ⟨h.multicastControl, fun _ _ => trivial⟩
    have hroute := (codec_sourceRoute.deserializeIf header.frameControl.sourceRoute).read
      ⟨h.sourceRoute, h.fits⟩
    simp only [deserialize, body, List.append_assoc, hcontrol, codec_nwk.read trivial,
      codec_uint8.read trivial, hdestination, hsource, hmulticast, hroute, bind, Except.bind,
      ← h.relayIndex, ← h.relays]
  encode_decode data header rest h := by
    have hread := Outcome.ofExcept_eq_ok.mp h
    simp only [deserialize, except_bind_eq_ok] at hread
    obtain ⟨⟨control, r1⟩, hcontrol, ⟨destination, r2⟩, hdestination, ⟨source, r3⟩, hsource,
      ⟨radius, r4⟩, hradius, ⟨sequenceNumber, r5⟩, hsequence, ⟨destinationIeee, r6⟩, hdestIeee,
      ⟨sourceIeee, r7⟩, hsourceIeee, ⟨multicastControl, r8⟩, hmulticast, ⟨route, r9⟩, hroute,
      hread⟩ := hread
    cases hread
    obtain ⟨-, rfl⟩ := ZigbeeNwkFrameControl.codec.written hcontrol
    obtain ⟨-, rfl⟩ := codec_nwk.written hdestination
    obtain ⟨-, rfl⟩ := codec_nwk.written hsource
    obtain ⟨-, rfl⟩ := codec_uint8.written hradius
    obtain ⟨-, rfl⟩ := codec_uint8.written hsequence
    obtain ⟨⟨hdestFlag, -⟩, rfl⟩ := (codec_eui64.deserializeIf _).written hdestIeee
    obtain ⟨⟨hsourceFlag, -⟩, rfl⟩ := (codec_eui64.deserializeIf _).written hsourceIeee
    obtain ⟨⟨hmulticastFlag, -⟩, rfl⟩ := (codec_uint8.deserializeIf _).written hmulticast
    obtain ⟨⟨hrouteFlag, hfits⟩, rfl⟩ := (codec_sourceRoute.deserializeIf _).written hroute
    refine ⟨?_, ?_⟩
    · cases route <;>
        exact ⟨hdestFlag, hsourceFlag, hmulticastFlag, hrouteFlag, rfl, rfl, hfits⟩
    · cases route <;> simp only [body, route, Option.map_some, Option.map_none, List.append_assoc]

/-! ## The auxiliary header -/

theorem ZigbeeNwkSecurityLevel.value_ofBits (bits : BitVec 3) :
    (ofBits bits).value = bits.toNat := by
  revert bits
  decide

theorem ZigbeeNwkSecurityHeaderKeyId.value_ofBits (bits : BitVec 2) :
    (ofBits bits).value = bits.toNat := by
  revert bits
  decide

theorem ZigbeeNwkSecurityHeaderControlField.byte_read (level : ZigbeeNwkSecurityLevel)
    (keyId : ZigbeeNwkSecurityHeaderKeyId) : ∀ (extendedNonce : Bool) (reserved : BitVec 2),
      let b := UInt8.ofNat (level.value + 8 * keyId.value + 32 * extendedNonce.toNat +
        64 * reserved.toNat)
      ZigbeeNwkSecurityLevel.ofBits (BitVec.ofNat 3 b.toNat) = level ∧
        ZigbeeNwkSecurityHeaderKeyId.ofBits (BitVec.ofNat 2 (b.toNat / 2 ^ 3)) = keyId ∧
        b.toNat.testBit 5 = extendedNonce ∧ BitVec.ofNat 2 (b.toNat / 2 ^ 6) = reserved := by
  cases level <;> cases keyId <;> decide +kernel

theorem ZigbeeNwkSecurityHeaderControlField.byte_write (b : UInt8) :
    UInt8.ofNat ((ZigbeeNwkSecurityLevel.ofBits (BitVec.ofNat 3 b.toNat)).value +
      8 * (ZigbeeNwkSecurityHeaderKeyId.ofBits (BitVec.ofNat 2 (b.toNat / 2 ^ 3))).value +
      32 * (b.toNat.testBit 5).toNat + 64 * (BitVec.ofNat 2 (b.toNat / 2 ^ 6)).toNat) = b := by
  have hlt : b.toNat < 256 := b.toNat_lt
  rw [ZigbeeNwkSecurityLevel.value_ofBits, ZigbeeNwkSecurityHeaderKeyId.value_ofBits]
  simp only [Nat.toNat_testBit, BitVec.toNat_ofNat]
  refine ofNat_eq_of_eq_toNat ?_
  omega

theorem ZigbeeNwkSecurityHeaderControlField.codec :
    PyCodec (fun _ => True) ZigbeeNwkSecurityHeaderControlField.serialize
      ZigbeeNwkSecurityHeaderControlField.deserialize where
  decode_encode control rest _ := by
    rcases control with ⟨level, keyId, extendedNonce, reserved⟩
    obtain ⟨hlevel, hkeyId, h5, hreserved⟩ := byte_read level keyId extendedNonce reserved
    simp only [serialize, List.cons_append, List.nil_append, toStep, deserialize, hlevel, hkeyId, h5,
      hreserved, Outcome.ofExcept]
  encode_decode data control rest h := by
    cases data with
    | nil => cases h
    | cons b data =>
      cases h
      refine ⟨trivial, ?_⟩
      rw [serialize, byte_write]
      rfl

/-- The auxiliary headers whose extended source agrees with its flag. -/
def ZigbeeNwkAuxHeader.WellFormed (header : ZigbeeNwkAuxHeader) : Prop :=
  header.securityControl.extendedNonce = true ↔ header.extendedSource.isSome

/-- The bytes that an auxiliary header is read from. -/
def ZigbeeNwkAuxHeader.body (header : ZigbeeNwkAuxHeader) : List UInt8 :=
  header.securityControl.serialize ++ u32ToLeBytes header.frameCounter ++
    encodeOptional Eui64.toBytes header.extendedSource ++ [header.keySequenceNumber]

theorem ZigbeeNwkAuxHeader.codec :
    PyCodec ZigbeeNwkAuxHeader.WellFormed ZigbeeNwkAuxHeader.body
      ZigbeeNwkAuxHeader.deserialize where
  decode_encode header rest h := by
    apply Outcome.ofExcept_eq_ok.mpr
    have hcontrol := ZigbeeNwkSecurityHeaderControlField.codec.read (a := header.securityControl)
      trivial
    have hsource := (codec_eui64.deserializeIf header.securityControl.extendedNonce).read
      ⟨h, fun _ _ => trivial⟩
    simp only [deserialize, body, List.append_assoc, hcontrol, codec_uint32.read trivial, hsource,
      codec_uint8.read trivial, bind, Except.bind]
  encode_decode data header rest h := by
    have hread := Outcome.ofExcept_eq_ok.mp h
    simp only [deserialize, except_bind_eq_ok] at hread
    obtain ⟨⟨control, r1⟩, hcontrol, ⟨counter, r2⟩, hcounter, ⟨source, r3⟩, hsource,
      ⟨keySequenceNumber, r4⟩, hkey, hread⟩ := hread
    cases hread
    obtain ⟨-, rfl⟩ := ZigbeeNwkSecurityHeaderControlField.codec.written hcontrol
    obtain ⟨-, rfl⟩ := codec_uint32.written hcounter
    obtain ⟨⟨hflag, -⟩, rfl⟩ := (codec_eui64.deserializeIf _).written hsource
    obtain ⟨-, rfl⟩ := codec_uint8.written hkey
    refine ⟨hflag, ?_⟩
    simp only [body, List.append_assoc]

/-- An auxiliary header is written exactly if it has an extended source, and then as it was
    read. -/
theorem ZigbeeNwkAuxHeader.serialize_eq (header : ZigbeeNwkAuxHeader) :
    header.serialize =
      if header.extendedSource.isSome then .ok header.body else .error .attributeError := by
  rcases header with ⟨control, counter, source, keySequenceNumber⟩
  cases source <;> rfl

/-! ## Frames -/

/-- The bytes that a frame is read from. -/
def ZigbeeNwkFrame.body (frame : ZigbeeNwkFrame) : List UInt8 :=
  frame.nwkHeader.body ++ encodeOptional ZigbeeNwkAuxHeader.body frame.auxHeader ++ frame.payload

/-- The frames whose parts agree with the flags that announce them. -/
structure ZigbeeNwkFrame.WellFormed (frame : ZigbeeNwkFrame) : Prop where
  nwkHeader : frame.nwkHeader.WellFormed
  auxHeader : frame.nwkHeader.frameControl.security = true ↔ frame.auxHeader.isSome
  auxWellFormed : ∀ auxHeader ∈ frame.auxHeader, auxHeader.WellFormed

theorem ZigbeeNwkFrame.fromBytes_body {frame : ZigbeeNwkFrame} (h : frame.WellFormed) :
    fromBytes frame.body = .ok ⟨frame⟩ := by
  have haux := (ZigbeeNwkAuxHeader.codec.deserializeIf frame.nwkHeader.frameControl.security).read
    ⟨h.auxHeader, h.auxWellFormed⟩
  simp only [fromBytes, body, List.append_assoc, ZigbeeNwkHeader.codec.read h.nwkHeader, haux,
    bind, Except.bind]

theorem ZigbeeNwkFrame.of_fromBytes {data : List UInt8} {frame : EncryptedZigbeeNwkFrame}
    (h : fromBytes data = .ok frame) : frame.WellFormed ∧ data = frame.body := by
  simp only [fromBytes, except_bind_eq_ok] at h
  obtain ⟨⟨header, r1⟩, hheader, ⟨aux, r2⟩, haux, h⟩ := h
  cases h
  obtain ⟨hwf, rfl⟩ := ZigbeeNwkHeader.codec.written hheader
  obtain ⟨⟨hflag, hauxWf⟩, rfl⟩ := (ZigbeeNwkAuxHeader.codec.deserializeIf _).written haux
  refine ⟨⟨hwf, hflag, hauxWf⟩, ?_⟩
  simp only [body, List.append_assoc]

/-! ## Where the auxiliary header announces its source -/

/-- The byte of a frame with the flags of the network header. -/
def ZigbeeNwkFrame.flags (data : List UInt8) : Nat := (data.getD 1 0).toNat

/-- Where a source route starts in a frame. -/
def ZigbeeNwkFrame.sourceRouteOffset (data : List UInt8) : Nat :=
  8 + 8 * ((flags data).testBit 3).toNat + 8 * ((flags data).testBit 4).toNat +
    ((flags data).testBit 0).toNat

/-- Where the auxiliary header starts in a frame. -/
def ZigbeeNwkFrame.auxOffset (data : List UInt8) : Nat :=
  sourceRouteOffset data +
    if (flags data).testBit 2 then 2 + 2 * (data.getD (sourceRouteOffset data) 0).toNat else 0

/-- A frame that is not secured, or whose auxiliary header announces an extended source. -/
def ZigbeeNwkFrame.NamesSource (data : List UInt8) : Prop :=
  (flags data).testBit 1 = true → (data.getD (auxOffset data) 0).toNat.testBit 5 = true

/-- The part of a header before the source route. -/
def ZigbeeNwkHeader.front (header : ZigbeeNwkHeader) : List UInt8 :=
  header.frameControl.serialize ++ header.destination.toBytes ++ header.source.toBytes ++
    [header.radius] ++ [header.sequenceNumber] ++
    encodeOptional Eui64.toBytes header.destinationIeee ++
    encodeOptional Eui64.toBytes header.sourceIeee ++
    encodeOptional (fun control => [control]) header.multicastControl

theorem ZigbeeNwkHeader.flags_body (header : ZigbeeNwkHeader) (rest : List UInt8) :
    let flags := ZigbeeNwkFrame.flags (header.body ++ rest)
    flags.testBit 0 = header.frameControl.multicast ∧
      flags.testBit 1 = header.frameControl.security ∧
      flags.testBit 2 = header.frameControl.sourceRoute ∧
      flags.testBit 3 = header.frameControl.destination ∧
      flags.testBit 4 = header.frameControl.extendedSource := by
  rcases header with ⟨⟨frameType, version, discoverRoute, multicast, security, sourceRoute,
    destination, extendedSource, endDeviceInitiator, reserved⟩, _⟩
  obtain ⟨h0, h1, h2, h3, h4, -, -⟩ := ZigbeeNwkFrameControl.byte1_read multicast security sourceRoute destination
    extendedSource endDeviceInitiator reserved
  simp only [body, ZigbeeNwkFrameControl.serialize_eq, List.cons_append, ZigbeeNwkFrame.flags,
    List.getD_cons_succ, List.getD_cons_zero]
  exact ⟨h0, h1, h2, h3, h4⟩

theorem ZigbeeNwkHeader.sourceRouteOffset_body {header : ZigbeeNwkHeader} (h : header.WellFormed)
    (rest : List UInt8) :
    ZigbeeNwkFrame.sourceRouteOffset (header.body ++ rest) = header.front.length := by
  obtain ⟨h0, -, -, h3, h4⟩ := header.flags_body rest
  have hdestination := length_encodeOptional Eui64.length_toBytes h.destinationIeee
  have hsource := length_encodeOptional Eui64.length_toBytes h.sourceIeee
  have hmulticast := length_encodeOptional
    (show ∀ control : UInt8, [control].length = 1 from fun _ => rfl) h.multicastControl
  rw [ZigbeeNwkFrame.sourceRouteOffset, h0, h3, h4]
  simp only [front, ZigbeeNwkFrameControl.serialize_eq, List.length_append, List.length_cons,
    List.length_nil, Nwk.length_toBytes, hdestination, hsource, hmulticast]
  omega

theorem ZigbeeNwkHeader.auxOffset_body {header : ZigbeeNwkHeader} (h : header.WellFormed)
    (rest : List UInt8) :
    ZigbeeNwkFrame.auxOffset (header.body ++ rest) = header.body.length := by
  have hoffset := sourceRouteOffset_body h rest
  obtain ⟨-, -, h2, -, -⟩ := header.flags_body rest
  have hbody : header.body = header.front ++ encodeOptional sourceRouteBody header.route := rfl
  have hflag := h.sourceRoute
  have hfits := h.fits
  rw [ZigbeeNwkFrame.auxOffset, hoffset, h2]
  cases hroute : header.route with
  | none =>
    have hnone : header.frameControl.sourceRoute = false := by simpa [hroute] using hflag
    rw [hbody, hroute, hnone]
    simp [encodeOptional]
  | some route =>
    have hsome : header.frameControl.sourceRoute = true := by simpa [hroute] using hflag
    have hlt : route.2.length < 256 := hfits route hroute
    have hcount : ((header.body ++ rest).getD header.front.length 0).toNat = route.2.length := by
      have hbytes : header.body ++ rest = header.front ++ UInt8.ofNat route.2.length ::
          ([route.1] ++ route.2.flatMap Nwk.toBytes ++ rest) := by
        simp [hbody, hroute, encodeOptional, sourceRouteBody]
      rw [hbytes, getD_length_append, List.getD_cons_zero, UInt8.toNat_ofNat',
        Nat.mod_eq_of_lt hlt]
    have hrelays := length_flatMap_const Nwk.length_toBytes route.2
    rw [hcount, hsome, hbody, hroute]
    simp only [encodeOptional, sourceRouteBody, List.length_append, List.length_cons,
      List.length_nil, hrelays, if_true]

theorem ZigbeeNwkAuxHeader.flag_body (header : ZigbeeNwkAuxHeader) (rest : List UInt8) :
    ((header.body ++ rest).getD 0 0).toNat.testBit 5 = header.securityControl.extendedNonce := by
  rcases header with ⟨⟨level, keyId, extendedNonce, reserved⟩, counter, source, keySequenceNumber⟩
  obtain ⟨-, -, hflag, -⟩ :=
    ZigbeeNwkSecurityHeaderControlField.byte_read level keyId extendedNonce reserved
  exact hflag

/-- Whether the bytes of a frame name a source is whether its auxiliary header announces one. -/
theorem ZigbeeNwkFrame.namesSource_body {frame : ZigbeeNwkFrame} (h : frame.WellFormed) :
    NamesSource frame.body ↔
      ∀ auxHeader ∈ frame.auxHeader, auxHeader.securityControl.extendedNonce = true := by
  have hbody : frame.body = frame.nwkHeader.body ++
      (encodeOptional ZigbeeNwkAuxHeader.body frame.auxHeader ++ frame.payload) := by
    rw [body, List.append_assoc]
  have hoffset := ZigbeeNwkHeader.auxOffset_body h.nwkHeader
    (encodeOptional ZigbeeNwkAuxHeader.body frame.auxHeader ++ frame.payload)
  obtain ⟨-, h1, -⟩ := frame.nwkHeader.flags_body
    (encodeOptional ZigbeeNwkAuxHeader.body frame.auxHeader ++ frame.payload)
  rw [NamesSource, hbody, hoffset, h1, h.auxHeader]
  cases frame.auxHeader with
  | none => simp
  | some auxHeader =>
    have hflag := auxHeader.flag_body frame.payload
    rw [getD_length_append, encodeOptional, hflag]
    simp

/-- A byte string that the decoder accepts is written again as it was, exactly if its auxiliary
    header, if any, announces an extended source. -/
theorem ZigbeeNwkFrame.serialize_fromBytes_iff {data : List UInt8} {frame : EncryptedZigbeeNwkFrame}
    (h : fromBytes data = .ok frame) : frame.serialize = .ok data ↔ NamesSource data := by
  obtain ⟨hwf, rfl⟩ := of_fromBytes h
  rw [namesSource_body hwf]
  rcases frame with ⟨⟨header, aux, payload⟩⟩
  have hheader := ZigbeeNwkHeader.serialize_eq hwf.nwkHeader
  have hauxWf := hwf.auxWellFormed
  dsimp only at hheader hauxWf
  cases aux with
  | none => simp [serialize, hheader, body, encodeOptional, bind, Except.bind]
  | some auxHeader =>
    have hflag : auxHeader.securityControl.extendedNonce = true ↔
        auxHeader.extendedSource.isSome := hauxWf auxHeader rfl
    simp only [serialize, hheader, bind, Except.bind, ZigbeeNwkAuxHeader.serialize_eq, ← hflag,
      Option.mem_def, Option.some.injEq, forall_eq']
    by_cases hsource : auxHeader.securityControl.extendedNonce = true
    · simp [hsource, body, encodeOptional]
    · simp [hsource]

/-- A secured frame whose auxiliary header announces no extended source. -/
def noExtendedSourceBytes : List UInt8 :=
  [0x08, 0x02, 0xe7, 0x3c, 0x37, 0x5f, 0x1d, 0xcc, 0x08, 0x7e, 0xa3, 0x00, 0x00, 0x00,
    0xac, 0x8c, 0xaf, 0xe5]

theorem ZigbeeNwkFrame.noExtendedSource_not_written :
    ∃ frame, fromBytes noExtendedSourceBytes = .ok frame ∧
      frame.serialize = .error .attributeError := by
  refine ⟨_, rfl, ?_⟩
  rfl

theorem ZigbeeNwkFrame.serialize_fromBytes_iff_sourceRoute :
    ∃ frame, fromBytes sourceRouteBytes = .ok frame ∧
      (frame.serialize = .ok sourceRouteBytes ↔ NamesSource sourceRouteBytes) :=
  ⟨_, rfl, serialize_fromBytes_iff rfl⟩

end ZigpySpinel.Python

namespace ZigpySpinel.Zigbee
open Lib

/-! ## What the Rust package accepts -/

/-- The same fields in a frame control of either package, enumerations by their values. -/
structure NwkFrameControl.SameFields (control : NwkFrameControl)
    (python : Python.ZigbeeNwkFrameControl) : Prop where
  frameType : python.frameType.value = control.frameType.toU8.toNat
  protocolVersion : python.protocolVersion.toNat = control.protocolVersion.toNat
  discoverRoute : python.discoverRoute.value = control.discoverRoute.toU8.toNat
  multicast : python.multicast = control.multicast
  security : python.security = control.security
  sourceRoute : python.sourceRoute = control.sourceRoute
  destination : python.destination = control.destination
  extendedSource : python.extendedSource = control.extendedSource
  endDeviceInitiator : python.endDeviceInitiator = control.endDeviceInitiator
  reserved : python.reserved.toNat = control.reserved.toNat

structure NwkHeader.SameFields (header : NwkHeader) (python : Python.ZigbeeNwkHeader) : Prop where
  frameControl : header.frameControl.SameFields python.frameControl
  destination : python.destination = header.destination
  source : python.source = header.source
  radius : python.radius = header.radius
  sequenceNumber : python.sequenceNumber = header.sequenceNumber
  destinationIeee : python.destinationIeee = header.destinationIeee
  sourceIeee : python.sourceIeee = header.sourceIeee
  multicastControl : python.multicastControl = header.multicastControl
  relayIndex : python.sourceRouteRelayIndex = header.sourceRoute.map (·.relayIndex)
  relays : python.sourceRoute = header.sourceRoute.map (·.relays)

/-- The two reserved bits of the Python package are the flag of a verified frame counter and
    the reserved bit of the Rust package. -/
structure NwkSecurityHeaderControlField.SameFields (control : NwkSecurityHeaderControlField)
    (python : Python.ZigbeeNwkSecurityHeaderControlField) : Prop where
  securityLevel : python.securityLevel.value = control.securityLevel.toU8.toNat
  keyId : python.keyId.value = control.keyId.toU8.toNat
  extendedNonce : python.extendedNonce = control.extendedSource
  reserved : python.reserved.toNat =
    control.requireVerifiedFrameCounter.toNat + 2 * control.reserved.toNat

structure NwkAuxHeader.SameFields (header : NwkAuxHeader)
    (python : Python.ZigbeeNwkAuxHeader) : Prop where
  securityControl : header.securityControl.SameFields python.securityControl
  frameCounter : python.frameCounter = header.frameCounter
  extendedSource : python.extendedSource = header.extendedSource
  keySequenceNumber : python.keySequenceNumber = header.keySequenceNumber

structure NwkFrame.SameFields (frame : NwkFrame) (python : Python.ZigbeeNwkFrame) : Prop where
  nwkHeader : frame.nwkHeader.SameFields python.nwkHeader
  auxHeader : Option.Rel NwkAuxHeader.SameFields frame.auxHeader python.auxHeader
  payload : python.payload = frame.payload

theorem NwkFrameControl.sameFields_toPython {control : NwkFrameControl} (h : control.WellFormed) :
    control.SameFields control.toPython where
  frameType := by cases htype : control.frameType <;> simp only [toPython, htype] <;> rfl
  protocolVersion := by
    have hlt : control.protocolVersion.toNat < 16 := h.protocolVersion
    rw [toPython, BitVec.toNat_ofNat, Nat.mod_eq_of_lt hlt]
  discoverRoute := by
    cases hdiscover : control.discoverRoute <;> simp only [toPython, hdiscover] <;> rfl
  multicast := rfl
  security := rfl
  sourceRoute := rfl
  destination := rfl
  extendedSource := rfl
  endDeviceInitiator := rfl
  reserved := by
    have hlt : control.reserved.toNat < 4 := h.reserved
    rw [toPython, BitVec.toNat_ofNat, Nat.mod_eq_of_lt hlt]

theorem NwkHeader.sameFields_toPython {header : NwkHeader} (h : header.frameControl.WellFormed) :
    header.SameFields header.toPython where
  frameControl := NwkFrameControl.sameFields_toPython h
  destination := rfl
  source := rfl
  radius := rfl
  sequenceNumber := rfl
  destinationIeee := rfl
  sourceIeee := rfl
  multicastControl := rfl
  relayIndex := rfl
  relays := rfl

theorem NwkSecurityHeaderControlField.sameFields_toPython
    {control : NwkSecurityHeaderControlField} (h : control.WellFormed) :
    control.SameFields control.toPython where
  securityLevel := by cases hlevel : control.securityLevel <;> simp only [toPython, hlevel] <;> rfl
  keyId := by cases hkeyId : control.keyId <;> simp only [toPython, hkeyId] <;> rfl
  extendedNonce := rfl
  reserved := by
    have hlt : control.reserved.toNat < 2 := h
    have hbit := Bool.toNat_le control.requireVerifiedFrameCounter
    rw [toPython, BitVec.toNat_ofNat, Nat.mod_eq_of_lt]
    omega

theorem NwkAuxHeader.sameFields_toPython {header : NwkAuxHeader} (h : header.WellFormed) :
    header.SameFields header.toPython where
  securityControl := NwkSecurityHeaderControlField.sameFields_toPython h.securityControl
  frameCounter := rfl
  extendedSource := rfl
  keySequenceNumber := rfl

theorem NwkFrame.sameFields_toPython {frame : NwkFrame} (h : frame.WellFormed) :
    frame.SameFields frame.toPython where
  nwkHeader := NwkHeader.sameFields_toPython h.nwkHeader.frameControl
  auxHeader := by
    have haux := h.auxWellFormed
    rw [toPython]
    cases hframe : frame.auxHeader with
    | none => exact .none
    | some auxHeader => exact .some (NwkAuxHeader.sameFields_toPython (haux auxHeader hframe))
  payload := rfl

theorem NwkHeader.route_toPython (header : NwkHeader) :
    header.toPython.route = header.sourceRoute.map fun route => (route.relayIndex, route.relays) := by
  rw [Python.ZigbeeNwkHeader.route, toPython]
  cases header.sourceRoute <;> rfl

theorem NwkHeader.wellFormed_toPython {header : NwkHeader} (h : header.WellFormed) :
    header.toPython.WellFormed where
  destinationIeee := h.destinationIeee
  sourceIeee := h.sourceIeee
  multicastControl := h.multicastControl
  sourceRoute := by
    rw [route_toPython, Option.isSome_map]
    exact h.sourceRoute
  relayIndex := by
    rw [route_toPython, Option.map_map]
    rfl
  relays := by
    rw [route_toPython, Option.map_map]
    rfl
  fits := by
    intro route hroute
    rw [route_toPython] at hroute
    obtain ⟨rustRoute, hmem, rfl⟩ := Option.map_eq_some_iff.mp hroute
    have hcount : rustRoute.relayCount.toNat = rustRoute.relays.length := h.relays rustRoute hmem
    rw [← hcount]
    exact rustRoute.relayCount.toNat_lt

/-- Both packages have the same bytes for a network header. -/
theorem NwkHeader.body_toPython {header : NwkHeader} (h : header.WellFormed) :
    header.toPython.body = header.body := by
  have hpython := Python.ZigbeeNwkHeader.serialize_eq (wellFormed_toPython h)
  rw [serialize_toPython h.relays] at hpython
  exact (Except.ok.inj hpython).symm

theorem NwkAuxHeader.body_toPython (header : NwkAuxHeader) :
    header.toPython.body = header.toBytes := by
  have hcontrol := header.securityControl.serialize_toPython
  simp only [Python.ZigbeeNwkAuxHeader.body, toPython, hcontrol, toBytes]

theorem NwkFrame.wellFormed_toPython {frame : NwkFrame} (h : frame.WellFormed) :
    frame.toPython.WellFormed where
  nwkHeader := NwkHeader.wellFormed_toPython h.nwkHeader
  auxHeader := by
    rw [toPython, Option.isSome_map]
    exact h.auxHeader
  auxWellFormed := by
    intro auxHeader hmem
    obtain ⟨rustHeader, hrust, rfl⟩ := Option.map_eq_some_iff.mp hmem
    exact (h.auxWellFormed rustHeader hrust).extendedSource

theorem NwkFrame.body_toPython {frame : NwkFrame} (h : frame.WellFormed) :
    frame.toBytes = .ok frame.toPython.body := by
  have haux : encodeOptional Python.ZigbeeNwkAuxHeader.body frame.toPython.auxHeader =
      encodeOptional NwkAuxHeader.toBytes frame.auxHeader := by
    rw [toPython]
    cases frame.auxHeader with
    | none => rfl
    | some auxHeader => exact auxHeader.body_toPython
  rw [toBytes, NwkHeader.toBytes_eq h.nwkHeader.relays, Outcome.ok_bind,
    Python.ZigbeeNwkFrame.body, haux]
  rw [← NwkHeader.body_toPython h.nwkHeader]
  rfl

/-- What the Rust package reads as a frame, the Python package reads as the same frame. -/
theorem NwkFrame.python_reads_same {bytes : List UInt8} {frame : NwkFrame}
    (h : NwkFrame.fromBytes bytes = .ok frame) :
    ∃ python, Python.ZigbeeNwkFrame.fromBytes bytes = .ok python ∧
      frame.SameFields python.toZigbeeNwkFrame := by
  obtain ⟨hwf, hbytes⟩ := codec_bijective.2 bytes frame h
  have hbody : bytes = frame.toPython.body :=
    (Outcome.ok.inj (hbytes.symm.trans (body_toPython hwf)))
  refine ⟨⟨frame.toPython⟩, ?_, sameFields_toPython hwf⟩
  rw [hbody]
  exact Python.ZigbeeNwkFrame.fromBytes_body (wellFormed_toPython hwf)

theorem NwkFrame.python_reads_sourceRoute :
    ∃ python, Python.ZigbeeNwkFrame.fromBytes sourceRouteBytes = .ok python ∧
      sourceRouteFrame.SameFields python.toZigbeeNwkFrame :=
  python_reads_same (by decide)

end ZigpySpinel.Zigbee
