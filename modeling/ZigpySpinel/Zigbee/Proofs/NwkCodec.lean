import ZigpySpinel.Zigbee.Nwk

/-!
# The network frame codec is a bijection

Decoder and encoder of every part are inverse to each other on the values whose optional
fields agree with their flags, and the decoders return no others. The two control fields
are compared bit by bit; everything above them is put together from its fields.
-/

namespace ZigpySpinel.Zigbee
open Lib

/-! ## The frame control -/

/-- The frame controls whose fields fit the bits they are given. -/
structure NwkFrameControl.WellFormed (control : NwkFrameControl) : Prop where
  protocolVersion : control.protocolVersion < 16
  reserved : control.reserved < 4

/-- The first byte of a frame control. -/
def NwkFrameControl.byte0 (frameType : NwkFrameType) (protocolVersion : UInt8)
    (discoverRoute : NwkRouteDiscovery) : UInt8 :=
  ((frameType.toU8 &&& 0b11) <<< 0) ||| ((protocolVersion &&& 0b1111) <<< 2) |||
    ((discoverRoute.toU8 &&& 0b11) <<< 6)

/-- The second byte of a frame control. -/
def NwkFrameControl.byte1 (multicast security sourceRoute destination extendedSource
    endDeviceInitiator : Bool) (reserved : UInt8) : UInt8 :=
  ((multicast.toUInt8 &&& 0b1) <<< 0) ||| ((security.toUInt8 &&& 0b1) <<< 1) |||
    ((sourceRoute.toUInt8 &&& 0b1) <<< 2) ||| ((destination.toUInt8 &&& 0b1) <<< 3) |||
    ((extendedSource.toUInt8 &&& 0b1) <<< 4) ||| ((endDeviceInitiator.toUInt8 &&& 0b1) <<< 5) |||
    ((reserved &&& 0b11) <<< 6)

/-- All values of the two enumerations of the first byte. -/
def NwkFrameType.all : List NwkFrameType := [.data, .command, .interpan]

def NwkRouteDiscovery.all : List NwkRouteDiscovery := [.suppress, .enable, .withMulticast]

theorem NwkFrameType.mem_all (frameType : NwkFrameType) : frameType ∈ all := by
  cases frameType <;> decide

theorem NwkRouteDiscovery.mem_all (discoverRoute : NwkRouteDiscovery) : discoverRoute ∈ all := by
  cases discoverRoute <;> decide

theorem NwkFrameType.toU8_of_tryFrom {value : UInt8} {frameType : NwkFrameType}
    (h : tryFrom value = .ok frameType) : frameType.toU8 = value := by
  unfold tryFrom at h
  split_ifs at h
  all_goals
    cases h
    symm
    assumption

theorem NwkRouteDiscovery.toU8_of_tryFrom {value : UInt8} {discoverRoute : NwkRouteDiscovery}
    (h : tryFrom value = .ok discoverRoute) : discoverRoute.toU8 = value := by
  unfold tryFrom at h
  split_ifs at h
  all_goals
    cases h
    symm
    assumption

theorem NwkFrameControl.byte0_read :
    ∀ protocolVersion : UInt8, protocolVersion < 16 → ∀ frameType ∈ NwkFrameType.all,
      ∀ discoverRoute ∈ NwkRouteDiscovery.all,
        let b := byte0 frameType protocolVersion discoverRoute
        NwkFrameType.tryFrom ((b >>> 0) &&& 0b11) = .ok frameType ∧
          NwkRouteDiscovery.tryFrom ((b >>> 6) &&& 0b11) = .ok discoverRoute ∧
          (b >>> 2) &&& 0b1111 = protocolVersion := by
  decide +kernel

theorem NwkFrameControl.byte0_write {b : UInt8} {frameType : NwkFrameType}
    {discoverRoute : NwkRouteDiscovery}
    (hframeType : NwkFrameType.tryFrom ((b >>> 0) &&& 0b11) = .ok frameType)
    (hdiscoverRoute : NwkRouteDiscovery.tryFrom ((b >>> 6) &&& 0b11) = .ok discoverRoute) :
    byte0 frameType ((b >>> 2) &&& 0b1111) discoverRoute = b ∧ (b >>> 2) &&& 0b1111 < 16 := by
  refine ⟨?_, and_lt_of_lt _ (by decide)⟩
  rw [byte0, NwkFrameType.toU8_of_tryFrom hframeType,
    NwkRouteDiscovery.toU8_of_tryFrom hdiscoverRoute]
  apply eq_of_bits
  all_goals simp

theorem NwkFrameControl.byte1_read :
    ∀ reserved : UInt8, reserved < 4 →
      ∀ multicast security sourceRoute destination extendedSource endDeviceInitiator : Bool,
        let b := byte1 multicast security sourceRoute destination extendedSource
          endDeviceInitiator reserved
        ((b >>> 0) &&& 0b1 == 1) = multicast ∧ ((b >>> 1) &&& 0b1 == 1) = security ∧
          ((b >>> 2) &&& 0b1 == 1) = sourceRoute ∧ ((b >>> 3) &&& 0b1 == 1) = destination ∧
          ((b >>> 4) &&& 0b1 == 1) = extendedSource ∧
          ((b >>> 5) &&& 0b1 == 1) = endDeviceInitiator ∧ (b >>> 6) &&& 0b11 = reserved := by
  decide +kernel

theorem NwkFrameControl.byte1_write (b : UInt8) :
    byte1 ((b >>> 0) &&& 0b1 == 1) ((b >>> 1) &&& 0b1 == 1) ((b >>> 2) &&& 0b1 == 1)
        ((b >>> 3) &&& 0b1 == 1) ((b >>> 4) &&& 0b1 == 1) ((b >>> 5) &&& 0b1 == 1)
        ((b >>> 6) &&& 0b11) = b ∧
      (b >>> 6) &&& 0b11 < 4 := by
  refine ⟨?_, and_lt_of_lt _ (by decide)⟩
  rw [byte1, shiftRight_and_one_beq b 0 (by decide), shiftRight_and_one_beq b 1 (by decide),
    shiftRight_and_one_beq b 2 (by decide), shiftRight_and_one_beq b 3 (by decide),
    shiftRight_and_one_beq b 4 (by decide), shiftRight_and_one_beq b 5 (by decide)]
  apply eq_of_bits
  all_goals simp

theorem NwkFrameControl.codec :
    Codec NwkFrameControl.WellFormed NwkFrameControl.toBytes NwkFrameControl.deserialize where
  decode_encode control rest h := by
    obtain ⟨frameType, version, discoverRoute, multicast, security, sourceRoute, destination,
      extendedSource, endDeviceInitiator, reserved⟩ := control
    obtain ⟨hframeType, hdiscoverRoute, hversion⟩ :=
      byte0_read version h.protocolVersion frameType frameType.mem_all discoverRoute
        discoverRoute.mem_all
    obtain ⟨h0, h1, h2, h3, h4, h5, hreserved⟩ :=
      byte1_read reserved h.reserved multicast security sourceRoute destination extendedSource
        endDeviceInitiator
    show deserialize (byte0 frameType version discoverRoute :: byte1 multicast security sourceRoute
      destination extendedSource endDeviceInitiator reserved :: rest) = _
    simp only [deserialize, hframeType, hdiscoverRoute, hversion, h0, h1, h2, h3, h4, h5,
      hreserved, Outcome.ok_bind]
  encode_decode bytes control rest h := by
    match bytes with
    | [] => cases h
    | [_] => cases h
    | b0 :: b1 :: bytes =>
      simp only [deserialize, Outcome.bind_eq_ok] at h
      rcases h with ⟨frameType, hframeType, discoverRoute, hdiscoverRoute, h⟩
      simp only [Outcome.ok.injEq, Prod.mk.injEq] at h
      rcases h with ⟨rfl, rfl⟩
      obtain ⟨h0, hversion⟩ := byte0_write hframeType hdiscoverRoute
      obtain ⟨h1, hreserved⟩ := byte1_write b1
      refine ⟨⟨hversion, hreserved⟩, ?_⟩
      show b0 :: b1 :: bytes = byte0 _ _ _ :: byte1 _ _ _ _ _ _ _ :: bytes
      rw [h0, h1]

@[simp] theorem NwkFrameControl.length_toBytes (control : NwkFrameControl) :
    control.toBytes.length = 2 := rfl

/-! ## The source route -/

/-- The source routes whose count is right. -/
def NwkSourceRoute.WellFormed (route : NwkSourceRoute) : Prop :=
  route.relayCount.toNat = route.relays.length

/-- The bytes of a source route, without the check of its count. -/
def NwkSourceRoute.body (route : NwkSourceRoute) : List UInt8 :=
  [route.relayCount] ++ [route.relayIndex] ++ route.relays.flatMap Nwk.toBytes

theorem NwkSourceRoute.toBytes_eq {route : NwkSourceRoute} (h : route.WellFormed) :
    route.toBytes = .ok route.body := by
  have hcount : route.relayCount = UInt8.ofNat route.relays.length := by
    rw [← h, UInt8.ofNat_toNat]
  rw [toBytes, if_neg (not_not.mpr hcount)]
  rfl

theorem NwkSourceRoute.codec :
    Codec NwkSourceRoute.WellFormed NwkSourceRoute.body NwkSourceRoute.deserialize where
  decode_encode route rest h := by
    rcases route with ⟨count, index, relays⟩
    have hrelays := (Nwk.codec.times count.toNat).decode_encode relays rest
      ⟨Eq.symm h, fun _ _ => trivial⟩
    show deserialize (count :: index :: (relays.flatMap Nwk.toBytes ++ rest)) = _
    simp only [deserialize, hrelays, Outcome.ok_bind]
  encode_decode bytes route rest h := by
    match bytes with
    | [] => cases h
    | [_] => cases h
    | count :: index :: bytes =>
      simp only [deserialize, Outcome.bind_eq_ok] at h
      rcases h with ⟨⟨relays, remaining⟩, hread, h⟩
      simp only [Outcome.ok.injEq, Prod.mk.injEq] at h
      rcases h with ⟨rfl, rfl⟩
      obtain ⟨⟨hlen, -⟩, hbytes⟩ := (Nwk.codec.times count.toNat).encode_decode _ _ _ hread
      refine ⟨hlen.symm, ?_⟩
      rw [hbytes]
      rfl

/-! ## The network header -/

/-- The network headers whose optional fields agree with their flags. -/
structure NwkHeader.WellFormed (header : NwkHeader) : Prop where
  frameControl : header.frameControl.WellFormed
  destinationIeee : header.frameControl.destination = true ↔ header.destinationIeee.isSome
  sourceIeee : header.frameControl.extendedSource = true ↔ header.sourceIeee.isSome
  multicastControl : header.frameControl.multicast = true ↔ header.multicastControl.isSome
  sourceRoute : header.frameControl.sourceRoute = true ↔ header.sourceRoute.isSome
  relays : ∀ route ∈ header.sourceRoute, route.WellFormed

/-- The bytes of a network header, without the check of the relay count. -/
def NwkHeader.body (header : NwkHeader) : List UInt8 :=
  header.frameControl.toBytes ++ header.destination.toBytes ++ header.source.toBytes ++
    [header.radius] ++ [header.sequenceNumber] ++
    encodeOptional Eui64.toBytes header.destinationIeee ++
    encodeOptional Eui64.toBytes header.sourceIeee ++
    encodeOptional (fun control => [control]) header.multicastControl ++
    encodeOptional NwkSourceRoute.body header.sourceRoute

theorem NwkHeader.toBytes_eq {header : NwkHeader}
    (h : ∀ route ∈ header.sourceRoute, route.WellFormed) : header.toBytes = .ok header.body := by
  unfold toBytes body
  cases hroute : header.sourceRoute with
  | none => simp [encodeOptional]
  | some route => simp [encodeOptional, NwkSourceRoute.toBytes_eq (h route hroute)]

theorem NwkHeader.eight_le_length_body (header : NwkHeader) : 8 ≤ header.body.length := by
  simp only [body, List.length_append, NwkFrameControl.length_toBytes, Nwk.length_toBytes,
    List.length_cons, List.length_nil]
  omega

theorem NwkHeader.codec : Codec NwkHeader.WellFormed NwkHeader.body NwkHeader.deserialize where
  decode_encode header rest h := by
    have hlen : ¬ (header.body ++ rest).length < 8 := by
      have := header.eight_le_length_body
      rw [List.length_append]
      omega
    rw [deserialize, if_neg hlen]
    obtain ⟨control, destination, source, radius, sequenceNumber, destinationIeee, sourceIeee,
      multicastControl, sourceRoute⟩ := header
    have hdestination := (Eui64.codec.optional control.destination).decode_encode destinationIeee
    have hsource := (Eui64.codec.optional control.extendedSource).decode_encode sourceIeee
    have hmulticast := (codec_takeByte (ε := String) |>.optional control.multicast).decode_encode multicastControl
    have hroute := (NwkSourceRoute.codec.optional control.sourceRoute).decode_encode sourceRoute
    simp only [body, List.append_assoc, NwkFrameControl.codec.decode_encode _ _ h.frameControl,
      Nwk.codec.decode_encode _ _ trivial, codec_takeByte.decode_encode _ _ trivial,
      hdestination _ ⟨h.destinationIeee, fun _ _ => trivial⟩,
      hsource _ ⟨h.sourceIeee, fun _ _ => trivial⟩,
      hmulticast _ ⟨h.multicastControl, fun _ _ => trivial⟩,
      hroute _ ⟨h.sourceRoute, h.relays⟩, Outcome.ok_bind]
  encode_decode bytes header rest h := by
    by_cases hlen : bytes.length < 8
    · rw [deserialize, if_pos hlen] at h
      cases h
    · rw [deserialize, if_neg hlen] at h
      simp only [Outcome.bind_eq_ok] at h
      obtain ⟨⟨control, r1⟩, hcontrol, ⟨destination, r2⟩, hdestination, ⟨source, r3⟩, hsource,
        ⟨radius, r4⟩, hradius, ⟨sequenceNumber, r5⟩, hsequence, ⟨destinationIeee, r6⟩, hdestIeee,
        ⟨sourceIeee, r7⟩, hsourceIeee, ⟨multicastControl, r8⟩, hmulticast, ⟨sourceRoute, r9⟩,
        hroute, h⟩ := h
      simp only [Outcome.ok.injEq, Prod.mk.injEq] at h
      rcases h with ⟨rfl, rfl⟩
      obtain ⟨hwf, rfl⟩ := NwkFrameControl.codec.encode_decode _ _ _ hcontrol
      obtain ⟨-, rfl⟩ := Nwk.codec.encode_decode _ _ _ hdestination
      obtain ⟨-, rfl⟩ := Nwk.codec.encode_decode _ _ _ hsource
      obtain ⟨-, rfl⟩ := codec_takeByte.encode_decode _ _ _ hradius
      obtain ⟨-, rfl⟩ := codec_takeByte.encode_decode _ _ _ hsequence
      obtain ⟨⟨hdestFlag, -⟩, rfl⟩ := (Eui64.codec.optional _).encode_decode _ _ _ hdestIeee
      obtain ⟨⟨hsourceFlag, -⟩, rfl⟩ := (Eui64.codec.optional _).encode_decode _ _ _ hsourceIeee
      obtain ⟨⟨hmulticastFlag, -⟩, rfl⟩ := (codec_takeByte.optional _).encode_decode _ _ _ hmulticast
      obtain ⟨⟨hrouteFlag, hrelays⟩, rfl⟩ :=
        (NwkSourceRoute.codec.optional _).encode_decode _ _ _ hroute
      refine ⟨⟨hwf, hdestFlag, hsourceFlag, hmulticastFlag, hrouteFlag, hrelays⟩, ?_⟩
      simp only [body, List.append_assoc]

/-! ## The auxiliary header -/

/-- The control fields whose reserved bit fits. -/
def NwkSecurityHeaderControlField.WellFormed (control : NwkSecurityHeaderControlField) : Prop :=
  control.reserved < 2

/-- The byte of a control field. -/
def NwkSecurityHeaderControlField.byte (level : NwkSecurityLevel) (keyId : NwkSecurityHeaderKeyId)
    (extendedSource requireVerified : Bool) (reserved : UInt8) : UInt8 :=
  (level.toU8 &&& (0b111 : UInt8)) ||| ((keyId.toU8 &&& 0b11) <<< 3) |||
    (extendedSource.toUInt8 <<< 5) ||| (requireVerified.toUInt8 <<< 6) |||
    ((reserved &&& 0b1) <<< 7)

/-- All values of the two enumerations of a control field. -/
def NwkSecurityLevel.all : List NwkSecurityLevel :=
  [.noSecurity, .mic32, .mic64, .mic128, .enc, .encMic32, .encMic64, .encMic128]

def NwkSecurityHeaderKeyId.all : List NwkSecurityHeaderKeyId :=
  [.dataKey, .networkKey, .keyTransportKey, .keyLoadKey]

theorem NwkSecurityLevel.mem_all (level : NwkSecurityLevel) : level ∈ all := by
  cases level <;> decide

theorem NwkSecurityHeaderKeyId.mem_all (keyId : NwkSecurityHeaderKeyId) : keyId ∈ all := by
  cases keyId <;> decide

theorem NwkSecurityHeaderControlField.byte_read :
    ∀ reserved : UInt8, reserved < 2 → ∀ level ∈ NwkSecurityLevel.all,
      ∀ keyId ∈ NwkSecurityHeaderKeyId.all, ∀ extendedSource requireVerified : Bool,
        let b := byte level keyId extendedSource requireVerified reserved
        NwkSecurityLevel.tryFrom ((b >>> 0) &&& 0b111) = .ok level ∧
          NwkSecurityHeaderKeyId.tryFrom ((b >>> 3) &&& 0b11) = .ok keyId ∧
          ((b >>> 5) &&& 0b1 == 1) = extendedSource ∧
          ((b >>> 6) &&& 0b1 == 1) = requireVerified ∧ (b >>> 7) &&& 0b1 = reserved := by
  decide +kernel

theorem NwkSecurityLevel.toU8_of_tryFrom {value : UInt8} {level : NwkSecurityLevel}
    (h : tryFrom value = .ok level) : level.toU8 = value := by
  unfold tryFrom at h
  split_ifs at h
  all_goals
    cases h
    symm
    assumption

theorem NwkSecurityHeaderKeyId.toU8_of_tryFrom {value : UInt8} {keyId : NwkSecurityHeaderKeyId}
    (h : tryFrom value = .ok keyId) : keyId.toU8 = value := by
  unfold tryFrom at h
  split_ifs at h
  all_goals
    cases h
    symm
    assumption

/-- No level is rejected. -/
theorem NwkSecurityLevel.exists_tryFrom (b : UInt8) :
    ∃ level, tryFrom (b &&& 0b111) = .ok level := by
  have hall : ∀ i : Fin 8, (tryFrom (UInt8.ofNat i)).Returns := by decide
  have hreturns := hall ⟨(b &&& 0b111).toNat, and_lt_of_lt b (by decide : (0b111 : UInt8) < 8)⟩
  rwa [UInt8.ofNat_toNat] at hreturns

theorem NwkSecurityHeaderKeyId.exists_tryFrom (b : UInt8) :
    ∃ keyId, tryFrom (b &&& 0b11) = .ok keyId := by
  have hall : ∀ i : Fin 4, (tryFrom (UInt8.ofNat i)).Returns := by decide
  have hreturns := hall ⟨(b &&& 0b11).toNat, and_lt_of_lt b (by decide : (0b11 : UInt8) < 4)⟩
  rwa [UInt8.ofNat_toNat] at hreturns

/-- No byte is rejected, and each is written as it was read. -/
theorem NwkSecurityHeaderControlField.byte_write (b : UInt8) :
    (do
      let level ← NwkSecurityLevel.tryFrom ((b >>> 0) &&& 0b111)
      let keyId ← NwkSecurityHeaderKeyId.tryFrom ((b >>> 3) &&& 0b11)
      .ok (byte level keyId ((b >>> 5) &&& 0b1 == 1) ((b >>> 6) &&& 0b1 == 1)
        ((b >>> 7) &&& 0b1))) = Outcome.ok b ∧
      (b >>> 7) &&& 0b1 < 2 := by
  obtain ⟨level, hlevel⟩ := NwkSecurityLevel.exists_tryFrom (b >>> 0)
  obtain ⟨keyId, hkeyId⟩ := NwkSecurityHeaderKeyId.exists_tryFrom (b >>> 3)
  refine ⟨?_, and_lt_of_lt _ (by decide)⟩
  rw [hlevel, Outcome.ok_bind, hkeyId, Outcome.ok_bind, byte,
    NwkSecurityLevel.toU8_of_tryFrom hlevel, NwkSecurityHeaderKeyId.toU8_of_tryFrom hkeyId,
    shiftRight_and_one_beq b 5 (by decide), shiftRight_and_one_beq b 6 (by decide)]
  congr 1
  apply eq_of_bits
  all_goals simp

theorem NwkSecurityHeaderControlField.codec :
    Codec NwkSecurityHeaderControlField.WellFormed NwkSecurityHeaderControlField.toBytes
      NwkSecurityHeaderControlField.deserialize where
  decode_encode control rest h := by
    rcases control with ⟨level, keyId, extendedSource, requireVerified, reserved⟩
    obtain ⟨hlevel, hkeyId, h5, h6, hreserved⟩ :=
      byte_read reserved h level level.mem_all keyId keyId.mem_all extendedSource requireVerified
    show deserialize (byte level keyId extendedSource requireVerified reserved :: rest) = _
    simp only [deserialize, hlevel, hkeyId, h5, h6, hreserved, Outcome.ok_bind]
  encode_decode bytes control rest h := by
    cases bytes with
    | nil => cases h
    | cons b bytes =>
      simp only [deserialize, Outcome.bind_eq_ok] at h
      rcases h with ⟨level, hlevel, keyId, hkeyId, h⟩
      simp only [Outcome.ok.injEq, Prod.mk.injEq] at h
      rcases h with ⟨rfl, rfl⟩
      obtain ⟨hbyte, hreserved⟩ := byte_write b
      simp only [hlevel, hkeyId, Outcome.ok_bind, Outcome.ok.injEq] at hbyte
      refine ⟨hreserved, ?_⟩
      show b :: bytes = byte _ _ _ _ _ :: bytes
      rw [hbyte]

@[simp] theorem NwkSecurityHeaderControlField.length_toBytes
    (control : NwkSecurityHeaderControlField) : control.toBytes.length = 1 := rfl

theorem codec_takeU32Le : Codec (fun _ => True) u32ToLeBytes takeU32Le where
  decode_encode n rest _ := by
    obtain ⟨b0, b1, b2, b3, hbytes, hn⟩ := u32ToLeBytes_eq n
    rw [hbytes, ← hn]
    rfl
  encode_decode bytes n rest h := by
    match bytes with
    | [] => cases h
    | [_] => cases h
    | [_, _] => cases h
    | [_, _, _] => cases h
    | b0 :: b1 :: b2 :: b3 :: bytes =>
      simp only [takeU32Le, Outcome.ok.injEq, Prod.mk.injEq] at h
      rcases h with ⟨rfl, rfl⟩
      rw [u32ToLeBytes_fromLeBytes]
      exact ⟨trivial, rfl⟩

/-- The auxiliary headers whose extended source agrees with its flag. -/
structure NwkAuxHeader.WellFormed (header : NwkAuxHeader) : Prop where
  securityControl : header.securityControl.WellFormed
  extendedSource : header.securityControl.extendedSource = true ↔ header.extendedSource.isSome

theorem NwkAuxHeader.codec :
    Codec NwkAuxHeader.WellFormed NwkAuxHeader.toBytes NwkAuxHeader.deserialize where
  decode_encode header rest h := by
    have hlen : ¬ (header.toBytes ++ rest).length < 6 := by
      simp only [toBytes, List.length_append, NwkSecurityHeaderControlField.length_toBytes,
        length_u32ToLeBytes, List.length_cons, List.length_nil]
      omega
    rw [deserialize, if_neg hlen]
    rcases header with ⟨control, counter, source, keySequenceNumber⟩
    have hsource := (Eui64.codec.optional control.extendedSource).decode_encode source
    simp only [toBytes, List.append_assoc,
      NwkSecurityHeaderControlField.codec.decode_encode _ _ h.securityControl,
      codec_takeU32Le.decode_encode _ _ trivial,
      hsource _ ⟨h.extendedSource, fun _ _ => trivial⟩,
      codec_takeByte.decode_encode _ _ trivial, Outcome.ok_bind]
  encode_decode bytes header rest h := by
    by_cases hlen : bytes.length < 6
    · rw [deserialize, if_pos hlen] at h
      cases h
    · rw [deserialize, if_neg hlen] at h
      simp only [Outcome.bind_eq_ok] at h
      obtain ⟨⟨control, r1⟩, hcontrol, ⟨counter, r2⟩, hcounter, ⟨source, r3⟩, hsource,
        ⟨keySequenceNumber, r4⟩, hkey, h⟩ := h
      simp only [Outcome.ok.injEq, Prod.mk.injEq] at h
      rcases h with ⟨rfl, rfl⟩
      obtain ⟨hwf, rfl⟩ := NwkSecurityHeaderControlField.codec.encode_decode _ _ _ hcontrol
      obtain ⟨-, rfl⟩ := codec_takeU32Le.encode_decode _ _ _ hcounter
      obtain ⟨⟨hflag, -⟩, rfl⟩ := (Eui64.codec.optional _).encode_decode _ _ _ hsource
      obtain ⟨-, rfl⟩ := codec_takeByte.encode_decode _ _ _ hkey
      refine ⟨⟨hwf, hflag⟩, ?_⟩
      simp only [toBytes, List.append_assoc]

/-! ## Frames -/

/-- The frames whose parts agree with the flags that announce them. -/
structure NwkFrame.WellFormed (frame : NwkFrame) : Prop where
  nwkHeader : frame.nwkHeader.WellFormed
  auxHeader : frame.nwkHeader.frameControl.security = true ↔ frame.auxHeader.isSome
  auxWellFormed : ∀ auxHeader ∈ frame.auxHeader, auxHeader.WellFormed
  encrypted : frame.encrypted = frame.nwkHeader.frameControl.security

/-- A well-formed frame is encoded, and decoding gives it back; a byte string that decodes
    to a frame is the encoding of this frame, which is well formed. -/
theorem NwkFrame.codec_bijective :
    (∀ frame : NwkFrame, frame.WellFormed →
      ∃ bytes, frame.toBytes = .ok bytes ∧ NwkFrame.fromBytes bytes = .ok frame) ∧
    (∀ bytes frame, NwkFrame.fromBytes bytes = .ok frame →
      frame.WellFormed ∧ frame.toBytes = .ok bytes) := by
  constructor
  · intro frame h
    rcases frame with ⟨header, aux, payload, encrypted⟩
    have hheader := NwkHeader.toBytes_eq h.nwkHeader.relays
    have hencrypted : encrypted = header.frameControl.security := h.encrypted
    have haux := (NwkAuxHeader.codec.optional header.frameControl.security).decode_encode aux
      payload ⟨h.auxHeader, h.auxWellFormed⟩
    refine ⟨_, by rw [toBytes, hheader, Outcome.ok_bind], ?_⟩
    simp only [fromBytes, List.append_assoc, NwkHeader.codec.decode_encode _ _ h.nwkHeader, haux,
      Outcome.ok_bind, hencrypted]
  · intro bytes frame h
    simp only [fromBytes, Outcome.bind_eq_ok] at h
    rcases h with ⟨⟨header, r1⟩, hheader, ⟨aux, r2⟩, haux, h⟩
    simp only [Outcome.ok.injEq] at h
    subst h
    obtain ⟨hwf, rfl⟩ := NwkHeader.codec.encode_decode _ _ _ hheader
    obtain ⟨⟨hflag, hauxWf⟩, rfl⟩ := (NwkAuxHeader.codec.optional _).encode_decode _ _ _ haux
    refine ⟨⟨hwf, hflag, hauxWf, rfl⟩, ?_⟩
    rw [toBytes, NwkHeader.toBytes_eq hwf.relays, Outcome.ok_bind]
    exact congrArg Outcome.ok (List.append_assoc ..)

theorem length_sourceRouteSource :
    ([0x02, 0x3c, 0x71, 0x0c, 0x01, 0x88, 0x17, 0x00] : List UInt8).length = 8 := rfl

/-- The source address of `test_source_route` (`zigbee_nwk.rs:755-823`). -/
def sourceRouteSource : Eui64 where
  value := ⟨[0x02, 0x3c, 0x71, 0x0c, 0x01, 0x88, 0x17, 0x00], length_sourceRouteSource⟩

/-- The auxiliary header of this test. -/
def sourceRouteAux : NwkAuxHeader where
  securityControl := {
    securityLevel := .noSecurity
    keyId := .networkKey
    extendedSource := true
    requireVerifiedFrameCounter := false
    reserved := 0b0 }
  frameCounter := 41854
  extendedSource := some sourceRouteSource
  keySequenceNumber := 0

/-- The frame of this test. -/
def sourceRouteFrame : NwkFrame where
  nwkHeader := {
    frameControl := {
      frameType := .data
      protocolVersion := 2
      discoverRoute := .suppress
      multicast := false
      security := true
      sourceRoute := true
      destination := false
      extendedSource := false
      endDeviceInitiator := false
      reserved := 0b00 }
    destination := ⟨0x3ce7⟩
    source := ⟨0x5f37⟩
    radius := 29
    sequenceNumber := 204
    destinationIeee := none
    sourceIeee := none
    multicastControl := none
    sourceRoute := some { relayCount := 1, relayIndex := 0, relays := [⟨0xf939⟩] } }
  auxHeader := some sourceRouteAux
  payload := [0x0b, 0x73, 0xdb, 0x54, 0x68, 0xc7, 0xcb, 0xc4, 0x7c, 0xaf, 0x87, 0x05]
  encrypted := true

/-- Its bytes. -/
def sourceRouteBytes : List UInt8 :=
  [0x08, 0x06, 0xe7, 0x3c, 0x37, 0x5f, 0x1d, 0xcc, 0x01, 0x00, 0x39, 0xf9,
    0x28, 0x7e, 0xa3, 0x00, 0x00, 0x02, 0x3c, 0x71, 0x0c, 0x01, 0x88, 0x17, 0x00, 0x00,
    0x0b, 0x73, 0xdb, 0x54, 0x68, 0xc7, 0xcb, 0xc4, 0x7c, 0xaf, 0x87, 0x05]

theorem NwkFrame.codec_bijective_sourceRoute :
    (∃ bytes, sourceRouteFrame.toBytes = .ok bytes ∧
      NwkFrame.fromBytes bytes = .ok sourceRouteFrame) ∧
    sourceRouteFrame.WellFormed ∧ sourceRouteFrame.toBytes = .ok sourceRouteBytes := by
  have hread : NwkFrame.fromBytes sourceRouteBytes = .ok sourceRouteFrame := by decide
  have hwrite := codec_bijective.2 sourceRouteBytes sourceRouteFrame hread
  exact ⟨codec_bijective.1 sourceRouteFrame hwrite.1, hwrite⟩

end ZigpySpinel.Zigbee
