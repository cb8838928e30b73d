import ZigpySpinel.Zigbee.Proofs.NwkCcm

/-!
# What network frames panic on

Both headers check a minimal length in front and index the bytes behind it. The length of
the network header covers what stands before its IEEE addresses, and that of the auxiliary
header a key sequence number without an extended source; the multicast control and the key
sequence number behind an IEEE address are read without a check. So parsing panics on the
well-formed frames that are cut off right there. Decryption trusts the parsed frame to have
a source address and a tag.
-/

namespace ZigpySpinel.Zigbee
open Lib

/-! ## The decoders that check the length -/

theorem NwkFrameType.noPanic_tryFrom (value : UInt8) : (tryFrom value).NoPanic := by
  unfold tryFrom
  split_ifs
  all_goals first | exact Outcome.noPanic_ok _ | exact Outcome.noPanic_err _

theorem NwkRouteDiscovery.noPanic_tryFrom (value : UInt8) : (tryFrom value).NoPanic := by
  unfold tryFrom
  split_ifs
  all_goals first | exact Outcome.noPanic_ok _ | exact Outcome.noPanic_err _

theorem NwkFrameControl.safe_deserialize : Safe NwkFrameControl.deserialize := by
  intro bytes
  unfold deserialize
  split
  · refine Outcome.noPanic_bind_iff.mpr ⟨NwkFrameType.noPanic_tryFrom _, fun _ _ => ?_⟩
    refine Outcome.noPanic_bind_iff.mpr ⟨NwkRouteDiscovery.noPanic_tryFrom _, fun _ _ => ?_⟩
    exact Outcome.noPanic_ok _
  · exact Outcome.noPanic_err _

theorem NwkSourceRoute.safe_deserialize : Safe NwkSourceRoute.deserialize := by
  intro bytes
  unfold deserialize
  split
  · exact (Nwk.safe_deserialize.times _).noPanic_bind_iff.mpr fun _ _ _ => Outcome.noPanic_ok _
  · exact Outcome.noPanic_err _

theorem NwkSecurityHeaderControlField.safe_deserialize :
    Safe NwkSecurityHeaderControlField.deserialize := by
  intro bytes
  cases bytes with
  | nil => exact Outcome.noPanic_err _
  | cons byte rest =>
    -- every byte is a control field
    obtain ⟨hread, -⟩ := byte_write byte
    obtain ⟨level, hlevel, hread⟩ := Outcome.bind_eq_ok.mp hread
    obtain ⟨keyId, hkeyId, -⟩ := Outcome.bind_eq_ok.mp hread
    rw [deserialize, hlevel, Outcome.ok_bind, hkeyId]
    exact Outcome.noPanic_ok _

theorem noPanic_takeU32Le_iff {bytes : List UInt8} :
    (takeU32Le bytes).NoPanic ↔ 4 ≤ bytes.length := by
  unfold takeU32Le
  split
  · simp [Outcome.noPanic_ok]
  next hshort =>
    refine iff_of_false (fun h => h _ rfl) ?_
    rcases bytes with _ | ⟨b0, _ | ⟨b1, _ | ⟨b2, _ | ⟨b3, rest⟩⟩⟩⟩
    · simp
    · simp
    · simp
    · simp
    · exact absurd rfl (hshort b0 b1 b2 b3 rest)

/-! ## The network header -/

namespace NwkHeader

/-- The bytes of a network header in front of its multicast control. -/
def beforeMulticast (header : NwkHeader) : List UInt8 :=
  header.frameControl.toBytes ++ header.destination.toBytes ++ header.source.toBytes ++
    [header.radius] ++ [header.sequenceNumber] ++
    encodeOptional Eui64.toBytes header.destinationIeee ++
    encodeOptional Eui64.toBytes header.sourceIeee

/-- The bytes are a network header that is cut off in front of its multicast control. -/
def CutOff (bytes : List UInt8) : Prop :=
  ∃ header : NwkHeader, header.WellFormed ∧ header.frameControl.multicast = true ∧
    bytes = header.beforeMulticast

theorem eight_le_length_beforeMulticast (header : NwkHeader) :
    8 ≤ header.beforeMulticast.length := by
  simp only [beforeMulticast, List.length_append, NwkFrameControl.length_toBytes,
    Nwk.length_toBytes, List.length_cons, List.length_nil]
  omega

theorem deserialize_of_cutOff {bytes : List UInt8} (h : CutOff bytes) :
    deserialize bytes = .panic "index out of bounds" := by
  obtain ⟨header, hwf, hmulticast, rfl⟩ := h
  have hlen : ¬ header.beforeMulticast.length < 8 :=
    Nat.not_lt.mpr header.eight_le_length_beforeMulticast
  rw [deserialize, if_neg hlen]
  obtain ⟨control, destination, source, radius, sequenceNumber, destinationIeee, sourceIeee,
    multicastControl, sourceRoute⟩ := header
  have hdestination := (Eui64.codec.optional control.destination).decode_encode destinationIeee
  have hsource := (Eui64.codec.optional control.extendedSource).decode_encode sourceIeee []
    ⟨hwf.sourceIeee, fun _ _ => trivial⟩
  rw [List.append_nil] at hsource
  have hcontrol : control.multicast = true := hmulticast
  simp only [beforeMulticast, List.append_assoc,
    NwkFrameControl.codec.decode_encode _ _ hwf.frameControl,
    Nwk.codec.decode_encode _ _ trivial, codec_takeByte.decode_encode _ _ trivial,
    hdestination _ ⟨hwf.destinationIeee, fun _ _ => trivial⟩, hsource, Outcome.ok_bind, hcontrol]
  rfl

/-- A source route for every flag. -/
theorem exists_sourceRoute (flag : Bool) : ∃ sourceRoute : Option NwkSourceRoute,
    (flag = true ↔ sourceRoute.isSome) ∧ ∀ route ∈ sourceRoute, route.WellFormed := by
  cases flag with
  | false => exact ⟨none, by simp, by simp⟩
  | true => exact ⟨some { relayCount := 0, relayIndex := 0, relays := [] }, by simp, by simp; rfl⟩

theorem noPanic_deserialize_iff (bytes : List UInt8) :
    (deserialize bytes).NoPanic ↔ ¬ CutOff bytes := by
  constructor
  · intro h hcut
    exact h _ (deserialize_of_cutOff hcut)
  · intro h
    by_cases hlen : bytes.length < 8
    · rw [deserialize, if_pos hlen]
      exact Outcome.noPanic_err _
    rw [deserialize, if_neg hlen]
    refine NwkFrameControl.safe_deserialize.noPanic_bind_iff.mpr fun control r1 hcontrol => ?_
    refine Nwk.safe_deserialize.noPanic_bind_iff.mpr fun destination r2 hdestination => ?_
    refine Nwk.safe_deserialize.noPanic_bind_iff.mpr fun source r3 hsource => ?_
    obtain ⟨hwf, rfl⟩ := NwkFrameControl.codec.encode_decode _ _ _ hcontrol
    obtain ⟨-, rfl⟩ := Nwk.codec.encode_decode _ _ _ hdestination
    obtain ⟨-, rfl⟩ := Nwk.codec.encode_decode _ _ _ hsource
    simp only [List.length_append, NwkFrameControl.length_toBytes, Nwk.length_toBytes] at hlen
    -- the check leaves the radius and the sequence number
    obtain ⟨radius, sequenceNumber, r5, rfl⟩ : ∃ radius sequenceNumber r5,
        r3 = radius :: sequenceNumber :: r5 := by
      rcases r3 with _ | ⟨radius, _ | ⟨sequenceNumber, r5⟩⟩
      · simp at hlen
      · simp at hlen
      · exact ⟨radius, sequenceNumber, r5, rfl⟩
    refine (Eui64.safe_deserialize.optional _).noPanic_bind_iff.mpr
      fun destinationIeee r6 hdest => ?_
    refine (Eui64.safe_deserialize.optional _).noPanic_bind_iff.mpr
      fun sourceIeee r7 hsourceIeee => ?_
    obtain ⟨⟨hdestFlag, -⟩, rfl⟩ := (Eui64.codec.optional _).encode_decode _ _ _ hdest
    obtain ⟨⟨hsourceFlag, -⟩, rfl⟩ := (Eui64.codec.optional _).encode_decode _ _ _ hsourceIeee
    refine Outcome.noPanic_bind_iff.mpr ⟨noPanic_optional_takeByte_iff.mpr ?_, ?_⟩
    · intro hmulticast heq
      subst heq
      obtain ⟨sourceRoute, hroute, hrelays⟩ := exists_sourceRoute control.sourceRoute
      refine h ⟨{
        frameControl := control
        destination := destination
        source := source
        radius := radius
        sequenceNumber := sequenceNumber
        destinationIeee := destinationIeee
        sourceIeee := sourceIeee
        multicastControl := some 0
        sourceRoute := sourceRoute },
        ⟨hwf, hdestFlag, hsourceFlag, by simp [hmulticast], hroute, hrelays⟩, hmulticast, ?_⟩
      simp [beforeMulticast]
    · intro read _
      rcases read with ⟨multicastControl, r8⟩
      refine (NwkSourceRoute.safe_deserialize.optional _).noPanic_bind_iff.mpr fun _ _ _ => ?_
      exact Outcome.noPanic_ok _

end NwkHeader

/-! ## The auxiliary header -/

namespace NwkAuxHeader

/-- The bytes of an auxiliary header in front of its key sequence number. -/
def beforeKeySequence (header : NwkAuxHeader) : List UInt8 :=
  header.securityControl.toBytes ++ u32ToLeBytes header.frameCounter ++
    encodeOptional Eui64.toBytes header.extendedSource

/-- The bytes are an auxiliary header with an extended source that is cut off in front of its
    key sequence number. -/
def CutOff (bytes : List UInt8) : Prop :=
  ∃ header : NwkAuxHeader, header.WellFormed ∧ header.securityControl.extendedSource = true ∧
    bytes = header.beforeKeySequence

theorem deserialize_of_cutOff {bytes : List UInt8} (h : CutOff bytes) :
    deserialize bytes = .panic "index out of bounds" := by
  obtain ⟨⟨control, counter, extendedSource, keySequenceNumber⟩, hwf, hextended, rfl⟩ := h
  obtain ⟨source, rfl⟩ := Option.isSome_iff_exists.mp (hwf.extendedSource.mp hextended)
  have hcontrol : control.extendedSource = true := hextended
  have hlen :
      ¬ (beforeKeySequence ⟨control, counter, some source, keySequenceNumber⟩).length < 6 := by
    simp only [beforeKeySequence, encodeOptional, List.length_append,
      NwkSecurityHeaderControlField.length_toBytes, length_u32ToLeBytes, Eui64.length_toBytes]
    omega
  have hsource := Eui64.codec.decode_encode source [] trivial
  rw [List.append_nil] at hsource
  rw [deserialize, if_neg hlen]
  simp only [beforeKeySequence, encodeOptional, List.append_assoc,
    NwkSecurityHeaderControlField.codec.decode_encode _ _ hwf.securityControl,
    codec_takeU32Le.decode_encode _ _ trivial, hcontrol, decodeOptional, hsource, Outcome.ok_bind]
  rfl

theorem noPanic_deserialize_iff (bytes : List UInt8) :
    (deserialize bytes).NoPanic ↔ ¬ CutOff bytes := by
  constructor
  · intro h hcut
    exact h _ (deserialize_of_cutOff hcut)
  · intro h
    by_cases hlen : bytes.length < 6
    · rw [deserialize, if_pos hlen]
      exact Outcome.noPanic_err _
    rw [deserialize, if_neg hlen]
    refine NwkSecurityHeaderControlField.safe_deserialize.noPanic_bind_iff.mpr
      fun control r1 hcontrol => ?_
    obtain ⟨hwf, rfl⟩ := NwkSecurityHeaderControlField.codec.encode_decode _ _ _ hcontrol
    simp only [List.length_append, NwkSecurityHeaderControlField.length_toBytes] at hlen
    refine Outcome.noPanic_bind_iff.mpr ⟨noPanic_takeU32Le_iff.mpr (by omega), ?_⟩
    intro read hcounter
    rcases read with ⟨counter, r2⟩
    obtain ⟨-, rfl⟩ := codec_takeU32Le.encode_decode _ _ _ hcounter
    rw [List.length_append, length_u32ToLeBytes] at hlen
    refine (Eui64.safe_deserialize.optional _).noPanic_bind_iff.mpr fun source r3 hsource => ?_
    obtain ⟨⟨hflag, -⟩, rfl⟩ := (Eui64.codec.optional _).encode_decode _ _ _ hsource
    refine Outcome.noPanic_bind_iff.mpr
      ⟨noPanic_takeByte_iff.mpr ?_, fun _ _ => Outcome.noPanic_ok _⟩
    intro heq
    subst heq
    cases source with
    | none =>
      -- the check leaves a byte behind the frame counter
      rw [encodeOptional, List.append_nil, List.length_nil] at hlen
      omega
    | some source =>
      refine h ⟨{
        securityControl := control
        frameCounter := counter
        extendedSource := some source
        keySequenceNumber := 0 }, ⟨hwf, hflag⟩, hflag.mpr rfl, ?_⟩
      simp [beforeKeySequence]

end NwkAuxHeader

/-! ## Frames -/

namespace NwkFrame

/-- The bytes are a well-formed network frame that is cut off in front of its multicast control,
    or in front of the key sequence number behind an extended source. -/
def CutOff (bytes : List UInt8) : Prop :=
  NwkHeader.CutOff bytes ∨
    ∃ (header : NwkHeader) (rest : List UInt8), header.WellFormed ∧
      header.frameControl.security = true ∧ NwkAuxHeader.CutOff rest ∧
      bytes = header.body ++ rest

/-- Parsing panics exactly on the frames that are cut off in one of these two places. -/
theorem noPanic_fromBytes_iff_not_cutOff (bytes : List UInt8) :
    (fromBytes bytes).NoPanic ↔ ¬ CutOff bytes := by
  rw [fromBytes, Outcome.noPanic_bind_iff, NwkHeader.noPanic_deserialize_iff, CutOff, not_or]
  refine and_congr_right fun _ => ?_
  constructor
  · intro h hsecured
    rcases hsecured with ⟨header, rest, hwf, hsecurity, hcut, rfl⟩
    have hread := h _ (NwkHeader.codec.decode_encode header rest hwf)
    simp only [hsecurity, decodeOptional, NwkAuxHeader.deserialize_of_cutOff hcut] at hread
    exact hread _ rfl
  · intro h read hheader
    rcases read with ⟨header, rest⟩
    obtain ⟨hwf, rfl⟩ := NwkHeader.codec.encode_decode _ _ _ hheader
    refine Outcome.noPanic_bind_iff.mpr ⟨?_, fun _ _ => Outcome.noPanic_ok _⟩
    cases hsecurity : header.frameControl.security with
    | false => exact Outcome.noPanic_ok _
    | true =>
      have hnotCut : ¬ NwkAuxHeader.CutOff rest :=
        fun hcut => h ⟨header, rest, hwf, hsecurity, hcut, rfl⟩
      refine Outcome.noPanic_bind_iff.mpr ⟨?_, fun _ _ => Outcome.noPanic_ok _⟩
      exact (NwkAuxHeader.noPanic_deserialize_iff rest).mpr hnotCut

/-- A header that announces a multicast control panics without it, and so does a secured frame
    of which only the key sequence number is missing. -/
theorem fromBytes_panics :
    ¬ (fromBytes [0x08, 0x01, 0xe7, 0x3c, 0x37, 0x5f, 0x1d, 0xcc]).NoPanic ∧
      ¬ (fromBytes [0x08, 0x02, 0xe7, 0x3c, 0x37, 0x5f, 0x1d, 0xcc, 0x28, 0x7e, 0xa3, 0x00, 0x00,
        0x02, 0x3c, 0x71, 0x0c, 0x01, 0x88, 0x17, 0x00]).NoPanic := by
  decide +kernel

/-! ## Decryption -/

/-- One of the two headers says that it carries the source address. -/
def HasSource (frame : NwkFrame) : Prop :=
  frame.nwkHeader.frameControl.extendedSource = true ∨
    ∃ auxHeader ∈ frame.auxHeader, auxHeader.securityControl.extendedSource = true

theorem isSome_nonceSource_iff {frame : NwkFrame} (hwf : frame.WellFormed)
    {auxHeader : NwkAuxHeader} (haux : frame.auxHeader = some auxHeader) :
    (frame.nonceSource auxHeader).isSome ↔ frame.HasSource := by
  have hauxSource := (hwf.auxWellFormed auxHeader haux).extendedSource
  rw [HasSource, hwf.nwkHeader.sourceIeee, haux, nonceSource]
  simp only [Option.mem_def, Option.some.injEq, exists_eq_left', hauxSource]
  cases auxHeader.extendedSource with
  | none => simp
  | some source => simp

theorem noPanic_splitMacTag_iff (payload : List UInt8) :
    (NwkCrypto.splitMacTag payload).NoPanic ↔ 4 ≤ payload.length := by
  unfold NwkCrypto.splitMacTag
  split
  next h => exact iff_of_true (Outcome.noPanic_ok _) h
  next h => exact iff_of_false (fun hno => hno _ rfl) h

/-- Decrypting a parsed frame panics exactly if it is secured and has no source address, or less
    payload than the four bytes of a tag. -/
theorem noPanic_decrypt_iff_hasSource (aes : Aes128) (key : Key) {bytes : List UInt8}
    {frame : NwkFrame} (h : fromBytes bytes = .ok frame) :
    (frame.decrypt aes key).NoPanic ↔
      (frame.nwkHeader.frameControl.security = true →
        frame.HasSource ∧ 4 ≤ frame.payload.length) := by
  have hwf := (codec_bijective.2 bytes frame h).1
  cases hsecurity : frame.nwkHeader.frameControl.security with
  | false =>
    have hencrypted : frame.encrypted = false := hwf.encrypted.trans hsecurity
    rw [decrypt, hencrypted]
    simp [Outcome.noPanic_err]
  | true =>
    have hencrypted : frame.encrypted = true := hwf.encrypted.trans hsecurity
    obtain ⟨auxHeader, haux⟩ := Option.isSome_iff_exists.mp (hwf.auxHeader.mp hsecurity)
    rw [decrypt, hencrypted, getModifiedAuxHeader_eq haux, ← isSome_nonceSource_iff hwf haux,
      ← noPanic_splitMacTag_iff]
    simp only [Bool.not_true, Bool.false_eq_true, if_false, Outcome.ok_bind, forall_const]
    cases hsource : frame.nonceSource auxHeader with
    | none =>
      have hnone : frame.nonceSource auxHeader.withLevel5 = none := hsource
      have hnonce : frame.getNonce auxHeader.withLevel5 =
          .panic "Cannot compute nonce with no source address" := by rw [getNonce, hnone]
      rw [hnonce]
      exact iff_of_false (fun hno => hno _ rfl) (by simp)
    | some source =>
      rw [getNonce_eq hsource, Outcome.ok_bind, Outcome.noPanic_bind_iff]
      simp only [Option.isSome_some, true_and]
      refine and_iff_left ?_
      intro read _
      rcases read with ⟨ciphertext, tag⟩
      obtain ⟨mac, hmac, -⟩ := NwkCrypto.computeMac_eq_tag aes key
        (xorBytes ciphertext (NwkCrypto.keyStream aes key
          (nonceOf source auxHeader.withLevel5) ciphertext.length))
        auxHeader.withLevel5 (nonceOf source auxHeader.withLevel5) hwf.nwkHeader.relays
      simp only [NwkCrypto.encryptDecrypt_eq, Outcome.ok_bind, hmac]
      split
      · exact Outcome.noPanic_err _
      · exact Outcome.noPanic_ok _

/-- A secured frame without a source address panics, and so does one with three bytes of
    payload. -/
theorem decrypt_panics :
    (∃ frame, fromBytes [0x08, 0x02, 0xe7, 0x3c, 0x37, 0x5f, 0x1d, 0xcc, 0x08, 0x7e, 0xa3, 0x00,
        0x00, 0x00, 0xac, 0x8c, 0xaf, 0xe5] = .ok frame ∧
      ¬ (frame.decrypt sourceRouteAes sourceRouteKey).NoPanic) ∧
    (∃ frame, fromBytes [0x08, 0x02, 0xe7, 0x3c, 0x37, 0x5f, 0x1d, 0xcc, 0x28, 0x7e, 0xa3, 0x00,
        0x00, 0x02, 0x3c, 0x71, 0x0c, 0x01, 0x88, 0x17, 0x00, 0x00, 0xac, 0x8c, 0xaf] = .ok frame ∧
      ¬ (frame.decrypt sourceRouteAes sourceRouteKey).NoPanic) :=
  ⟨⟨_, rfl, by decide⟩, ⟨_, rfl, by decide⟩⟩

/-- The frame of `test_source_route` has a source address and a tag. -/
theorem noPanic_decrypt_iff_hasSource_sourceRoute :
    fromBytes sourceRouteBytes = .ok sourceRouteFrame ∧
      (sourceRouteFrame.decrypt sourceRouteAes sourceRouteKey).NoPanic := by
  have hread : fromBytes sourceRouteBytes = .ok sourceRouteFrame := by decide
  refine ⟨hread, ?_⟩
  refine (noPanic_decrypt_iff_hasSource sourceRouteAes sourceRouteKey hread).mpr fun _ => ⟨?_, ?_⟩
  · exact .inr ⟨sourceRouteAux, rfl, rfl⟩
  · decide

end NwkFrame

end ZigpySpinel.Zigbee
