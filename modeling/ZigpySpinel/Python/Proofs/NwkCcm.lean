import ZigpySpinel.Python.Proofs.NwkDecoding

/-!
# Encryption of any frame of the Python package is CCM

For every frame whose network header can be written and whose auxiliary header has an
extended source, whatever its enumerations and reserved bits hold. The last four bytes of a
payload are its tag; a payload of less than four bytes is all tag, and the padding to a
block fills it up with zeros, so that it is read like a tag of four bytes.
-/

namespace ZigpySpinel.Python
open Lib Zigbee

/-! ## Headers -/

theorem ZigbeeNwkHeader.length_sourceRoute_le {header : ZigbeeNwkHeader} {route : List UInt8}
    (h : header.serializeSourceRoute = .ok route) : route.length ≤ 512 := by
  rw [serializeSourceRoute] at h
  cases hroute : header.sourceRoute with
  | none =>
    rw [hroute] at h
    cases h
    exact Nat.zero_le _
  | some relays =>
    rw [hroute] at h
    obtain ⟨count, hcount, h⟩ := except_bind_eq_ok.mp h
    obtain ⟨index, -, h⟩ := except_bind_eq_ok.mp h
    cases h
    have hfits := (uint8T_isSome_iff.mp ⟨count, orRaise_eq_ok.mp hcount⟩).2
    have hrelays := length_flatMap_const Nwk.length_toBytes relays
    simp only [List.length_append, List.length_cons, List.length_nil, hrelays]
    omega

/-- A network header that can be written is short. -/
theorem ZigbeeNwkHeader.length_of_serialize {header : ZigbeeNwkHeader} {bytes : List UInt8}
    (h : header.serialize = .ok bytes) : 8 ≤ bytes.length ∧ bytes.length ≤ 537 := by
  rw [serialize] at h
  obtain ⟨route, hroute, h⟩ := except_bind_eq_ok.mp h
  cases h
  have hlen := length_sourceRoute_le hroute
  have hdestination := length_encodeOptional_le Eui64.toBytes 8 header.destinationIeee
    (fun ieee _ => Nat.le_of_eq ieee.length_toBytes)
  have hsource := length_encodeOptional_le Eui64.toBytes 8 header.sourceIeee
    (fun ieee _ => Nat.le_of_eq ieee.length_toBytes)
  have hmulticast := length_encodeOptional_le (fun control : UInt8 => [control]) 1
    header.multicastControl (fun _ _ => Nat.le_refl 1)
  simp only [List.length_append, List.length_cons, List.length_nil, Nwk.length_toBytes,
    ZigbeeNwkFrameControl.serialize_eq]
  omega

/-- The security level that encryption puts in. -/
def ZigbeeNwkAuxHeader.withLevel5 (auxHeader : ZigbeeNwkAuxHeader) : ZigbeeNwkAuxHeader :=
  { auxHeader with
    securityControl := { auxHeader.securityControl with securityLevel := .aesCcm32 } }

theorem ZigbeeNwkAuxHeader.length_body (auxHeader : ZigbeeNwkAuxHeader) :
    auxHeader.body.length ≤ 14 := by
  have hsource := length_encodeOptional_le Eui64.toBytes 8 auxHeader.extendedSource
    (fun ieee _ => Nat.le_of_eq ieee.length_toBytes)
  simp only [body, ZigbeeNwkSecurityHeaderControlField.serialize, List.length_append,
    length_u32ToLeBytes, List.length_cons, List.length_nil]
  omega

/-- The nonce with a source address. -/
def nonceOf (source : Eui64) (auxHeader : ZigbeeNwkAuxHeader) : FixedBytes 13 :=
  ⟨source.toBytes ++ u32ToLeBytes auxHeader.frameCounter ++ auxHeader.securityControl.serialize, by
    simp only [List.length_append, Eui64.length_toBytes, length_u32ToLeBytes]
    rfl⟩

namespace ZigbeeNwkFrame

variable {frame : ZigbeeNwkFrame} {auxHeader : ZigbeeNwkAuxHeader} {source : Eui64}

theorem getModifiedAuxHeader_eq (haux : frame.auxHeader = some auxHeader) :
    frame.getModifiedAuxHeader = some auxHeader.withLevel5 := by
  rw [getModifiedAuxHeader, haux, Option.bind_eq_bind, Option.bind_some]
  by_cases hlevel : auxHeader.securityControl.securityLevel = .aesCcm32
  · rw [if_pos hlevel, ZigbeeNwkAuxHeader.withLevel5, ← hlevel]
  · rw [if_neg hlevel]
    rfl

theorem getNonce_eq (hsource : auxHeader.extendedSource = some source) :
    frame.getNonce auxHeader.withLevel5 = some (nonceOf source auxHeader.withLevel5).val := by
  have hsource' : auxHeader.withLevel5.extendedSource = some source := hsource
  rw [getNonce, hsource']
  rfl

/-- The tag is that of CCM over the two headers. -/
theorem computeMac_eq_tag (encryptBlock : Key → Block → Block) (key : Key)
    (hsource : auxHeader.extendedSource = some source) {header : List UInt8}
    (hheader : frame.nwkHeader.serialize = .ok header) (plaintext : List UInt8)
    (hlen : plaintext.length < 65536) (nonce : FixedBytes 13) :
    frame.computeMac encryptBlock 2 4 key plaintext auxHeader nonce.val =
      .ok (Ccm.tag nwkCcm (encryptBlock key) nonce (header ++ auxHeader.body) plaintext) := by
  obtain ⟨hlong, hshort⟩ := ZigbeeNwkHeader.length_of_serialize hheader
  have haux := auxHeader.length_body
  have hauthLen : (header ++ auxHeader.body).length < 0xFF00 := by
    rw [List.length_append]
    omega
  have hauth : (header ++ auxHeader.body).length < 65536 := by omega
  have hne : header ++ auxHeader.body ≠ [] := by
    intro hnil
    have hzero := congrArg List.length hnil
    rw [List.length_append, List.length_nil] at hzero
    omega
  have hserialize : auxHeader.serialize = .ok auxHeader.body := by
    rw [ZigbeeNwkAuxHeader.serialize_eq, hsource]
    rfl
  simp only [computeMac, hheader, hserialize, bind, Except.bind, toBytesBig_two hauth,
    toBytesBig_two hlen, blockBytes_macBlocks, slice_cbcUpdate]
  rw [NwkCrypto.macBlocks_eq hne hauthLen]
  rfl

/-! ## The key stream -/

/-- The key stream over tag and text, as CCM lays it. -/
theorem encryptWith_eq (encryptBlock : Key → Block → Block) (key : Key) (nonce : FixedBytes 13)
    (tag : FixedBytes 4) {text : List UInt8} (hlen : text.length < 65536) :
    encryptWith encryptBlock 2 4 key nonce.val tag.val text =
      .ok (xorBytes tag.val ((encryptBlock key (Ccm.a nwkCcm nonce 0)).val.take 4),
        xorBytes text (Ccm.keyStream nwkCcm (encryptBlock key) nonce ((text.length + 15) / 16))) := by
  obtain ⟨tag', text', hcrypt, -, hwith⟩ :=
    encryptWith_agrees (.ofBlockFunction encryptBlock) key nonce tag hlen
  rw [NwkCrypto.encryptDecrypt_eq] at hcrypt
  cases hcrypt
  have hmask : (NwkCrypto.maskTag (.ofBlockFunction encryptBlock) key nonce tag).val =
      xorBytes tag.val ((encryptBlock key (Ccm.a nwkCcm nonce 0)).val.take 4) := by
    rw [← NwkCrypto.counterBlock_eq]
    rfl
  rw [hmask, NwkCrypto.keyStream_eq] at hwith
  exact hwith

/-- The padding to a block fills up a short tag with zeros. -/
theorem encryptWith_pad (encryptBlock : Key → Block → Block) (key : Key) (nonce : List UInt8)
    {tag : List UInt8} (hne : tag ≠ []) (hle : tag.length ≤ 4) (text : List UInt8) :
    encryptWith encryptBlock 2 4 key nonce (tag ++ List.replicate (4 - tag.length) 0) text =
      encryptWith encryptBlock 2 4 key nonce tag text := by
  have hpos := List.length_pos_iff.mpr hne
  have hpad : padToMultipleOf16 (tag ++ List.replicate (4 - tag.length) 0) =
      padToMultipleOf16 tag := by
    have hfull : (tag ++ List.replicate (4 - tag.length) 0).length = 4 := by
      rw [List.length_append, List.length_replicate]
      omega
    have hshort : tag.length % 16 = tag.length := Nat.mod_eq_of_lt (by omega)
    have hzeros : 4 - tag.length + (16 - 4) = 16 - tag.length := by omega
    rw [padToMultipleOf16, padToMultipleOf16, hfull, hshort, if_pos (by omega), if_pos (by omega),
      List.append_assoc, List.replicate_append_replicate, hzeros]
  rw [encryptWith, encryptWith, hpad]

/-! ## Encryption -/

theorem getEncryptionLM_eq (haux : frame.auxHeader = some auxHeader) :
    frame.getEncryptionLM = .ok (2, 4) := by
  rw [getEncryptionLM, haux]

end ZigbeeNwkFrame

section Frames

variable (encryptBlock : Key → Block → Block) (key : Key) {auxHeader : ZigbeeNwkAuxHeader}
  {source : Eui64} {header : List UInt8}

/-- What CCM makes of a payload under the headers of a frame. -/
def ccmPayload (auxHeader : ZigbeeNwkAuxHeader) (source : Eui64) (header plaintext : List UInt8) :
    List UInt8 :=
  Ccm.authEncrypt nwkCcm (encryptBlock key) (nonceOf source auxHeader.withLevel5)
    (header ++ auxHeader.withLevel5.body) plaintext

theorem DecryptedZigbeeNwkFrame.encrypt_eq {frame : DecryptedZigbeeNwkFrame}
    (haux : frame.auxHeader = some auxHeader) (hsource : auxHeader.extendedSource = some source)
    (hheader : frame.nwkHeader.serialize = .ok header) (hlen : frame.payload.length < 65536) :
    frame.encrypt encryptBlock key = .ok ⟨{ frame.toZigbeeNwkFrame with
      payload := ccmPayload encryptBlock key auxHeader source header frame.payload }⟩ := by
  have hsource' : auxHeader.withLevel5.extendedSource = some source := hsource
  have hmac := ZigbeeNwkFrame.computeMac_eq_tag encryptBlock key hsource' hheader _ hlen
    (nonceOf source auxHeader.withLevel5)
  have htag : (Ccm.tag nwkCcm (encryptBlock key) (nonceOf source auxHeader.withLevel5)
      (header ++ auxHeader.withLevel5.body) frame.payload).length = 4 :=
    Ccm.length_tag nwkCcm _ _ _ _
  have hwith := ZigbeeNwkFrame.encryptWith_eq encryptBlock key (nonceOf source auxHeader.withLevel5)
    ⟨_, htag⟩ hlen
  simp only [encrypt, ZigbeeNwkFrame.getEncryptionLM_eq haux,
    ZigbeeNwkFrame.getModifiedAuxHeader_eq haux, ZigbeeNwkFrame.getNonce_eq hsource, orRaise, hmac,
    hwith, bind, Except.bind]
  rfl

/-- The tag of a payload, filled up with zeros. -/
def tagOf (payload : List UInt8) : List UInt8 :=
  payload.drop (payload.length - 4) ++ List.replicate (4 - payload.length) 0

theorem length_tagOf (payload : List UInt8) : (tagOf payload).length = 4 := by
  rw [tagOf, List.length_append, List.length_drop, List.length_replicate]
  omega

/-- The payload without its tag. -/
def textOf (payload : List UInt8) : List UInt8 := payload.take (payload.length - 4)

theorem encryptWith_payload (nonce : FixedBytes 13) {payload : List UInt8} (hne : payload ≠ [])
    (hlen : payload.length < 65540) :
    ZigbeeNwkFrame.encryptWith encryptBlock 2 4 key nonce.val (payload.drop (payload.length - 4))
        (payload.take (payload.length - 4)) =
      .ok (xorBytes (tagOf payload) ((encryptBlock key (Ccm.a nwkCcm nonce 0)).val.take 4),
        xorBytes (textOf payload)
          (Ccm.keyStream nwkCcm (encryptBlock key) nonce (((textOf payload).length + 15) / 16))) := by
  have hpos := List.length_pos_iff.mpr hne
  have hdrop : (payload.drop (payload.length - 4)).length = min payload.length 4 := by
    rw [List.length_drop]
    omega
  have hdropNe : payload.drop (payload.length - 4) ≠ [] := by
    apply List.length_pos_iff.mp
    omega
  have htag : tagOf payload = payload.drop (payload.length - 4) ++
      List.replicate (4 - (payload.drop (payload.length - 4)).length) 0 := by
    have hcount : 4 - (payload.drop (payload.length - 4)).length = 4 - payload.length := by omega
    rw [tagOf, hcount]
  have htext : (textOf payload).length < 65536 := by
    rw [textOf, List.length_take]
    omega
  have hwith := ZigbeeNwkFrame.encryptWith_eq encryptBlock key nonce
    ⟨tagOf payload, length_tagOf payload⟩ htext
  rw [← ZigbeeNwkFrame.encryptWith_pad encryptBlock key nonce.val hdropNe (by omega), ← htag]
  exact hwith

/-! ## Decryption -/

/-- A frame with some payload is decrypted to the frames that CCM encrypts to this payload,
    its tag filled up with zeros. -/
theorem EncryptedZigbeeNwkFrame.decrypt_eq_ok_iff {frame : EncryptedZigbeeNwkFrame}
    {f : DecryptedZigbeeNwkFrame} (haux : frame.auxHeader = some auxHeader)
    (hsource : auxHeader.extendedSource = some source)
    (hheader : frame.nwkHeader.serialize = .ok header) (hne : frame.payload ≠ [])
    (hlen : frame.payload.length < 65540) :
    frame.decrypt encryptBlock key = .ok f ↔
      f = ⟨{ frame.toZigbeeNwkFrame with payload := f.payload }⟩ ∧
        ccmPayload encryptBlock key auxHeader source header f.payload =
          textOf frame.payload ++ tagOf frame.payload := by
  have hsource' : auxHeader.withLevel5.extendedSource = some source := hsource
  have hwith := encryptWith_payload encryptBlock key (nonceOf source auxHeader.withLevel5) hne hlen
  have hccm := Ccm.authEncrypt_eq_iff nwkCcm (encryptBlock key)
    (nonceOf source auxHeader.withLevel5) (header ++ auxHeader.withLevel5.body) f.payload
    (textOf frame.payload) (length_tagOf frame.payload)
  have hmac := ZigbeeNwkFrame.computeMac_eq_tag encryptBlock key hsource' hheader
    (xorBytes (textOf frame.payload)
      (Ccm.keyStream nwkCcm (encryptBlock key) (nonceOf source auxHeader.withLevel5)
        (((textOf frame.payload).length + 15) / 16))) (by
      rw [length_xorBytes, textOf, List.length_take]
      omega) (nonceOf source auxHeader.withLevel5)
  rw [ccmPayload, hccm]
  simp only [decrypt, ZigbeeNwkFrame.getEncryptionLM_eq haux,
    ZigbeeNwkFrame.getModifiedAuxHeader_eq haux, ZigbeeNwkFrame.getNonce_eq hsource, orRaise, hwith,
    hmac, bind, Except.bind]
  constructor
  · intro h
    split at h
    · cases h
    next hmatch =>
      cases h
      exact ⟨rfl, rfl, (not_not.mp hmatch).symm⟩
  · rintro ⟨hf, hplaintext, htag⟩
    rw [hplaintext] at htag
    refine (if_neg (not_not.mpr htag.symm)).trans ?_
    rw [hf, hplaintext]

/-- No tag at all is never the right one. -/
theorem EncryptedZigbeeNwkFrame.decrypt_nil {frame : EncryptedZigbeeNwkFrame}
    (haux : frame.auxHeader = some auxHeader) (hsource : auxHeader.extendedSource = some source)
    (hheader : frame.nwkHeader.serialize = .ok header) (hnil : frame.payload = []) :
    frame.decrypt encryptBlock key = .error (.decryptionFailure "Invalid MAC tag") := by
  have hsource' : auxHeader.withLevel5.extendedSource = some source := hsource
  have hmac := ZigbeeNwkFrame.computeMac_eq_tag encryptBlock key hsource' hheader []
    (by decide) (nonceOf source auxHeader.withLevel5)
  have hwith : ZigbeeNwkFrame.encryptWith encryptBlock 2 4 key
      (nonceOf source auxHeader.withLevel5).val [] [] = .ok ([], []) := rfl
  have hne : ([] : List UInt8) ≠ Ccm.tag nwkCcm (encryptBlock key)
      (nonceOf source auxHeader.withLevel5) (header ++ auxHeader.withLevel5.body) [] := by
    intro heq
    have hlen := Ccm.length_tag nwkCcm (encryptBlock key) (nonceOf source auxHeader.withLevel5)
      (header ++ auxHeader.withLevel5.body) []
    rw [← heq] at hlen
    cases hlen
  simp only [decrypt, ZigbeeNwkFrame.getEncryptionLM_eq haux,
    ZigbeeNwkFrame.getModifiedAuxHeader_eq haux, ZigbeeNwkFrame.getNonce_eq hsource, orRaise, hnil,
    List.take_nil, List.drop_nil, hwith, hmac, bind, Except.bind]
  rw [if_pos hne]

/-- Decryption writes the network header for the tag, and changes nothing but the payload. -/
theorem EncryptedZigbeeNwkFrame.of_decrypt {encryptBlock : Key → Block → Block} {key : Key}
    {frame : EncryptedZigbeeNwkFrame} {f : DecryptedZigbeeNwkFrame}
    (h : frame.decrypt encryptBlock key = .ok f) :
    (∃ header, frame.nwkHeader.serialize = .ok header) ∧
      f = ⟨{ frame.toZigbeeNwkFrame with payload := f.payload }⟩ := by
  rw [decrypt] at h
  obtain ⟨⟨L, M⟩, -, h⟩ := except_bind_eq_ok.mp h
  obtain ⟨aux, -, h⟩ := except_bind_eq_ok.mp h
  obtain ⟨nonce, -, h⟩ := except_bind_eq_ok.mp h
  obtain ⟨⟨provided, plaintext⟩, -, h⟩ := except_bind_eq_ok.mp h
  obtain ⟨mac, hmac, h⟩ := except_bind_eq_ok.mp h
  rw [ZigbeeNwkFrame.computeMac] at hmac
  obtain ⟨header, hheader, -⟩ := except_bind_eq_ok.mp hmac
  refine ⟨⟨header, hheader⟩, ?_⟩
  split at h
  · cases h
  · cases h
    rfl

/-! ## Tags that are cut off -/

/-- What is decrypted is encrypted to the same payload, which holds a whole tag. -/
def EncryptedZigbeeNwkFrame.OnlyWhole (frame : EncryptedZigbeeNwkFrame) : Prop :=
  ∀ f, frame.decrypt encryptBlock key = .ok f →
    (∃ g, f.encrypt encryptBlock key = .ok g ∧ g.payload = frame.payload) ∧
      4 ≤ frame.payload.length

/-- The payload is what remains of the CCM tag of the empty message, after zeros at its end
    are cut off. -/
def EncryptedZigbeeNwkFrame.TagCutOff (frame : EncryptedZigbeeNwkFrame)
    (auxHeader : ZigbeeNwkAuxHeader) (source : Eui64) : Prop :=
  0 < frame.payload.length ∧ frame.payload.length < 4 ∧
    ∃ header, frame.nwkHeader.serialize = .ok header ∧
      frame.payload ++ List.replicate (4 - frame.payload.length) 0 =
        ccmPayload encryptBlock key auxHeader source header []

theorem textOf_append_tagOf (payload : List UInt8) :
    textOf payload ++ tagOf payload = payload ++ List.replicate (4 - payload.length) 0 := by
  rw [textOf, tagOf, ← List.append_assoc, List.take_append_drop]

theorem length_ccmPayload (plaintext : List UInt8) :
    (ccmPayload encryptBlock key auxHeader source header plaintext).length =
      plaintext.length + 4 :=
  Ccm.length_authEncrypt nwkCcm _ _ _ _

/-- Of the frames with an extended source, whatever their payload, exactly those are decrypted
    without a whole tag whose payload is a tag that ended in zeros. -/
theorem EncryptedZigbeeNwkFrame.onlyWhole_iff {frame : EncryptedZigbeeNwkFrame}
    (haux : frame.auxHeader = some auxHeader) (hsource : auxHeader.extendedSource = some source)
    (hlen : frame.payload.length < 65540) :
    frame.OnlyWhole encryptBlock key ↔ ¬ frame.TagCutOff encryptBlock key auxHeader source := by
  constructor
  · rintro hwhole ⟨hpos, hshort, header, hheader, htag⟩
    have hne := List.length_pos_iff.mp hpos
    have hdecrypt := (decrypt_eq_ok_iff encryptBlock key
      (f := ⟨{ frame.toZigbeeNwkFrame with payload := [] }⟩) haux hsource hheader hne hlen).mpr
      ⟨rfl, htag.symm.trans (textOf_append_tagOf _).symm⟩
    have hlong := (hwhole _ hdecrypt).2
    omega
  · intro hnot f hdecrypt
    obtain ⟨⟨header, hheader⟩, -⟩ := of_decrypt hdecrypt
    have hne : frame.payload ≠ [] := by
      intro hnil
      rw [decrypt_nil encryptBlock key haux hsource hheader hnil] at hdecrypt
      cases hdecrypt
    obtain ⟨hf, hccm⟩ := (decrypt_eq_ok_iff encryptBlock key haux hsource hheader hne hlen).mp hdecrypt
    rw [textOf_append_tagOf] at hccm
    have hlength := congrArg List.length hccm
    rw [length_ccmPayload, List.length_append, List.length_replicate] at hlength
    have hlong : 4 ≤ frame.payload.length := by
      by_contra hshort
      have hempty : f.payload = [] := List.length_eq_zero_iff.mp (by omega)
      rw [hempty] at hccm
      exact hnot ⟨List.length_pos_iff.mpr hne, by omega, header, hheader, hccm.symm⟩
    refine ⟨?_, hlong⟩
    have haux' : f.auxHeader = some auxHeader := by
      rw [hf]
      exact haux
    have hheader' : f.nwkHeader.serialize = .ok header := by
      rw [hf]
      exact hheader
    have hencrypt := DecryptedZigbeeNwkFrame.encrypt_eq encryptBlock key haux' hsource hheader'
      (by omega)
    refine ⟨_, hencrypt, ?_⟩
    have hnone : 4 - frame.payload.length = 0 := by omega
    rw [hnone, List.replicate_zero, List.append_nil] at hccm
    exact hccm

end Frames

/-- A block function under which every tag is zero. -/
def zeroCipher : Key → Block → Block := fun _ _ => Block.zero

/-- A frame of one byte of payload. -/
def oneByteTag : EncryptedZigbeeNwkFrame where
  toZigbeeNwkFrame := { sourceRouteFrame.toPython with payload := [0x00] }

/-- It is decrypted, and encrypted to four bytes of payload. -/
theorem EncryptedZigbeeNwkFrame.oneByteTag_accepted :
    ∃ f g, oneByteTag.decrypt zeroCipher NwkFrame.sourceRouteKey = .ok f ∧
      f.encrypt zeroCipher NwkFrame.sourceRouteKey = .ok g ∧ g.payload ≠ oneByteTag.payload := by
  have hdecrypt : oneByteTag.decrypt zeroCipher NwkFrame.sourceRouteKey =
      .ok ⟨{ sourceRouteFrame.toPython with payload := [] }⟩ := by decide +kernel
  have hencrypt : DecryptedZigbeeNwkFrame.encrypt zeroCipher
      ⟨{ sourceRouteFrame.toPython with payload := [] }⟩ NwkFrame.sourceRouteKey =
      .ok ⟨{ sourceRouteFrame.toPython with payload := [0x00, 0x00, 0x00, 0x00] }⟩ := by
    decide +kernel
  exact ⟨_, _, hdecrypt, hencrypt, by decide⟩

/-- The frame of `test_source_route`. -/
theorem EncryptedZigbeeNwkFrame.onlyWhole_iff_sourceRoute :
    (EncryptedZigbeeNwkFrame.mk sourceRouteFrame.toPython).OnlyWhole
        NwkFrame.sourceRouteAes.encryptBlock NwkFrame.sourceRouteKey ↔
      ¬ (EncryptedZigbeeNwkFrame.mk sourceRouteFrame.toPython).TagCutOff
        NwkFrame.sourceRouteAes.encryptBlock NwkFrame.sourceRouteKey sourceRouteAux.toPython
        sourceRouteSource :=
  onlyWhole_iff _ _ rfl rfl (by decide)

end ZigpySpinel.Python
