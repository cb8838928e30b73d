import ZigpySpinel.Lib.Ccm
import ZigpySpinel.Zigbee.Proofs.NwkInverse

/-!
# Encryption is CCM

The payload that `encrypt` makes is the CCM encryption of the frame's payload with a
two-byte length field and a four-byte tag. The blocks that are authenticated, the counter
blocks and the tag are compared one after the other.
-/

namespace ZigpySpinel.Zigbee
open Lib

/-- CCM as network frames use it. -/
def nwkCcm : Ccm.Params where
  M := 4
  L := 2
  two_le_L := by decide
  L_le := by decide
  four_le_M := by decide
  M_le := by decide
  M_even := by decide

/-! ## Lengths -/

theorem NwkSourceRoute.length_body_le {route : NwkSourceRoute} (h : route.WellFormed) :
    route.body.length ≤ 512 := by
  have hcount : route.relayCount.toNat < 256 := route.relayCount.toNat_lt
  have hrelays := length_flatMap_const Nwk.length_toBytes route.relays
  have hbound : route.relays.length < 256 := h ▸ hcount
  simp only [body, List.length_append, List.length_cons, List.length_nil, hrelays]
  omega

/-- A header with at most 255 relays is short. -/
theorem NwkHeader.length_body_le {header : NwkHeader}
    (h : ∀ route ∈ header.sourceRoute, route.WellFormed) : header.body.length ≤ 537 := by
  have hdestination := length_encodeOptional_le Eui64.toBytes 8 header.destinationIeee
    (fun ieee _ => Nat.le_of_eq ieee.length_toBytes)
  have hsource := length_encodeOptional_le Eui64.toBytes 8 header.sourceIeee
    (fun ieee _ => Nat.le_of_eq ieee.length_toBytes)
  have hmulticast := length_encodeOptional_le (fun control : UInt8 => [control]) 1
    header.multicastControl (fun _ _ => Nat.le_refl 1)
  have hroute := length_encodeOptional_le NwkSourceRoute.body 512 header.sourceRoute
    (fun route hmem => NwkSourceRoute.length_body_le (h route hmem))
  simp only [body, List.length_append, NwkFrameControl.length_toBytes, Nwk.length_toBytes,
    List.length_cons, List.length_nil]
  omega

theorem NwkAuxHeader.length_toBytes_le (header : NwkAuxHeader) : header.toBytes.length ≤ 14 := by
  have hsource := length_encodeOptional_le Eui64.toBytes 8 header.extendedSource
    (fun ieee _ => Nat.le_of_eq ieee.length_toBytes)
  simp only [toBytes, List.length_append, NwkSecurityHeaderControlField.length_toBytes,
    length_u32ToLeBytes, List.length_cons, List.length_nil]
  omega

/-! ## The blocks -/

namespace NwkCrypto

theorem lowBytes_eq (n : Nat) : lowBytes n = beBytes 2 n := drop_beBytes 2 6 n

theorem counterBlock_eq (nonce : FixedBytes 13) (i : Nat) :
    counterBlock nonce i = Ccm.a nwkCcm nonce i := by
  apply Subtype.ext
  show [0b00000001] ++ nonce.val ++ lowBytes i = _
  rw [lowBytes_eq]
  rfl

theorem keyStream_eq (aes : Aes128) (key : Key) (nonce : FixedBytes 13) (len : Nat) :
    keyStream aes key nonce len =
      Ccm.keyStream nwkCcm (aes.encryptBlock key) nonce ((len + 15) / 16) := by
  rw [keyStream, keyStreamBlocks, blockBytes, List.flatMap_map]
  simp only [counterBlock_eq]
  rfl

/-- The flags of the first block say that there is additional data. -/
theorem b0_eq {authData : List UInt8} (hne : authData ≠ []) (plaintext : List UInt8)
    (nonce : FixedBytes 13) : b0 nonce plaintext = Ccm.b0 nwkCcm nonce authData plaintext := by
  apply Subtype.ext
  simp only [b0, Ccm.b0, if_neg hne, lowBytes_eq]
  rfl

/-- Additional data of at least one byte and less than `0xFF00` bytes has its length in
    front in two bytes. -/
theorem macBlocks_eq {authData : List UInt8} (hne : authData ≠ []) (hlen : authData.length < 0xFF00)
    (plaintext : List UInt8) (nonce : FixedBytes 13) :
    macBlocks authData plaintext nonce = Ccm.authBlocks nwkCcm nonce authData plaintext := by
  have hpos : authData.length ≠ 0 := fun h => hne (List.length_eq_zero_iff.mp h)
  have hprefix : Ccm.lengthPrefix authData.length = lowBytes authData.length := by
    rw [Ccm.lengthPrefix, if_neg hpos, if_pos hlen, lowBytes_eq]
  simp only [macBlocks, Ccm.authBlocks, rightPadToMultipleOf16_eq, hprefix, b0_eq hne]

theorem computeMac_eq (aes : Aes128) {frame : NwkFrame} (key : Key) (plaintext : List UInt8)
    (auxHeader : NwkAuxHeader) (nonce : FixedBytes 13) {header : List UInt8}
    (h : frame.nwkHeader.toBytes = .ok header) :
    computeMac aes frame key plaintext auxHeader nonce =
      .ok (takeTag (Ccm.cbcMac (aes.encryptBlock key)
        (macBlocks (header ++ auxHeader.toBytes) plaintext nonce))) := by
  simp only [computeMac, h, Outcome.ok_bind, macBlocks, aes.encryptBlocks_eq, getLast?_cbcChain,
    Block.zero_xor, Ccm.cbcMac]

/-- `compute_mac` returns the CCM tag. -/
theorem computeMac_eq_tag (aes : Aes128) {frame : NwkFrame} (key : Key) (plaintext : List UInt8)
    (auxHeader : NwkAuxHeader) (nonce : FixedBytes 13)
    (h : ∀ route ∈ frame.nwkHeader.sourceRoute, route.WellFormed) :
    ∃ mac : FixedBytes M, computeMac aes frame key plaintext auxHeader nonce = .ok mac ∧
      mac.val = Ccm.tag nwkCcm (aes.encryptBlock key) nonce
        (frame.nwkHeader.body ++ auxHeader.toBytes) plaintext := by
  have hheader := frame.nwkHeader.eight_le_length_body
  have hheaderLen := NwkHeader.length_body_le h
  have hauxLen := auxHeader.length_toBytes_le
  have hne : frame.nwkHeader.body ++ auxHeader.toBytes ≠ [] := by
    intro hnil
    have hzero := congrArg List.length hnil
    rw [List.length_append, List.length_nil] at hzero
    omega
  have hlen : (frame.nwkHeader.body ++ auxHeader.toBytes).length < 0xFF00 := by
    rw [List.length_append]
    omega
  refine ⟨_, computeMac_eq aes key plaintext auxHeader nonce (NwkHeader.toBytes_eq h), ?_⟩
  rw [macBlocks_eq hne hlen]
  rfl

end NwkCrypto

/-! ## Frames -/

/-- The auxiliary header with the security level that enters nonce and additional data. -/
def NwkAuxHeader.withLevel5 (auxHeader : NwkAuxHeader) : NwkAuxHeader :=
  { auxHeader with
    securityControl := { auxHeader.securityControl with securityLevel := .encMic32 } }

theorem NwkFrame.getModifiedAuxHeader_eq {frame : NwkFrame} {auxHeader : NwkAuxHeader}
    (h : frame.auxHeader = some auxHeader) :
    frame.getModifiedAuxHeader .encMic32 = .ok auxHeader.withLevel5 := by
  rw [getModifiedAuxHeader, h]
  rfl

/-- The security level does not say where the source address is. -/
theorem NwkFrame.getNonce_eq {frame : NwkFrame} {auxHeader : NwkAuxHeader} {source : Eui64}
    (h : frame.nonceSource auxHeader = some source) :
    frame.getNonce auxHeader.withLevel5 = .ok (nonceOf source auxHeader.withLevel5) := by
  have hsame : frame.nonceSource auxHeader.withLevel5 = some source := h
  rw [getNonce, hsame]

/-- The payload of an encrypted frame is the CCM encryption of its payload: with the source
    address, the frame counter and the security control as nonce, and with the two headers
    as additional data. The length field of CCM holds payloads of less than 65536 bytes. -/
theorem NwkFrame.encrypt_eq_ccm (aes : Aes128) (key : Key) {frame : NwkFrame}
    {auxHeader : NwkAuxHeader} {source : Eui64} (hencrypted : frame.encrypted = false)
    (hroute : ∀ route ∈ frame.nwkHeader.sourceRoute, route.WellFormed)
    (haux : frame.auxHeader = some auxHeader)
    (hsource : frame.nonceSource auxHeader = some source) :
    ∃ header g, frame.nwkHeader.toBytes = .ok header ∧ frame.encrypt aes key = .ok g ∧
      g.payload = Ccm.authEncrypt nwkCcm (aes.encryptBlock key)
        (nonceOf source auxHeader.withLevel5) (header ++ auxHeader.withLevel5.toBytes)
        frame.payload := by
  have hmodified := getModifiedAuxHeader_eq haux
  have hnonce := getNonce_eq hsource
  obtain ⟨mac, hmac, hmacVal⟩ := NwkCrypto.computeMac_eq_tag aes key frame.payload
    auxHeader.withLevel5 (nonceOf source auxHeader.withLevel5) hroute
  have hcrypt := NwkCrypto.encryptDecrypt_eq aes key (nonceOf source auxHeader.withLevel5) mac
    frame.payload
  have hencrypt : frame.encrypt aes key = .ok { frame with
      payload := xorBytes frame.payload
          (NwkCrypto.keyStream aes key (nonceOf source auxHeader.withLevel5) frame.payload.length) ++
        (NwkCrypto.maskTag aes key (nonceOf source auxHeader.withLevel5) mac).val
      encrypted := true } := by
    simp only [encrypt, hencrypted, Bool.false_eq_true, if_false, hmodified, hnonce, hmac, hcrypt,
      Outcome.ok_bind]
  refine ⟨frame.nwkHeader.body, _, NwkHeader.toBytes_eq hroute, hencrypt, ?_⟩
  show xorBytes frame.payload _ ++ xorBytes mac.val _ = _
  rw [hmacVal, NwkCrypto.keyStream_eq, NwkCrypto.counterBlock_eq]
  rfl

/-- The frame of `test_source_route` is encrypted as CCM does it. -/
theorem NwkFrame.encrypt_eq_ccm_sourceRoute :
    ∃ header g, sourceRoutePlain.nwkHeader.toBytes = .ok header ∧
      sourceRoutePlain.encrypt sourceRouteAes sourceRouteKey = .ok g ∧
      g.payload = Ccm.authEncrypt nwkCcm (sourceRouteAes.encryptBlock sourceRouteKey)
        (nonceOf sourceRouteSource sourceRouteAux.withLevel5)
        (header ++ sourceRouteAux.withLevel5.toBytes) sourceRoutePlain.payload := by
  have hroute : ∀ route ∈ sourceRoutePlain.nwkHeader.sourceRoute, route.WellFormed := by
    intro route hmem
    cases hmem
    rfl
  exact encrypt_eq_ccm sourceRouteAes sourceRouteKey rfl hroute rfl rfl

end ZigpySpinel.Zigbee
