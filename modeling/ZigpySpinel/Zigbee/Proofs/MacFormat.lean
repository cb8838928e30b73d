import ZigpySpinel.Zigbee.Proofs.NwkNoPanic

/-!
# The authenticated blocks determine the frame

What `compute_mac` chains can be read back: the length in front of the two headers says
where they end, since they are shorter than the 65536 bytes that its two bytes count up to,
and the headers say themselves where they end. The length of the payload is authenticated
modulo 65536 only, and the number of its blocks leaves no two lengths of one residue.
-/

namespace ZigpySpinel.Zigbee
open Lib

namespace NwkCrypto

/-- The block sequence determines nonce, headers and payload. -/
theorem macBlocks_inj {authData authData' plaintext plaintext' : List UInt8}
    {nonce nonce' : FixedBytes 13} (hauth : authData.length < 256 ^ 2)
    (hauth' : authData'.length < 256 ^ 2)
    (h : macBlocks authData plaintext nonce = macBlocks authData' plaintext' nonce') :
    nonce = nonce' ∧ authData = authData' ∧ plaintext = plaintext' := by
  simp only [macBlocks, rightPadToMultipleOf16_eq, lowBytes_eq, List.cons.injEq] at h
  obtain ⟨hb0, hblocks⟩ := h
  -- the nonce, and the payload's length modulo 65536
  have hb0Bytes : ([0b01001001] ++ nonce.val) ++ lowBytes plaintext.length =
      ([0b01001001] ++ nonce'.val) ++ lowBytes plaintext'.length := congrArg Subtype.val hb0
  obtain ⟨hnonce, hlow⟩ := List.append_inj' hb0Bytes (by simp only [length_lowBytes])
  rw [lowBytes_eq, lowBytes_eq] at hlow
  have hmod := mod_of_beBytes hlow
  -- the length of the headers
  have hbytes := congrArg blockBytes hblocks
  simp only [blockBytes_append, blockBytes_paddedBlocks, List.append_assoc] at hbytes
  obtain ⟨hlength, -⟩ := List.append_inj hbytes (by simp)
  have hauthLen : authData.length = authData'.length := by
    have hauthMod := mod_of_beBytes hlength
    rwa [Nat.mod_eq_of_lt hauth, Nat.mod_eq_of_lt hauth'] at hauthMod
  have hadded : (beBytes 2 authData.length ++ authData).length =
      (beBytes 2 authData'.length ++ authData').length := by
    rw [List.length_append, List.length_append, length_beBytes, length_beBytes, hauthLen]
  obtain ⟨hheaders, hpayload⟩ := List.append_inj hblocks (by
    rw [length_paddedBlocks, length_paddedBlocks, hadded])
  -- equally many blocks, so the lengths differ by less than a block
  have hcount := congrArg List.length hpayload
  rw [length_paddedBlocks, length_paddedBlocks] at hcount
  refine ⟨Subtype.ext (List.append_inj hnonce rfl).2, ?_, ?_⟩
  · exact (List.append_inj (paddedBlocks_inj hadded hheaders) (by simp)).2
  · exact paddedBlocks_inj (by omega) hpayload

end NwkCrypto

namespace NwkFrame

/-- The blocks that `encrypt` and `decrypt` have `compute_mac` chain for a payload. -/
def macInput (frame : NwkFrame) (plaintext : List UInt8) : Outcome String (List Block) := do
  let auxHeader ← frame.getModifiedAuxHeader .encMic32
  let nonce ← frame.getNonce auxHeader
  let header ← frame.nwkHeader.toBytes
  .ok (NwkCrypto.macBlocks (header ++ auxHeader.toBytes) plaintext nonce)

variable {frame frame' : NwkFrame} {plaintext plaintext' : List UInt8}

/-- What the block sequence of a secured frame with a source address is put together from. -/
theorem macInput_eq (hwf : frame.WellFormed)
    (hsecured : frame.nwkHeader.frameControl.security = true) (hsource : frame.HasSource)
    (plaintext : List UInt8) :
    ∃ auxHeader source, frame.auxHeader = some auxHeader ∧
      frame.macInput plaintext = .ok (NwkCrypto.macBlocks
        (frame.nwkHeader.body ++ auxHeader.withLevel5.toBytes) plaintext
        (nonceOf source auxHeader.withLevel5)) := by
  obtain ⟨auxHeader, haux⟩ := Option.isSome_iff_exists.mp (hwf.auxHeader.mp hsecured)
  obtain ⟨source, hnonceSource⟩ :=
    Option.isSome_iff_exists.mp ((isSome_nonceSource_iff hwf haux).mpr hsource)
  refine ⟨auxHeader, source, haux, ?_⟩
  rw [macInput, getModifiedAuxHeader_eq haux, Outcome.ok_bind, getNonce_eq hnonceSource,
    Outcome.ok_bind, NwkHeader.toBytes_eq hwf.nwkHeader.relays, Outcome.ok_bind]

/-- `compute_mac` takes its tag off the last of these blocks, chained, for every cipher. -/
def Chains (frame : NwkFrame) (plaintext : List UInt8) (blocks : List Block) : Prop :=
  ∃ auxHeader nonce, frame.getModifiedAuxHeader .encMic32 = .ok auxHeader ∧
    frame.getNonce auxHeader = .ok nonce ∧
    ∀ (aes : Aes128) (key : Key),
      NwkCrypto.computeMac aes frame key plaintext auxHeader nonce =
        .ok (NwkCrypto.takeTag (Ccm.cbcMac (aes.encryptBlock key) blocks))

theorem chains_of_macInput {blocks : List Block} (h : frame.macInput plaintext = .ok blocks) :
    frame.Chains plaintext blocks := by
  obtain ⟨auxHeader, haux, h⟩ := Outcome.bind_eq_ok.mp h
  obtain ⟨nonce, hnonce, h⟩ := Outcome.bind_eq_ok.mp h
  obtain ⟨header, hheader, h⟩ := Outcome.bind_eq_ok.mp h
  cases h
  refine ⟨auxHeader, nonce, haux, hnonce, ?_⟩
  intro aes key
  exact NwkCrypto.computeMac_eq aes key plaintext auxHeader nonce hheader

theorem length_headers_lt (hwf : frame.WellFormed) (auxHeader : NwkAuxHeader) :
    (frame.nwkHeader.body ++ auxHeader.toBytes).length < 256 ^ 2 := by
  have hheader := NwkHeader.length_body_le hwf.nwkHeader.relays
  have haux := auxHeader.length_toBytes_le
  rw [List.length_append]
  omega

/-- The two headers are read off their bytes. -/
theorem headers_inj {header header' : NwkHeader} {auxHeader auxHeader' : NwkAuxHeader}
    (hheader : header.WellFormed) (hheader' : header'.WellFormed) (haux : auxHeader.WellFormed)
    (haux' : auxHeader'.WellFormed)
    (h : header.body ++ auxHeader.toBytes = header'.body ++ auxHeader'.toBytes) :
    header = header' ∧ auxHeader = auxHeader' := by
  obtain ⟨rfl, hauxBytes⟩ := NwkHeader.codec.encode_inj hheader hheader' h
  have hauxBytes' : auxHeader.toBytes ++ [] = auxHeader'.toBytes ++ [] := by rw [hauxBytes]
  exact ⟨rfl, (NwkAuxHeader.codec.encode_inj haux haux' hauxBytes').1⟩

/-- Two secured frames that have one block sequence authenticated have one network header, one
    auxiliary header apart from its security level, and one payload. The sequence is what
    `compute_mac` chains for both. -/
theorem macInput_inj {bytes bytes' : List UInt8} (hparsed : fromBytes bytes = .ok frame)
    (hparsed' : fromBytes bytes' = .ok frame')
    (hsecured : frame.nwkHeader.frameControl.security = true)
    (hsecured' : frame'.nwkHeader.frameControl.security = true)
    (hsource : frame.HasSource) (hsource' : frame'.HasSource)
    (h : frame.macInput plaintext = frame'.macInput plaintext') :
    frame.nwkHeader = frame'.nwkHeader ∧
      frame.auxHeader.map NwkAuxHeader.withLevel5 = frame'.auxHeader.map NwkAuxHeader.withLevel5 ∧
      plaintext = plaintext' ∧
      ∃ blocks, frame.macInput plaintext = .ok blocks ∧ frame.Chains plaintext blocks ∧
        frame'.Chains plaintext' blocks := by
  have hwf := (codec_bijective.2 bytes frame hparsed).1
  have hwf' := (codec_bijective.2 bytes' frame' hparsed').1
  obtain ⟨auxHeader, source, haux, hblocks⟩ := macInput_eq hwf hsecured hsource plaintext
  obtain ⟨auxHeader', source', haux', hblocks'⟩ := macInput_eq hwf' hsecured' hsource' plaintext'
  have hchains := chains_of_macInput hblocks
  have hchains' := chains_of_macInput (h.symm.trans hblocks)
  rw [hblocks, hblocks', Outcome.ok.injEq] at h
  obtain ⟨-, hheaders, hpayload⟩ := NwkCrypto.macBlocks_inj
    (length_headers_lt hwf auxHeader.withLevel5) (length_headers_lt hwf' auxHeader'.withLevel5) h
  have hauxWf := hwf.auxWellFormed auxHeader haux
  have hauxWf' := hwf'.auxWellFormed auxHeader' haux'
  have hlevel : auxHeader.withLevel5.WellFormed := ⟨hauxWf.securityControl, hauxWf.extendedSource⟩
  have hlevel' : auxHeader'.withLevel5.WellFormed :=
    ⟨hauxWf'.securityControl, hauxWf'.extendedSource⟩
  obtain ⟨hheader, hauxHeader⟩ :=
    headers_inj hwf.nwkHeader hwf'.nwkHeader hlevel hlevel' hheaders
  rw [haux, haux', Option.map_some, Option.map_some, hauxHeader]
  exact ⟨hheader, rfl, hpayload, _, hblocks, hchains, hchains'⟩

/-- The frame of `test_source_route` with the security level that is authenticated. -/
def sourceRouteLevel5 : NwkFrame :=
  { sourceRouteFrame with auxHeader := some sourceRouteAux.withLevel5 }

/-- Its bytes. -/
def sourceRouteLevel5Bytes : List UInt8 := sourceRouteBytes.set 12 0x2d

/-- It has the same blocks authenticated as the frame of the test. -/
theorem macInput_inj_sourceRoute :
    sourceRouteFrame.auxHeader ≠ sourceRouteLevel5.auxHeader ∧
      sourceRouteFrame.macInput [0x02] = sourceRouteLevel5.macInput [0x02] ∧
      sourceRouteFrame.auxHeader.map NwkAuxHeader.withLevel5 =
        sourceRouteLevel5.auxHeader.map NwkAuxHeader.withLevel5 := by
  have hread : fromBytes sourceRouteBytes = .ok sourceRouteFrame := by decide
  have hread' : fromBytes sourceRouteLevel5Bytes = .ok sourceRouteLevel5 := by decide
  have hblocks : sourceRouteFrame.macInput [0x02] = sourceRouteLevel5.macInput [0x02] := by
    decide +kernel
  have hinj := macInput_inj hread hread' rfl rfl (.inr ⟨sourceRouteAux, rfl, rfl⟩)
    (.inr ⟨sourceRouteAux.withLevel5, rfl, rfl⟩) hblocks
  exact ⟨by decide, hblocks, hinj.2.1⟩

end NwkFrame

end ZigpySpinel.Zigbee
