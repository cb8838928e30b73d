import ZigpySpinel.Zigbee.Proofs.MacFormat

/-!
# No counter block is used twice

`encrypt_decrypt` gives the cipher one counter block for the tag and one for each block of the
payload. A payload that the length field of CCM can hold has so few blocks that two bytes
hold their numbers, so a counter block says which of them it is, and the nonce in it says
which frame it is of. The first block of the authentication has other flags.
-/

namespace ZigpySpinel.Zigbee
open Lib

namespace NwkCrypto

/-- The blocks that `encrypt_decrypt` gives to the cipher, in their order. -/
def cipherInputs (nonce : FixedBytes 13) (macTag : FixedBytes M) (plaintext : List UInt8) :
    List Block :=
  (rightPadToMultipleOf16 macTag.val ++ rightPadToMultipleOf16 plaintext).mapIdx
    fun blockNum _ => counterBlock nonce blockNum

/-- `encrypt_decrypt` has the cipher map these blocks in their order, and takes nothing else
    from it: the tag and the text are what it makes of them, added to the padded blocks. -/
def Ciphers (nonce : FixedBytes 13) (macTag : FixedBytes M) (plaintext : List UInt8)
    (inputs : List Block) : Prop :=
  ∀ (aes : Aes128) (key : Key), ∃ first rest,
    List.zipWith Block.xor (inputs.map (aes.encryptBlock key))
        (rightPadToMultipleOf16 macTag.val ++ rightPadToMultipleOf16 plaintext) = first :: rest ∧
      encryptDecrypt aes key nonce macTag plaintext =
        .ok (takeTag first, (blockBytes rest).take plaintext.length)

theorem mapIdx_cipherInputs (aes : Aes128) (key : Key) (nonce : FixedBytes 13)
    (macTag : FixedBytes M) (plaintext : List UInt8) :
    ((rightPadToMultipleOf16 macTag.val ++ rightPadToMultipleOf16 plaintext).mapIdx
        fun blockNum plaintextBlock =>
          (aes.encryptBlock key (counterBlock nonce blockNum)).xor plaintextBlock) =
      List.zipWith Block.xor ((cipherInputs nonce macTag plaintext).map (aes.encryptBlock key))
        (rightPadToMultipleOf16 macTag.val ++ rightPadToMultipleOf16 plaintext) := by
  apply List.ext_getElem
  · simp [cipherInputs]
  · intro i hi hi'
    simp [cipherInputs]

theorem ciphers_cipherInputs (nonce : FixedBytes 13) (macTag : FixedBytes M)
    (plaintext : List UInt8) :
    Ciphers nonce macTag plaintext (cipherInputs nonce macTag plaintext) := by
  intro aes key
  rw [← mapIdx_cipherInputs]
  -- the call returns, so it has a first block, and the others are long enough
  have hreturns := encryptDecrypt_eq aes key nonce macTag plaintext
  unfold encryptDecrypt at hreturns ⊢
  dsimp only at hreturns ⊢
  split at hreturns
  · cases hreturns
  · rename_i first rest hblocks
    split at hreturns
    · rename_i hlong
      refine ⟨first, rest, hblocks, ?_⟩
      exact if_pos hlong
    · cases hreturns

/-- The number of a block is that of a padded block of a payload, so two bytes hold it. -/
theorem getElem?_cipherInputs {nonce : FixedBytes 13} {macTag : FixedBytes M}
    {plaintext : List UInt8} (hlen : plaintext.length ≤ 65535) {i : Nat} {block : Block}
    (h : (cipherInputs nonce macTag plaintext)[i]? = some block) :
    i < 256 ^ 2 ∧ block = counterBlock nonce i := by
  rw [cipherInputs, List.getElem?_mapIdx, Option.map_eq_some_iff] at h
  obtain ⟨padded, hpadded, rfl⟩ := h
  obtain ⟨hi, -⟩ := List.getElem?_eq_some_iff.mp hpadded
  rw [List.length_append, rightPadToMultipleOf16_eq, rightPadToMultipleOf16_eq, paddedBlocks_tag,
    List.length_singleton, length_paddedBlocks] at hi
  exact ⟨by omega, rfl⟩

theorem counterBlock_inj {nonce nonce' : FixedBytes 13} {i j : Nat} (hi : i < 256 ^ 2)
    (hj : j < 256 ^ 2) (h : counterBlock nonce i = counterBlock nonce' j) :
    nonce = nonce' ∧ i = j := by
  rw [counterBlock_eq, counterBlock_eq] at h
  exact Ccm.a_inj hi hj h

theorem counterBlock_ne_b0 (nonce nonce' : FixedBytes 13) (i : Nat) (plaintext : List UInt8) :
    counterBlock nonce i ≠ b0 nonce' plaintext := by
  rw [counterBlock_eq, b0_eq (List.cons_ne_nil 0 [])]
  exact Ccm.a_ne_b0 (p := nwkCcm) nonce' i _ plaintext

end NwkCrypto

namespace NwkFrame

/-- The blocks that `encrypt` and `decrypt` have `encrypt_decrypt` give to the cipher. -/
def cipherInputs (frame : NwkFrame) (macTag : FixedBytes NwkCrypto.M) (text : List UInt8) :
    Outcome String (List Block) := do
  let auxHeader ← frame.getModifiedAuxHeader .encMic32
  let nonce ← frame.getNonce auxHeader
  .ok (NwkCrypto.cipherInputs nonce macTag text)

theorem cipherInputs_eq {frame : NwkFrame} {auxHeader : NwkAuxHeader} {source : Eui64}
    (haux : frame.auxHeader = some auxHeader) (hsource : frame.nonceSource auxHeader = some source)
    (macTag : FixedBytes NwkCrypto.M) (text : List UInt8) :
    frame.cipherInputs macTag text =
      .ok (NwkCrypto.cipherInputs (nonceOf source auxHeader.withLevel5) macTag text) := by
  rw [cipherInputs, getModifiedAuxHeader_eq haux, Outcome.ok_bind, getNonce_eq hsource,
    Outcome.ok_bind]

/-- `encrypt` and `decrypt` have `encrypt_decrypt` map these blocks. -/
def Ciphers (frame : NwkFrame) (macTag : FixedBytes NwkCrypto.M) (text : List UInt8)
    (inputs : List Block) : Prop :=
  ∃ auxHeader nonce, frame.getModifiedAuxHeader .encMic32 = .ok auxHeader ∧
    frame.getNonce auxHeader = .ok nonce ∧ NwkCrypto.Ciphers nonce macTag text inputs

theorem ciphers_of_cipherInputs {frame : NwkFrame} {macTag : FixedBytes NwkCrypto.M}
    {text : List UInt8} {inputs : List Block} (h : frame.cipherInputs macTag text = .ok inputs) :
    frame.Ciphers macTag text inputs := by
  obtain ⟨auxHeader, haux, h⟩ := Outcome.bind_eq_ok.mp h
  obtain ⟨nonce, hnonce, h⟩ := Outcome.bind_eq_ok.mp h
  cases h
  exact ⟨auxHeader, nonce, haux, hnonce, NwkCrypto.ciphers_cipherInputs nonce macTag text⟩

/-- The first block that `compute_mac` chains is its `b0`. -/
theorem head?_macInput {frame : NwkFrame} {plaintext : List UInt8} {blocks : List Block}
    (h : frame.macInput plaintext = .ok blocks) :
    ∃ nonce, blocks.head? = some (NwkCrypto.b0 nonce plaintext) := by
  obtain ⟨auxHeader, -, h⟩ := Outcome.bind_eq_ok.mp h
  obtain ⟨nonce, -, h⟩ := Outcome.bind_eq_ok.mp h
  obtain ⟨header, -, h⟩ := Outcome.bind_eq_ok.mp h
  cases h
  exact ⟨nonce, rfl⟩

/-- A nonce determines the source address, the frame counter and the security control. -/
theorem nonceOf_inj {source source' : Eui64} {auxHeader auxHeader' : NwkAuxHeader}
    (h : nonceOf source auxHeader = nonceOf source' auxHeader') :
    source = source' ∧ auxHeader.frameCounter = auxHeader'.frameCounter ∧
      auxHeader.securityControl.toBytes = auxHeader'.securityControl.toBytes := by
  have hbytes : source.toBytes ++ u32ToLeBytes auxHeader.frameCounter ++
      auxHeader.securityControl.toBytes = source'.toBytes ++ u32ToLeBytes auxHeader'.frameCounter ++
        auxHeader'.securityControl.toBytes := congrArg Subtype.val h
  obtain ⟨hfront, hcontrol⟩ := List.append_inj' hbytes rfl
  obtain ⟨hsource, hcounter⟩ := List.append_inj' hfront (by simp only [length_u32ToLeBytes])
  have hsourceBytes : source.toBytes ++ [] = source'.toBytes ++ [] := by rw [hsource]
  exact ⟨(Eui64.codec.encode_inj trivial trivial hsourceBytes).1, u32ToLeBytes_inj hcounter,
    hcontrol⟩

/-- Two frames with a source address for their nonces, whatever their tags, and whatever
    payloads that the length field of CCM holds: a block given to the cipher for both has one
    number in both, and the frames have one source address, frame counter and security
    control. It is never the first block of the authentication of a frame. These blocks are what
    `encrypt_decrypt` has the cipher map. -/
theorem cipherInputs_distinct {frame frame' : NwkFrame} {auxHeader auxHeader' : NwkAuxHeader}
    {source source' : Eui64} (haux : frame.auxHeader = some auxHeader)
    (haux' : frame'.auxHeader = some auxHeader')
    (hsource : frame.nonceSource auxHeader = some source)
    (hsource' : frame'.nonceSource auxHeader' = some source')
    (macTag macTag' : FixedBytes NwkCrypto.M) {text text' : List UInt8}
    (hlen : text.length ≤ 65535) (hlen' : text'.length ≤ 65535) :
    ∃ inputs inputs' : List Block, frame.cipherInputs macTag text = .ok inputs ∧
      frame'.cipherInputs macTag' text' = .ok inputs' ∧
      (∀ (i j : Nat) (block : Block), inputs[i]? = some block → inputs'[j]? = some block →
        i = j ∧ source = source' ∧ auxHeader.frameCounter = auxHeader'.frameCounter ∧
          auxHeader.withLevel5.securityControl.toBytes =
            auxHeader'.withLevel5.securityControl.toBytes) ∧
      (∀ (i : Nat) (block : Block), inputs[i]? = some block →
        ∀ (authenticated : NwkFrame) plaintext blocks,
          authenticated.macInput plaintext = .ok blocks → blocks.head? ≠ some block) ∧
      frame.Ciphers macTag text inputs ∧ frame'.Ciphers macTag' text' inputs' := by
  have hinputs := cipherInputs_eq haux hsource macTag text
  have hinputs' := cipherInputs_eq haux' hsource' macTag' text'
  refine ⟨_, _, hinputs, hinputs', ?_, ?_, ciphers_of_cipherInputs hinputs,
    ciphers_of_cipherInputs hinputs'⟩
  · intro i j block hblock hblock'
    obtain ⟨hi, heq⟩ := NwkCrypto.getElem?_cipherInputs hlen hblock
    obtain ⟨hj, heq'⟩ := NwkCrypto.getElem?_cipherInputs hlen' hblock'
    obtain ⟨hnonce, hindex⟩ := NwkCrypto.counterBlock_inj hi hj (heq.symm.trans heq')
    exact ⟨hindex, nonceOf_inj hnonce⟩
  · intro i block hblock authenticated plaintext blocks hblocks hhead
    obtain ⟨-, heq⟩ := NwkCrypto.getElem?_cipherInputs hlen hblock
    obtain ⟨nonce, hb0⟩ := head?_macInput hblocks
    rw [hb0, Option.some.injEq, heq] at hhead
    exact NwkCrypto.counterBlock_ne_b0 _ nonce i plaintext hhead.symm

/-- The auxiliary header of the next frame that the node of `test_source_route` sends. -/
def sourceRouteNextAux : NwkAuxHeader :=
  { sourceRouteAux with frameCounter := sourceRouteAux.frameCounter + 1 }

/-- This frame, with the same payload. -/
def sourceRouteNext : NwkFrame := { sourceRoutePlain with auxHeader := some sourceRouteNextAux }

/-- The two share no block. -/
theorem cipherInputs_distinct_sourceRoute :
    ∃ inputs inputs' : List Block,
      sourceRoutePlain.cipherInputs (NwkCrypto.takeTag Block.zero) sourceRoutePlain.payload =
        .ok inputs ∧
      sourceRouteNext.cipherInputs (NwkCrypto.takeTag Block.zero) sourceRouteNext.payload =
        .ok inputs' ∧
      ∀ block ∈ inputs, block ∉ inputs' := by
  have haux : sourceRoutePlain.auxHeader = some sourceRouteAux := rfl
  have haux' : sourceRouteNext.auxHeader = some sourceRouteNextAux := rfl
  have hlen : sourceRoutePlain.payload.length ≤ 65535 := by decide
  have hlen' : sourceRouteNext.payload.length ≤ 65535 := by decide
  obtain ⟨inputs, inputs', hinputs, hinputs', hdistinct, -⟩ :=
    cipherInputs_distinct haux haux' rfl rfl (NwkCrypto.takeTag Block.zero)
      (NwkCrypto.takeTag Block.zero) hlen hlen'
  refine ⟨inputs, inputs', hinputs, hinputs', ?_⟩
  intro block hblock hblock'
  obtain ⟨i, hi⟩ := List.mem_iff_getElem?.mp hblock
  obtain ⟨j, hj⟩ := List.mem_iff_getElem?.mp hblock'
  obtain ⟨-, -, hcounter, -⟩ := hdistinct i j block hi hj
  exact absurd hcounter (by decide)

end NwkFrame

end ZigpySpinel.Zigbee
