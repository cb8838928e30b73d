import ZigpySpinel.Lib.Block
import ZigpySpinel.Zigbee.Nwk

/-!
# Encryption of network frames (`zigbee_nwk.rs:430-680`)

`NwkCrypto` with its two operations, and `encrypt` and `decrypt` of a frame. The cipher is
a parameter: any block function with a key, together with the chaining mode over it. Every
slice and every index that can be out of range is a panic.
-/

namespace ZigpySpinel.Zigbee
open Lib

/-- The two cipher crates: `encrypt_block` of `aes::Aes128` and `encrypt_blocks` of
    `cbc::Encryptor`, which chains the blocks from an initial one. -/
structure Aes128 where
  encryptBlock : Key → Block → Block
  encryptBlocks : Key → Block → List Block → List Block
  encryptBlocks_eq : ∀ key iv blocks,
    encryptBlocks key iv blocks = cbcChain (encryptBlock key) iv blocks

/-- The chaining mode over any block function. -/
def Aes128.ofBlockFunction (encryptBlock : Key → Block → Block) : Aes128 where
  encryptBlock := encryptBlock
  encryptBlocks := fun key iv blocks => cbcChain (encryptBlock key) iv blocks
  encryptBlocks_eq := fun _ _ _ => rfl

/-! ## Cutting into blocks -/

/-- `data.chunks_exact(16)`, of which there are `n` in the data. -/
def chunksExact : (n : Nat) → (data : List UInt8) → 16 * n ≤ data.length → List Block
  | 0, _, _ => []
  | n + 1, data, h =>
    ⟨data.take 16, by rw [List.length_take]; omega⟩ ::
      chunksExact n (data.drop 16) (by rw [List.length_drop]; omega)

/-- `right_pad_to_multiple_of_16` (`zigbee_nwk.rs:430-450`). -/
def rightPadToMultipleOf16 (data : List UInt8) : List Block :=
  let blocks := chunksExact (data.length / 16) data (Nat.mul_div_le data.length 16)
  let remainder := data.length % 16
  if remainder ≠ 0 then
    let offset := data.length - remainder
    -- the default block with its first bytes overwritten
    let lastBlock : Block :=
      ⟨data.drop offset ++ List.replicate (16 - remainder) 0, by
        simp only [List.length_append, List.length_drop, List.length_replicate]
        omega⟩
    blocks ++ [lastBlock]
  else blocks

/-! ## The two operations -/

namespace NwkCrypto

/-- The length of the length field, `L` of `NwkCrypto<2, 4>`. -/
abbrev L : Nat := 2

/-- The length of the tag, `M` of `NwkCrypto<2, 4>`. -/
abbrev M : Nat := 4

/-- `bytes[bytes.len() - L..]` of the big-endian bytes of a `usize`. -/
def lowBytes (n : Nat) : List UInt8 := (usizeToBeBytes n).drop (8 - L)

theorem length_lowBytes (n : Nat) : (lowBytes n).length = L := by
  rw [lowBytes, List.length_drop, length_usizeToBeBytes]
  rfl

/-- `split_mac_tag` (`zigbee_nwk.rs:455-462`). -/
def splitMacTag (taggedCiphertext : List UInt8) :
    Outcome String (List UInt8 × FixedBytes M) :=
  if h : M ≤ taggedCiphertext.length then
    .ok (taggedCiphertext.take (taggedCiphertext.length - M),
      ⟨taggedCiphertext.drop (taggedCiphertext.length - M), by
        rw [List.length_drop]
        omega⟩)
  else .panic "attempt to subtract with overflow"

/-- `block[..M]` -/
def takeTag (block : Block) : FixedBytes M :=
  ⟨block.val.take M, by rw [List.length_take, block.property]; rfl⟩

/-- The first block of the authentication (`zigbee_nwk.rs:481-485`). -/
def b0 (nonce : FixedBytes 13) (plaintext : List UInt8) : Block :=
  ⟨[0b01001001] ++ nonce.val ++ lowBytes plaintext.length, by
    simp only [List.length_append, nonce.property, length_lowBytes]
    rfl⟩

/-- The blocks that `compute_mac` chains (`zigbee_nwk.rs:472-493`). -/
def macBlocks (authData : List UInt8) (plaintext : List UInt8) (nonce : FixedBytes 13) :
    List Block :=
  let addedAuthData := lowBytes authData.length ++ authData
  let authedPlaintext := rightPadToMultipleOf16 addedAuthData ++ rightPadToMultipleOf16 plaintext
  b0 nonce plaintext :: authedPlaintext

/-- `compute_mac` (`zigbee_nwk.rs:464-503`). -/
def computeMac (aes : Aes128) (frame : NwkFrame) (key : Key) (plaintext : List UInt8)
    (auxHeader : NwkAuxHeader) (nonce : FixedBytes 13) : Outcome String (FixedBytes M) := do
  let header ← frame.nwkHeader.toBytes
  let authData := header ++ auxHeader.toBytes
  let ciphertextBuffer := aes.encryptBlocks key Block.zero (macBlocks authData plaintext nonce)
  match ciphertextBuffer.getLast? with
  | some last => .ok (takeTag last)
  | none => .panic "attempt to subtract with overflow"

/-- The counter block of a block number (`zigbee_nwk.rs:521-525`). -/
def counterBlock (nonce : FixedBytes 13) (blockNum : Nat) : Block :=
  ⟨[0b00000001] ++ nonce.val ++ lowBytes blockNum, by
    simp only [List.length_append, nonce.property, length_lowBytes]
    rfl⟩

/-- `encrypt_decrypt` (`zigbee_nwk.rs:505-542`). -/
def encryptDecrypt (aes : Aes128) (key : Key) (nonce : FixedBytes 13) (macTag : FixedBytes M)
    (plaintext : List UInt8) : Outcome String (FixedBytes M × List UInt8) :=
  let taggedPlaintextBlocks :=
    rightPadToMultipleOf16 macTag.val ++ rightPadToMultipleOf16 plaintext
  let taggedCiphertextBlocks := taggedPlaintextBlocks.mapIdx fun blockNum plaintextBlock =>
    (aes.encryptBlock key (counterBlock nonce blockNum)).xor plaintextBlock
  match taggedCiphertextBlocks with
  | [] => .panic "index out of bounds"
  | first :: rest =>
    let encryptedMacTag := takeTag first
    let ciphertextVec := blockBytes rest
    if plaintext.length ≤ ciphertextVec.length then
      .ok (encryptedMacTag, ciphertextVec.take plaintext.length)
    else .panic "range end index out of range for slice"

end NwkCrypto

/-! ## Frames -/

namespace NwkFrame

/-- `get_modified_aux_header` (`zigbee_nwk.rs:593-602`). -/
def getModifiedAuxHeader (frame : NwkFrame) (nibSecurityLevel : NwkSecurityLevel) :
    Outcome String NwkAuxHeader :=
  match frame.auxHeader with
  | none => .panic "Auxiliary header is missing"
  | some auxHeader =>
    .ok { auxHeader with
      securityControl := { auxHeader.securityControl with securityLevel := nibSecurityLevel } }

/-- The address that `get_nonce` takes (`zigbee_nwk.rs:605-614`). -/
def nonceSource (frame : NwkFrame) (auxHeader : NwkAuxHeader) : Option Eui64 :=
  match auxHeader.extendedSource with
  | some source => some source
  | none => frame.nwkHeader.sourceIeee

/-- The nonce with a source address (`zigbee_nwk.rs:616-619`). -/
def nonceOf (source : Eui64) (auxHeader : NwkAuxHeader) : FixedBytes 13 :=
  ⟨source.toBytes ++ u32ToLeBytes auxHeader.frameCounter ++ auxHeader.securityControl.toBytes, by
    simp only [List.length_append, Eui64.length_toBytes, length_u32ToLeBytes]
    rfl⟩

/-- `get_nonce` (`zigbee_nwk.rs:604-622`). -/
def getNonce (frame : NwkFrame) (auxHeader : NwkAuxHeader) : Outcome String (FixedBytes 13) :=
  match frame.nonceSource auxHeader with
  | some source => .ok (nonceOf source auxHeader)
  | none => .panic "Cannot compute nonce with no source address"

/-- `decrypt` (`zigbee_nwk.rs:630-654`). -/
def decrypt (aes : Aes128) (frame : NwkFrame) (key : Key) : Outcome String NwkFrame :=
  if !frame.encrypted then .err "Cannot decrypt unencrypted frame"
  else do
    let auxHeader ← frame.getModifiedAuxHeader .encMic32
    let nonce ← frame.getNonce auxHeader
    let (ciphertext, encryptedMacTag) ← NwkCrypto.splitMacTag frame.payload
    let (providedMacTag, plaintext) ←
      NwkCrypto.encryptDecrypt aes key nonce encryptedMacTag ciphertext
    let macTag ← NwkCrypto.computeMac aes frame key plaintext auxHeader nonce
    if providedMacTag ≠ macTag then .err "Decryption failed, invalid MAC tag"
    else .ok {
      nwkHeader := frame.nwkHeader
      auxHeader := frame.auxHeader
      payload := plaintext
      encrypted := false }

/-- `encrypt` (`zigbee_nwk.rs:656-680`). -/
def encrypt (aes : Aes128) (frame : NwkFrame) (key : Key) : Outcome String NwkFrame :=
  if frame.encrypted then .err "Cannot encrypt already encrypted frame"
  else do
    let auxHeader ← frame.getModifiedAuxHeader .encMic32
    let nonce ← frame.getNonce auxHeader
    let plaintext := frame.payload
    let macTag ← NwkCrypto.computeMac aes frame key plaintext auxHeader nonce
    let (encryptedMacTag, ciphertext) ←
      NwkCrypto.encryptDecrypt aes key nonce macTag plaintext
    let payload := ciphertext ++ encryptedMacTag.val
    .ok {
      nwkHeader := frame.nwkHeader
      auxHeader := frame.auxHeader
      payload := payload
      encrypted := true }

end NwkFrame

end ZigpySpinel.Zigbee
