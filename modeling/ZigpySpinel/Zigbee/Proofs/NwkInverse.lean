import ZigpySpinel.Zigbee.NwkCrypto
import ZigpySpinel.Zigbee.Proofs.NwkCodec

/-!
# Encryption and decryption undo each other

`encrypt_decrypt` is an exclusive or of tag and text with one key stream, whatever the
length of the text, so applying it twice changes nothing. The tag is computed over the
same header bytes on both sides.
-/

namespace ZigpySpinel.Zigbee
open Lib

/-! ## Cutting into blocks -/

theorem blockBytes_chunksExact (n : Nat) (data : List UInt8) (h : 16 * n ≤ data.length) :
    blockBytes (chunksExact n data h) = data.take (16 * n) := by
  induction n generalizing data with
  | zero => rfl
  | succ n ih =>
    have hsplit : 16 * (n + 1) = 16 + 16 * n := by omega
    rw [chunksExact, blockBytes_cons, ih, hsplit, List.take_add]

/-- The blocks of the source are the zero-padded blocks of the data. -/
theorem rightPadToMultipleOf16_eq (data : List UInt8) :
    rightPadToMultipleOf16 data = paddedBlocks data := by
  apply blockBytes_inj
  rw [blockBytes_paddedBlocks]
  unfold rightPadToMultipleOf16
  by_cases hremainder : data.length % 16 = 0
  · -- whole blocks only
    have hall : data.length ≤ 16 * (data.length / 16) := by omega
    have hnone : 16 * ((data.length + 15) / 16) - data.length = 0 := by omega
    simp only [hremainder, ne_eq, not_true_eq_false, if_false]
    rw [blockBytes_chunksExact, List.take_of_length_le hall, hnone, List.replicate_zero,
      List.append_nil]
  · -- the last block holds the remainder and zeros
    have hoffset : data.length - data.length % 16 = 16 * (data.length / 16) := by omega
    have hcount : 16 - data.length % 16 = 16 * ((data.length + 15) / 16) - data.length := by omega
    simp only [hremainder, ne_eq, not_false_eq_true, if_true, blockBytes_append, blockBytes_cons,
      blockBytes_nil, List.append_nil]
    rw [blockBytes_chunksExact, hoffset, hcount, ← List.append_assoc, List.take_append_drop]

namespace NwkCrypto

/-! ## The exclusive or with the key stream -/

variable (aes : Aes128) (key : Key) (nonce : FixedBytes 13)

/-- The blocks that the counter blocks from 1 on are mapped to. -/
def keyStreamBlocks (n : Nat) : List Block :=
  (List.range n).map fun i => aes.encryptBlock key (counterBlock nonce (i + 1))

/-- The key stream for a text of the given length. -/
def keyStream (len : Nat) : List UInt8 :=
  blockBytes (keyStreamBlocks aes key nonce ((len + 15) / 16))

/-- The tag with the block of counter 0 over it. -/
def maskTag (tag : FixedBytes M) : FixedBytes M :=
  ⟨xorBytes tag.val (takeTag (aes.encryptBlock key (counterBlock nonce 0))).val, by
    rw [length_xorBytes, tag.property, (takeTag _).property]
    rfl⟩

theorem le_length_keyStream (len : Nat) : len ≤ (keyStream aes key nonce len).length := by
  rw [keyStream, length_blockBytes, keyStreamBlocks, List.length_map, List.length_range]
  omega

theorem mapIdx_counterBlock (blocks : List Block) :
    (blocks.mapIdx fun i block => (aes.encryptBlock key (counterBlock nonce (i + 1))).xor block) =
      List.zipWith Block.xor (keyStreamBlocks aes key nonce blocks.length) blocks := by
  apply List.ext_getElem
  · simp [keyStreamBlocks]
  · intro i hi hi'
    simp [keyStreamBlocks]

/-- A tag fills part of one block. -/
theorem paddedBlocks_tag (tag : FixedBytes M) : paddedBlocks tag.val = [firstBlock tag.val] := by
  rw [paddedBlocks, tag.property]
  rfl

theorem takeTag_xor (tag : FixedBytes M) :
    takeTag ((aes.encryptBlock key (counterBlock nonce 0)).xor (firstBlock tag.val)) =
      maskTag aes key nonce tag := by
  apply Subtype.ext
  have htag : (firstBlock tag.val).val.take M = tag.val := by
    show (tag.val.take 16 ++ List.replicate (16 - tag.val.length) 0).take M = tag.val
    have hshort : tag.val.take 16 = tag.val :=
      List.take_of_length_le (by rw [tag.property]; decide)
    rw [hshort, List.take_append_of_le_length (Nat.le_of_eq tag.property.symm),
      List.take_of_length_le (Nat.le_of_eq tag.property)]
  show (xorBytes _ (firstBlock tag.val).val).take M = xorBytes tag.val _
  rw [take_xorBytes, htag, xorBytes_comm]
  rfl

/-- What `encrypt_decrypt` computes, for a text of any length. -/
theorem encryptDecrypt_eq (tag : FixedBytes M) (text : List UInt8) :
    encryptDecrypt aes key nonce tag text =
      .ok (maskTag aes key nonce tag, xorBytes text (keyStream aes key nonce text.length)) := by
  unfold encryptDecrypt
  simp only [rightPadToMultipleOf16_eq, paddedBlocks_tag, List.singleton_append, List.mapIdx_cons,
    mapIdx_counterBlock, length_paddedBlocks, blockBytes_zipWith_xor, blockBytes_paddedBlocks,
    takeTag_xor]
  have hstream := le_length_keyStream aes key nonce text.length
  rw [keyStream] at hstream
  have hlong : text.length ≤ (xorBytes
      (blockBytes (keyStreamBlocks aes key nonce ((text.length + 15) / 16)))
      (text ++ List.replicate (16 * ((text.length + 15) / 16) - text.length) 0)).length := by
    rw [length_xorBytes, List.length_append]
    omega
  rw [if_pos hlong, take_xorBytes, List.take_left, xorBytes_comm,
    xorBytes_take_right (Nat.le_refl _), keyStream]

theorem maskTag_maskTag (tag : FixedBytes M) :
    maskTag aes key nonce (maskTag aes key nonce tag) = tag := by
  apply Subtype.ext
  apply xorBytes_xorBytes
  rw [tag.property, (takeTag _).property]

/-- `encrypt_decrypt` undoes itself. -/
theorem encryptDecrypt_symm {tag tag' : FixedBytes M} {text text' : List UInt8}
    (h : encryptDecrypt aes key nonce tag text = .ok (tag', text')) :
    encryptDecrypt aes key nonce tag' text' = .ok (tag, text) := by
  rw [encryptDecrypt_eq] at h ⊢
  simp only [Outcome.ok.injEq, Prod.mk.injEq] at h
  rcases h with ⟨rfl, rfl⟩
  have hlen : (xorBytes text (keyStream aes key nonce text.length)).length = text.length := by
    rw [length_xorBytes]
    exact Nat.min_eq_left (le_length_keyStream aes key nonce text.length)
  rw [maskTag_maskTag, hlen, xorBytes_xorBytes (le_length_keyStream aes key nonce text.length)]

omit aes key nonce in
/-- Splitting off the tag undoes appending it. -/
theorem splitMacTag_append (ciphertext : List UInt8) (tag : FixedBytes M) :
    splitMacTag (ciphertext ++ tag.val) = .ok (ciphertext, tag) := by
  have hlen : (ciphertext ++ tag.val).length - M = ciphertext.length := by
    rw [List.length_append, tag.property, Nat.add_sub_cancel]
  have hle : M ≤ (ciphertext ++ tag.val).length := by
    rw [List.length_append, tag.property]
    exact Nat.le_add_left M _
  rw [splitMacTag, dif_pos hle]
  simp only [hlen, List.take_left, List.drop_left]

omit aes key nonce in
theorem splitMacTag_eq_ok {tagged ciphertext : List UInt8} {tag : FixedBytes M}
    (h : splitMacTag tagged = .ok (ciphertext, tag)) : tagged = ciphertext ++ tag.val := by
  unfold splitMacTag at h
  split at h
  · simp only [Outcome.ok.injEq, Prod.mk.injEq] at h
    rcases h with ⟨rfl, rfl⟩
    exact (List.take_append_drop _ tagged).symm
  · cases h

end NwkCrypto

/-! ## Frames -/

namespace NwkFrame

variable {aes : Aes128} {key : Key}

/-- What a successful `encrypt` did. -/
theorem encrypt_eq_ok {f g : NwkFrame} (h : f.encrypt aes key = .ok g) :
    f.encrypted = false ∧ ∃ aux nonce mac tag ciphertext,
      f.getModifiedAuxHeader .encMic32 = .ok aux ∧ f.getNonce aux = .ok nonce ∧
      NwkCrypto.computeMac aes f key f.payload aux nonce = .ok mac ∧
      NwkCrypto.encryptDecrypt aes key nonce mac f.payload = .ok (tag, ciphertext) ∧
      g = { f with payload := ciphertext ++ tag.val, encrypted := true } := by
  unfold encrypt at h
  cases hencrypted : f.encrypted with
  | true => simp [hencrypted] at h
  | false =>
    simp only [hencrypted, Bool.false_eq_true, if_false, Outcome.bind_eq_ok] at h
    rcases h with ⟨aux, haux, nonce, hnonce, mac, hmac, ⟨tag, ciphertext⟩, hcrypt, h⟩
    simp only [Outcome.ok.injEq] at h
    exact ⟨rfl, aux, nonce, mac, tag, ciphertext, haux, hnonce, hmac, hcrypt, h.symm⟩

/-- What a successful `decrypt` did. -/
theorem decrypt_eq_ok {f g : NwkFrame} (h : g.decrypt aes key = .ok f) :
    g.encrypted = true ∧ ∃ aux nonce ciphertext tag mac,
      g.getModifiedAuxHeader .encMic32 = .ok aux ∧ g.getNonce aux = .ok nonce ∧
      NwkCrypto.splitMacTag g.payload = .ok (ciphertext, tag) ∧
      NwkCrypto.encryptDecrypt aes key nonce tag ciphertext = .ok (mac, f.payload) ∧
      NwkCrypto.computeMac aes g key f.payload aux nonce = .ok mac ∧
      f = { g with payload := f.payload, encrypted := false } := by
  unfold decrypt at h
  cases hencrypted : g.encrypted with
  | false => simp [hencrypted] at h
  | true =>
    simp only [hencrypted, Bool.not_true, Bool.false_eq_true, if_false, Outcome.bind_eq_ok] at h
    obtain ⟨aux, haux, nonce, hnonce, ⟨ciphertext, tag⟩, hsplit, ⟨provided, plaintext⟩, hcrypt,
      mac, hmac, h⟩ := h
    by_cases hmatch : provided = mac
    · subst hmatch
      simp only [ne_eq, not_true_eq_false, if_false, Outcome.ok.injEq] at h
      subst h
      exact ⟨rfl, aux, nonce, ciphertext, tag, provided, haux, hnonce, hsplit, hcrypt, hmac, rfl⟩
    · simp [hmatch] at h

theorem decrypt_of_encrypt {f g : NwkFrame} (h : f.encrypt aes key = .ok g) :
    g.decrypt aes key = .ok f := by
  obtain ⟨hencrypted, aux, nonce, mac, tag, ciphertext, haux, hnonce, hmac, hcrypt, rfl⟩ :=
    encrypt_eq_ok h
  have hundo := NwkCrypto.encryptDecrypt_symm aes key nonce hcrypt
  -- only the headers enter the auxiliary header, the nonce and the tag
  have haux' : getModifiedAuxHeader
      { f with payload := ciphertext ++ tag.val, encrypted := true } .encMic32 = .ok aux := haux
  have hnonce' : getNonce
      { f with payload := ciphertext ++ tag.val, encrypted := true } aux = .ok nonce := hnonce
  have hmac' : NwkCrypto.computeMac aes
      { f with payload := ciphertext ++ tag.val, encrypted := true } key f.payload aux nonce =
        .ok mac := hmac
  simp only [decrypt, Bool.not_true, Bool.false_eq_true, if_false, haux', hnonce', hmac',
    NwkCrypto.splitMacTag_append, hundo, Outcome.ok_bind, ne_eq, not_true_eq_false]
  rcases f with ⟨header, auxHeader, payload, encrypted⟩
  cases hencrypted
  rfl

theorem encrypt_of_decrypt {f g : NwkFrame} (h : g.decrypt aes key = .ok f) :
    f.encrypt aes key = .ok g := by
  obtain ⟨hencrypted, aux, nonce, ciphertext, tag, mac, haux, hnonce, hsplit, hcrypt, hmac, hf⟩ :=
    decrypt_eq_ok h
  have hundo := NwkCrypto.encryptDecrypt_symm aes key nonce hcrypt
  have hpayload := NwkCrypto.splitMacTag_eq_ok hsplit
  rcases g with ⟨header, auxHeader, payload, encrypted⟩
  cases hencrypted
  generalize f.payload = plaintext at hcrypt hmac hf hundo
  subst hf
  have haux' : getModifiedAuxHeader
      { nwkHeader := header, auxHeader := auxHeader, payload := plaintext, encrypted := false }
        .encMic32 = .ok aux := haux
  have hnonce' : getNonce
      { nwkHeader := header, auxHeader := auxHeader, payload := plaintext, encrypted := false }
        aux = .ok nonce := hnonce
  have hmac' : NwkCrypto.computeMac aes
      { nwkHeader := header, auxHeader := auxHeader, payload := plaintext, encrypted := false }
        key plaintext aux nonce = .ok mac := hmac
  simp only [encrypt, Bool.false_eq_true, if_false, haux', hnonce', hmac', hundo, Outcome.ok_bind]
  rw [← hpayload]

/-- Encryption and decryption are inverse to each other, and `decrypt` accepts exactly the
    frames that `encrypt` makes from a frame with the same headers. -/
theorem encrypt_decrypt_inverse (aes : Aes128) (key : Key) :
    (∀ f g : NwkFrame, f.encrypt aes key = .ok g → g.decrypt aes key = .ok f) ∧
    (∀ f g : NwkFrame, g.decrypt aes key = .ok f → f.encrypt aes key = .ok g) ∧
    ∀ g : NwkFrame, (∃ f, g.decrypt aes key = .ok f) ↔
      ∃ f : NwkFrame, f.nwkHeader = g.nwkHeader ∧ f.auxHeader = g.auxHeader ∧
        f.encrypt aes key = .ok g := by
  refine ⟨fun f g => decrypt_of_encrypt, fun f g => encrypt_of_decrypt, ?_⟩
  intro g
  constructor
  · rintro ⟨f, hdecrypt⟩
    obtain ⟨-, _, _, _, _, _, -, -, -, -, -, hf⟩ := decrypt_eq_ok hdecrypt
    refine ⟨f, ?_, ?_, encrypt_of_decrypt hdecrypt⟩
    · rw [hf]
    · rw [hf]
  · rintro ⟨f, -, -, hencrypt⟩
    exact ⟨f, decrypt_of_encrypt hencrypt⟩

/-- The key of `test_source_route` (`zigbee_nwk.rs:805`). -/
def sourceRouteKey : Key where
  value := ⟨[0x31, 0x90, 0x8c, 0x7c, 0x51, 0xc2, 0xf0, 0x15,
    0x52, 0xbc, 0x90, 0xcc, 0x16, 0xe5, 0x44, 0x3d], rfl⟩

/-- The blocks that AES-128 is given in this test, with what it maps them to under the
    key of the test. -/
def sourceRouteBlocks : List (Block × Block) :=
  [ (⟨[0x01, 0x02, 0x3c, 0x71, 0x0c, 0x01, 0x88, 0x17,
        0x00, 0x7e, 0xa3, 0x00, 0x00, 0x2d, 0x00, 0x00], rfl⟩,
      ⟨[0x00, 0x45, 0xfc, 0x58, 0xcf, 0xf5, 0xfb, 0x85,
        0x24, 0x53, 0x56, 0x72, 0x5e, 0x04, 0xab, 0x91], rfl⟩),
    (⟨[0x01, 0x02, 0x3c, 0x71, 0x0c, 0x01, 0x88, 0x17,
        0x00, 0x7e, 0xa3, 0x00, 0x00, 0x2d, 0x00, 0x01], rfl⟩,
      ⟨[0x09, 0x72, 0xdd, 0x54, 0x6c, 0xc6, 0x8b, 0x9f,
        0x18, 0x19, 0x69, 0xd1, 0x09, 0x63, 0x0f, 0xfd], rfl⟩),
    (⟨[0x49, 0x02, 0x3c, 0x71, 0x0c, 0x01, 0x88, 0x17,
        0x00, 0x7e, 0xa3, 0x00, 0x00, 0x2d, 0x00, 0x08], rfl⟩,
      ⟨[0x4b, 0xbc, 0xc9, 0x09, 0x06, 0x51, 0x4b, 0x50,
        0x2c, 0x6e, 0xa0, 0x2d, 0x72, 0x6e, 0x1b, 0xae], rfl⟩),
    (⟨[0x4b, 0xa6, 0xc1, 0x0f, 0xe1, 0x6d, 0x7c, 0x0f,
        0x31, 0xa2, 0xa1, 0x2d, 0x4b, 0x97, 0x36, 0xd0], rfl⟩,
      ⟨[0xf4, 0xd5, 0x0f, 0xb5, 0xfe, 0x13, 0xdf, 0xeb,
        0xf2, 0xd8, 0x0a, 0x89, 0x79, 0x24, 0x29, 0x2b], rfl⟩),
    (⟨[0x57, 0xd5, 0x0f, 0xb7, 0xc2, 0x62, 0xd3, 0xea,
        0x7a, 0xcf, 0x0a, 0x89, 0x79, 0x24, 0x29, 0x2b], rfl⟩,
      ⟨[0x7d, 0xcb, 0xbe, 0x8b, 0x76, 0x8e, 0xa0, 0x4a,
        0xad, 0x9b, 0xc2, 0x26, 0xcb, 0xe2, 0x05, 0x5f], rfl⟩),
    (⟨[0x7f, 0xca, 0xb8, 0x8b, 0x72, 0x8f, 0xe0, 0x11,
        0xad, 0x9b, 0xc2, 0x26, 0xcb, 0xe2, 0x05, 0x5f], rfl⟩,
      ⟨[0x7c, 0xea, 0x7b, 0x5d, 0x6c, 0xe2, 0x08, 0xf5,
        0x82, 0x76, 0x3c, 0x83, 0x59, 0x5c, 0x2f, 0x46], rfl⟩) ]

/-- AES-128 on the blocks of this test. -/
def sourceRouteAes : Aes128 :=
  .ofBlockFunction fun _ block => (sourceRouteBlocks.lookup block).getD Block.zero

/-- The frame of this test, decrypted. -/
def sourceRoutePlain : NwkFrame :=
  { sourceRouteFrame with
    payload := [0x02, 0x01, 0x06, 0x00, 0x04, 0x01, 0x40, 0x5b]
    encrypted := false }

theorem encrypt_decrypt_inverse_sourceRoute :
    sourceRouteFrame.decrypt sourceRouteAes sourceRouteKey = .ok sourceRoutePlain ∧
    sourceRoutePlain.encrypt sourceRouteAes sourceRouteKey = .ok sourceRouteFrame := by
  have hencrypt : sourceRoutePlain.encrypt sourceRouteAes sourceRouteKey =
      .ok sourceRouteFrame := by decide +kernel
  have hinverse := encrypt_decrypt_inverse sourceRouteAes sourceRouteKey
  have hdecrypt := hinverse.1 sourceRoutePlain sourceRouteFrame hencrypt
  exact ⟨hdecrypt, hinverse.2.1 sourceRoutePlain sourceRouteFrame hdecrypt⟩

end NwkFrame

end ZigpySpinel.Zigbee
