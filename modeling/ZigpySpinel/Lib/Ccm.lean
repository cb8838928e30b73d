import ZigpySpinel.Lib.Block

/-!
# Counter mode with CBC-MAC

Authenticated encryption over any block function, written from its definition. The first
block `B_0` holds the nonce and the length of the message; it is followed by the additional
data with its length in front, and by the message, both filled up with zeros. The tag is
the first bytes of the last chained block. Message and tag are then encrypted with the
blocks that the counter blocks `A_i` are mapped to: the tag with that of `A_0`.
-/

namespace ZigpySpinel.Lib.Ccm

/-- The length of the tag and the length of the length field. -/
structure Params where
  M : Nat
  L : Nat
  two_le_L : 2 ≤ L
  L_le : L ≤ 8
  four_le_M : 4 ≤ M
  M_le : M ≤ 16
  M_even : M % 2 = 0

variable (p : Params) (encrypt : Block → Block) (nonce : FixedBytes (15 - p.L))

/-- The first block: flags, nonce, length of the message. -/
def b0 (additional message : List UInt8) : Block :=
  ⟨[UInt8.ofNat ((if additional = [] then 0 else 64) + 8 * ((p.M - 2) / 2) + (p.L - 1))] ++
      nonce.val ++ beBytes p.L message.length, by
    have hL := p.L_le
    simp only [List.length_append, List.length_cons, List.length_nil, nonce.property,
      length_beBytes]
    omega⟩

/-- The encoding of the length of the additional data. -/
def lengthPrefix (n : Nat) : List UInt8 :=
  if n = 0 then []
  else if n < 0xFF00 then beBytes 2 n
  else if n < 0x100000000 then [0xFF, 0xFE] ++ beBytes 4 n
  else [0xFF, 0xFF] ++ beBytes 8 n

/-- The blocks that are authenticated. -/
def authBlocks (additional message : List UInt8) : List Block :=
  b0 p nonce additional message ::
    (paddedBlocks (lengthPrefix additional.length ++ additional) ++ paddedBlocks message)

/-- Cipher block chaining: the last block of the chain over a nonempty list. -/
def cbcMac : List Block → Block
  | [] => .zero
  | first :: rest => rest.foldl (fun x b => encrypt (x.xor b)) (encrypt first)

/-- The tag before it is encrypted. -/
def tag (additional message : List UInt8) : List UInt8 :=
  (cbcMac encrypt (authBlocks p nonce additional message)).val.take p.M

theorem length_tag (additional message : List UInt8) :
    (tag p encrypt nonce additional message).length = p.M := by
  rw [tag, List.length_take, (cbcMac _ _).property]
  exact Nat.min_eq_left p.M_le

/-- The counter block with the given index. -/
def a (i : Nat) : Block :=
  ⟨[UInt8.ofNat (p.L - 1)] ++ nonce.val ++ beBytes p.L i, by
    have hL := p.L_le
    simp only [List.length_append, List.length_cons, List.length_nil, nonce.property,
      length_beBytes]
    omega⟩

/-- The first `n` blocks of key stream for the message. -/
def keyStream (n : Nat) : List UInt8 :=
  (List.range n).flatMap fun i => (encrypt (a p nonce (i + 1))).val

/-- The encrypted message followed by the encrypted tag. -/
def authEncrypt (additional message : List UInt8) : List UInt8 :=
  xorBytes message (keyStream p encrypt nonce ((message.length + 15) / 16)) ++
    xorBytes (tag p encrypt nonce additional message) ((encrypt (a p nonce 0)).val.take p.M)

/-! ## Undoing the encryption -/

theorem length_keyStream (n : Nat) : (keyStream p encrypt nonce n).length = 16 * n := by
  induction n with
  | zero => rfl
  | succ n ih =>
    rw [keyStream, List.range_succ, List.flatMap_append, List.length_append]
    change (keyStream p encrypt nonce n).length + _ = _
    rw [ih, List.flatMap_singleton, (encrypt _).property]
    omega

theorem length_mask : ((encrypt (a p nonce 0)).val.take p.M).length = p.M := by
  rw [List.length_take, (encrypt _).property]
  exact Nat.min_eq_left p.M_le

theorem length_authEncrypt (additional message : List UInt8) :
    (authEncrypt p encrypt nonce additional message).length = message.length + p.M := by
  rw [authEncrypt, List.length_append, length_xorBytes, length_xorBytes, length_keyStream,
    length_tag, length_mask]
  omega

/-- A message is encrypted to a text and a tag, exactly if the key stream takes the text to the
    message and the tag to that of the message. -/
theorem authEncrypt_eq_iff (additional message text : List UInt8) {mac : List UInt8}
    (hmac : mac.length = p.M) :
    authEncrypt p encrypt nonce additional message = text ++ mac ↔
      message = xorBytes text (keyStream p encrypt nonce ((text.length + 15) / 16)) ∧
        tag p encrypt nonce additional message =
          xorBytes mac ((encrypt (a p nonce 0)).val.take p.M) := by
  have hlong : ∀ bytes : List UInt8,
      bytes.length ≤ (keyStream p encrypt nonce ((bytes.length + 15) / 16)).length := by
    intro bytes
    rw [length_keyStream]
    omega
  have hmask := length_mask p encrypt nonce
  have htag := length_tag p encrypt nonce additional message
  rw [authEncrypt]
  constructor
  · intro h
    have hmasked : (xorBytes (tag p encrypt nonce additional message)
        ((encrypt (a p nonce 0)).val.take p.M)).length = mac.length := by
      rw [length_xorBytes, htag, hmask, hmac, Nat.min_self]
    obtain ⟨htext, hmac'⟩ := List.append_inj' h hmasked
    have hlen : text.length = message.length := by
      rw [← htext, length_xorBytes]
      exact Nat.min_eq_left (hlong message)
    rw [hlen, ← htext, ← hmac']
    refine ⟨(xorBytes_xorBytes (hlong message)).symm, (xorBytes_xorBytes ?_).symm⟩
    rw [htag, hmask]
  · rintro ⟨hmessage, htagMac⟩
    have hlen : message.length = text.length := by
      rw [hmessage, length_xorBytes]
      exact Nat.min_eq_left (hlong text)
    rw [htagMac, hlen, xorBytes_xorBytes (by rw [hmac, hmask])]
    congr 1
    rw [hmessage]
    exact xorBytes_xorBytes (hlong text)

/-! ## The inputs of the block function -/

variable {p nonce}

/-- A counter block determines its nonce, and its index as far as the index fits. -/
theorem a_inj {nonce' : FixedBytes (15 - p.L)} {i j : Nat} (hi : i < 256 ^ p.L)
    (hj : j < 256 ^ p.L) (h : a p nonce i = a p nonce' j) : nonce = nonce' ∧ i = j := by
  have hbytes : ([UInt8.ofNat (p.L - 1)] ++ nonce.val) ++ beBytes p.L i =
      ([UInt8.ofNat (p.L - 1)] ++ nonce'.val) ++ beBytes p.L j := congrArg Subtype.val h
  obtain ⟨hnonce, hindex⟩ := List.append_inj' hbytes (by simp only [length_beBytes])
  have hmod := mod_of_beBytes hindex
  rw [Nat.mod_eq_of_lt hi, Nat.mod_eq_of_lt hj] at hmod
  exact ⟨Subtype.ext (List.append_cancel_left hnonce), hmod⟩

/-- The flags of a counter block have nothing but the length of the length field in them, and
    those of a first block the length of the tag as well. -/
theorem a_ne_b0 (nonce' : FixedBytes (15 - p.L)) (i : Nat) (additional message : List UInt8) :
    a p nonce i ≠ b0 p nonce' additional message := by
  intro h
  have hflags := congrArg (fun block : Block => block.val.head?) h
  simp only [a, b0, List.cons_append, List.head?_cons, Option.some.injEq] at hflags
  have hM := p.four_le_M
  have hM' := p.M_le
  have hL := p.two_le_L
  have hL' := p.L_le
  have htoNat := congrArg UInt8.toNat hflags
  rw [UInt8.toNat_ofNat', UInt8.toNat_ofNat'] at htoNat
  split at htoNat <;> omega

end ZigpySpinel.Lib.Ccm
