import ZigpySpinel.Python.ZigbeeTypes
import ZigpySpinel.Zigbee.Proofs.NwkCcm

/-!
# The two packages encrypt network frames alike

A frame of the Rust package is a frame of the Python package, field by field. Both write the
same headers, so they authenticate the same bytes under the same nonce. The Python package
pads headers and payload once more together, which adds nothing, since the headers already
fill whole blocks; and its loop over the counter is the map over the blocks.
-/

namespace ZigpySpinel.Zigbee
open Lib

/-! ## Frames of one package as frames of the other -/

def NwkFrameType.toPython : NwkFrameType → Python.ZigbeeNwkFrameType
  | .data => .data
  | .command => .command
  | .interpan => .undefined0x03

def NwkRouteDiscovery.toPython : NwkRouteDiscovery → Python.ZigbeeNwkRouteDiscovery
  | .suppress => .suppress
  | .enable => .enable
  | .withMulticast => .withMulticast

/-- A bit field has the bits that the Rust package writes. -/
def NwkFrameControl.toPython (control : NwkFrameControl) : Python.ZigbeeNwkFrameControl where
  frameType := control.frameType.toPython
  protocolVersion := BitVec.ofNat 4 control.protocolVersion.toNat
  discoverRoute := control.discoverRoute.toPython
  multicast := control.multicast
  security := control.security
  sourceRoute := control.sourceRoute
  destination := control.destination
  extendedSource := control.extendedSource
  endDeviceInitiator := control.endDeviceInitiator
  reserved := BitVec.ofNat 2 control.reserved.toNat

def NwkHeader.toPython (header : NwkHeader) : Python.ZigbeeNwkHeader where
  frameControl := header.frameControl.toPython
  destination := header.destination
  source := header.source
  radius := header.radius
  sequenceNumber := header.sequenceNumber
  destinationIeee := header.destinationIeee
  sourceIeee := header.sourceIeee
  multicastControl := header.multicastControl
  sourceRouteRelayIndex := header.sourceRoute.map (·.relayIndex)
  sourceRoute := header.sourceRoute.map (·.relays)

def NwkSecurityHeaderKeyId.toPython : NwkSecurityHeaderKeyId → Python.ZigbeeNwkSecurityHeaderKeyId
  | .dataKey => .dataKey
  | .networkKey => .networkKey
  | .keyTransportKey => .keyTransportKey
  | .keyLoadKey => .keyLoadKey

def NwkSecurityLevel.toPython : NwkSecurityLevel → Python.ZigbeeNwkSecurityLevel
  | .noSecurity => .noSecurity
  | .mic32 => .aesCbcMac32
  | .mic64 => .aesCbcMac64
  | .mic128 => .aesCbcMac128
  | .enc => .aesCtr
  | .encMic32 => .aesCcm32
  | .encMic64 => .aesCcm64
  | .encMic128 => .aesCcm128

/-- The Python package counts the flag of a verified frame counter among the reserved bits. -/
def NwkSecurityHeaderControlField.toPython (control : NwkSecurityHeaderControlField) :
    Python.ZigbeeNwkSecurityHeaderControlField where
  securityLevel := control.securityLevel.toPython
  keyId := control.keyId.toPython
  extendedNonce := control.extendedSource
  reserved := BitVec.ofNat 2 (control.requireVerifiedFrameCounter.toNat + 2 * control.reserved.toNat)

def NwkAuxHeader.toPython (header : NwkAuxHeader) : Python.ZigbeeNwkAuxHeader where
  securityControl := header.securityControl.toPython
  frameCounter := header.frameCounter
  extendedSource := header.extendedSource
  keySequenceNumber := header.keySequenceNumber

/-- The fields of a frame. Whether it is encrypted is its class in the Python package. -/
def NwkFrame.toPython (frame : NwkFrame) : Python.ZigbeeNwkFrame where
  nwkHeader := frame.nwkHeader.toPython
  auxHeader := frame.auxHeader.map NwkAuxHeader.toPython
  payload := frame.payload

/-! ## Headers -/

/-- The low two bits of a byte, and the low four and the lowest one. -/
theorem exists_low_bits (x : UInt8) :
    (∃ i : Fin 4, x &&& 0b11 = UInt8.ofNat i ∧ BitVec.ofNat 2 x.toNat = BitVec.ofNat 2 i) ∧
    (∃ i : Fin 16, x &&& 0b1111 = UInt8.ofNat i ∧ BitVec.ofNat 4 x.toNat = BitVec.ofNat 4 i) ∧
    ∃ b : Bool, x &&& 0b1 = b.toUInt8 ∧ ∀ c : Bool,
      BitVec.ofNat 2 (c.toNat + 2 * x.toNat) = BitVec.ofNat 2 (c.toNat + 2 * b.toNat) := by
  have hbits : ∀ k, BitVec.ofNat k x.toNat = BitVec.ofNat k (x.toNat % 2 ^ k) := by
    intro k
    apply BitVec.eq_of_toNat_eq
    rw [BitVec.toNat_ofNat, BitVec.toNat_ofNat, Nat.mod_mod]
  have hlowest : (x.toNat.testBit 0).toNat = x.toNat % 2 := by rw [Nat.toNat_testBit, Nat.div_one]
  refine ⟨⟨⟨x.toNat % 4, Nat.mod_lt _ (by decide)⟩, and_low x (k := 2) rfl, hbits 2⟩,
    ⟨⟨x.toNat % 16, Nat.mod_lt _ (by decide)⟩, and_low x (k := 4) rfl, hbits 4⟩,
    x.toNat.testBit 0, ?_, fun c => ?_⟩
  · rw [and_low x (k := 1) rfl, Nat.pow_one, ← hlowest]
    cases x.toNat.testBit 0 with
    | true => rfl
    | false => rfl
  · apply BitVec.eq_of_toNat_eq
    rw [BitVec.toNat_ofNat, BitVec.toNat_ofNat, hlowest]
    omega

theorem serialize_byte0 (frameType : NwkFrameType) (discoverRoute : NwkRouteDiscovery) (i : Fin 16) :
    ((frameType.toU8 &&& 0b11) <<< 0) ||| (UInt8.ofNat i <<< 2) |||
        ((discoverRoute.toU8 &&& 0b11) <<< 6) =
      UInt8.ofNat (frameType.toPython.value + 2 ^ 2 * (BitVec.ofNat 4 i).toNat +
        2 ^ 6 * discoverRoute.toPython.value) := by
  cases frameType <;> cases discoverRoute <;> revert i <;> decide +kernel

theorem serialize_byte1 : ∀ (multicast security sourceRoute destination extendedSource
    endDeviceInitiator : Bool) (i : Fin 4),
    ((multicast.toUInt8 &&& 0b1) <<< 0) ||| ((security.toUInt8 &&& 0b1) <<< 1)
        ||| ((sourceRoute.toUInt8 &&& 0b1) <<< 2) ||| ((destination.toUInt8 &&& 0b1) <<< 3)
        ||| ((extendedSource.toUInt8 &&& 0b1) <<< 4) ||| ((endDeviceInitiator.toUInt8 &&& 0b1) <<< 5)
        ||| (UInt8.ofNat i <<< 6) =
      UInt8.ofNat (multicast.toNat + 2 * security.toNat + 2 ^ 2 * sourceRoute.toNat +
        2 ^ 3 * destination.toNat + 2 ^ 4 * extendedSource.toNat +
        2 ^ 5 * endDeviceInitiator.toNat + 2 ^ 6 * (BitVec.ofNat 2 i).toNat) := by
  decide +kernel

theorem leBytes_two {low : Nat} (h : low < 256) (high : Nat) :
    leBytes 2 (low + 256 * high) = [UInt8.ofNat low, UInt8.ofNat high] := by
  have hlow : UInt8.ofNat (low + 256 * high) = UInt8.ofNat low := by
    apply UInt8.toNat_inj.mp
    simp
  have hhigh : (low + 256 * high) / 256 = high := by omega
  rw [leBytes, leBytes, leBytes, hlow, hhigh]

theorem NwkFrameControl.serialize_toPython (control : NwkFrameControl) :
    control.toPython.serialize = control.toBytes := by
  obtain ⟨-, ⟨version, hversion, hversion'⟩, -⟩ := exists_low_bits control.protocolVersion
  obtain ⟨⟨reserved, hreserved, hreserved'⟩, -⟩ := exists_low_bits control.reserved
  have hbyte0 := serialize_byte0 control.frameType control.discoverRoute version
  have hbyte1 := serialize_byte1 control.multicast control.security control.sourceRoute
    control.destination control.extendedSource control.endDeviceInitiator reserved
  rw [toBytes, hversion, hreserved, hbyte0, hbyte1]
  rw [← leBytes_two]
  · simp only [Python.ZigbeeNwkFrameControl.serialize, toPython, hversion', hreserved']
    congr 1
    omega
  · have hversionLt := (BitVec.ofNat 4 version).isLt
    cases control.frameType <;> cases control.discoverRoute <;>
      simp only [NwkFrameType.toPython, NwkRouteDiscovery.toPython, Python.ZigbeeNwkFrameType.value,
        Python.ZigbeeNwkRouteDiscovery.value] <;> omega

theorem serialize_securityByte (level : NwkSecurityLevel) (keyId : NwkSecurityHeaderKeyId) :
    ∀ extendedSource verified reserved : Bool,
    (level.toU8 &&& (0b111 : UInt8)) ||| ((keyId.toU8 &&& 0b11) <<< 3)
        ||| (extendedSource.toUInt8 <<< 5) ||| (verified.toUInt8 <<< 6)
        ||| (reserved.toUInt8 <<< 7) =
      UInt8.ofNat (level.toPython.value + 8 * keyId.toPython.value + 32 * extendedSource.toNat +
        64 * (BitVec.ofNat 2 (verified.toNat + 2 * reserved.toNat)).toNat) := by
  cases level <;> cases keyId <;> decide +kernel

theorem NwkSecurityHeaderControlField.serialize_toPython
    (control : NwkSecurityHeaderControlField) : control.toPython.serialize = control.toBytes := by
  obtain ⟨-, -, reserved, hreserved, hreserved'⟩ := exists_low_bits control.reserved
  have hbyte := serialize_securityByte control.securityLevel control.keyId control.extendedSource
    control.requireVerifiedFrameCounter reserved
  rw [toBytes, hreserved, hbyte, ← hreserved']
  rfl

theorem NwkSourceRoute.serialize_toPython {header : NwkHeader}
    (h : ∀ route ∈ header.sourceRoute, route.WellFormed) :
    header.toPython.serializeSourceRoute =
      .ok (encodeOptional NwkSourceRoute.body header.sourceRoute) := by
  unfold Python.ZigbeeNwkHeader.serializeSourceRoute NwkHeader.toPython
  cases hroute : header.sourceRoute with
  | none => rfl
  | some route =>
    have hcount : route.relayCount.toNat = route.relays.length := h route hroute
    have hlt : route.relayCount.toNat < 256 := route.relayCount.toNat_lt
    have hconvert : Python.uint8T route.relays.length = some route.relayCount := by
      rw [Python.uint8T, if_pos (by omega), ← hcount]
      simp
    simp only [Option.map_some, hconvert]
    rfl

/-- Both packages write a network header alike. -/
theorem NwkHeader.serialize_toPython {header : NwkHeader}
    (h : ∀ route ∈ header.sourceRoute, route.WellFormed) :
    header.toPython.serialize = .ok header.body := by
  have hcontrol := header.frameControl.serialize_toPython
  rw [Python.ZigbeeNwkHeader.serialize, NwkSourceRoute.serialize_toPython h]
  simp only [toPython, hcontrol]
  rfl

theorem NwkAuxHeader.serialize_toPython {header : NwkAuxHeader} {source : Eui64}
    (h : header.extendedSource = some source) :
    header.toPython.serialize = .ok header.toBytes := by
  have hcontrol := header.securityControl.serialize_toPython
  simp only [Python.ZigbeeNwkAuxHeader.serialize, toPython, toBytes, h, hcontrol]
  rfl

end ZigpySpinel.Zigbee

namespace ZigpySpinel.Python
open Lib Zigbee

/-! ## Blocks -/

theorem padToMultipleOf16_eq (data : List UInt8) :
    padToMultipleOf16 data = blockBytes (rightPadToMultipleOf16 data) := by
  rw [rightPadToMultipleOf16_eq, blockBytes_paddedBlocks, padToMultipleOf16]
  by_cases hremainder : data.length % 16 = 0
  · have hnone : 16 * ((data.length + 15) / 16) - data.length = 0 := by omega
    simp [hremainder, hnone]
  · have hcount : 16 * ((data.length + 15) / 16) - data.length = 16 - data.length % 16 := by omega
    simp only [hremainder, ne_eq, not_false_eq_true, if_true, hcount]

/-- Whole blocks in front of the data need no padding. -/
theorem padToMultipleOf16_append (blocks : List Block) (data : List UInt8) :
    padToMultipleOf16 (blockBytes blocks ++ data) = blockBytes blocks ++ padToMultipleOf16 data := by
  have hremainder : (blockBytes blocks ++ data).length % 16 = data.length % 16 := by
    rw [List.length_append, length_blockBytes]
    omega
  unfold padToMultipleOf16
  rw [hremainder]
  split
  · rw [List.append_assoc]
  · rfl

theorem completeBlocks_blockBytes (blocks : List Block) :
    completeBlocks (blockBytes blocks) = blocks := by
  have hcount : (blockBytes blocks).length / 16 = blocks.length := by
    rw [length_blockBytes]
    omega
  apply blockBytes_inj
  rw [completeBlocks, hcount, blockBytes_cutBlocks _ _ (Nat.le_of_eq (length_blockBytes blocks)),
    length_blockBytes, Nat.sub_self, List.replicate_zero, List.append_nil]

theorem ecbUpdate_block (encryptBlock : Block → Block) (block : Block) :
    ecbUpdate encryptBlock block.val = (encryptBlock block).val := by
  have hbytes : block.val = blockBytes [block] := (List.append_nil _).symm
  rw [ecbUpdate, hbytes, completeBlocks_blockBytes]
  exact List.append_nil _

/-- The slice of a block. -/
theorem slice_blockBytes {blocks : List Block} {i : Nat} (h : i < blocks.length) :
    ((blockBytes blocks).take (16 * (i + 1))).drop (16 * i) = blocks[i].val := by
  induction blocks generalizing i with
  | nil => cases h
  | cons block blocks ih =>
    have hblock : block.val.length = 16 := block.property
    cases i with
    | zero => simp [List.take_left' hblock]
    | succ i =>
      have htake : 16 * (i + 1 + 1) = block.val.length + 16 * (i + 1) := by omega
      have hdrop : 16 * (i + 1) = block.val.length + 16 * i := by omega
      rw [blockBytes_cons, htake, List.take_length_add_append, hdrop, List.drop_length_add_append,
        ← hdrop, ih (Nat.lt_of_succ_lt_succ h), List.getElem_cons_succ]

/-- The slice of the tag in the last block. -/
theorem slice_last {blocks : List Block} {last : Block} (h : blocks.getLast? = some last) :
    ((blockBytes blocks).take ((blockBytes blocks).length - (16 - 4))).drop
      ((blockBytes blocks).length - 16) = last.val.take 4 := by
  obtain ⟨front, rfl⟩ := List.getLast?_eq_some_iff.mp h
  have hlast : last.val.length = 16 := last.property
  have hlen : (blockBytes (front ++ [last])).length = (blockBytes front).length + 16 := by
    rw [length_blockBytes, length_blockBytes, List.length_append]
    simp
    omega
  have htake : (blockBytes front).length + 16 - (16 - 4) = (blockBytes front).length + 4 := by omega
  rw [hlen, htake, Nat.add_sub_cancel, blockBytes_append, List.take_length_add_append,
    List.drop_left]
  simp

/-! ## The two operations -/

variable (aes : Aes128) (key : Key)

theorem toBytesBig_two {n : Nat} (h : n < 65536) : toBytesBig n 2 = .ok (NwkCrypto.lowBytes n) := by
  rw [NwkCrypto.lowBytes_eq]
  exact toBytesBig_of_lt h

/-- The padding of headers and payload together fills up the payload only. -/
theorem blockBytes_macBlocks (authData plaintext : List UInt8) (nonce : FixedBytes 13) :
    [0b01001001] ++ nonce.val ++ NwkCrypto.lowBytes plaintext.length ++
        padToMultipleOf16 (padToMultipleOf16 (NwkCrypto.lowBytes authData.length ++ authData) ++
          plaintext) =
      blockBytes (NwkCrypto.macBlocks authData plaintext nonce) := by
  rw [padToMultipleOf16_eq (NwkCrypto.lowBytes authData.length ++ authData),
    padToMultipleOf16_append, padToMultipleOf16_eq plaintext, ← blockBytes_append]
  rfl

/-- The tag in the last block of the chain. -/
theorem slice_cbcUpdate (encryptBlock : Block → Block) (authData plaintext : List UInt8)
    (nonce : FixedBytes 13) :
    let x := cbcUpdate encryptBlock (blockBytes (NwkCrypto.macBlocks authData plaintext nonce))
    (x.take (x.length - (16 - 4))).drop (x.length - 16) =
      (NwkCrypto.takeTag (Ccm.cbcMac encryptBlock
        (NwkCrypto.macBlocks authData plaintext nonce))).val := by
  intro x
  have hlast := getLast?_cbcChain encryptBlock Block.zero (NwkCrypto.b0 nonce plaintext)
    (rightPadToMultipleOf16 (NwkCrypto.lowBytes authData.length ++ authData) ++
      rightPadToMultipleOf16 plaintext)
  rw [Block.zero_xor] at hlast
  have hx : x = blockBytes (cbcChain encryptBlock Block.zero
      (NwkCrypto.macBlocks authData plaintext nonce)) := by
    rw [← completeBlocks_blockBytes (NwkCrypto.macBlocks authData plaintext nonce)]
    rfl
  rw [hx]
  exact slice_last hlast

/-- Both packages compute the same tag. -/
theorem computeMac_agrees {frame : NwkFrame} (pythonFrame : ZigbeeNwkFrame)
    (hheader : pythonFrame.nwkHeader = frame.nwkHeader.toPython)
    (hroute : ∀ route ∈ frame.nwkHeader.sourceRoute, route.WellFormed)
    {auxHeader : NwkAuxHeader} {source : Eui64} (hsource : auxHeader.extendedSource = some source)
    {plaintext : List UInt8} (hlen : plaintext.length < 65536) (nonce : FixedBytes 13) :
    ∃ mac, NwkCrypto.computeMac aes frame key plaintext auxHeader nonce = .ok mac ∧
      pythonFrame.computeMac aes.encryptBlock 2 4 key plaintext auxHeader.toPython nonce.val =
        .ok mac.val := by
  have hbody := NwkHeader.length_body_le hroute
  have haux := auxHeader.length_toBytes_le
  have hauth : (frame.nwkHeader.body ++ auxHeader.toBytes).length < 65536 := by
    rw [List.length_append]
    omega
  have hmac := NwkCrypto.computeMac_eq aes key plaintext auxHeader nonce (NwkHeader.toBytes_eq hroute)
  refine ⟨_, hmac, ?_⟩
  simp only [ZigbeeNwkFrame.computeMac, hheader, NwkHeader.serialize_toPython hroute,
    NwkAuxHeader.serialize_toPython hsource, bind, Except.bind, toBytesBig_two hauth,
    toBytesBig_two hlen, blockBytes_macBlocks, slice_cbcUpdate]

/-- One pass of the loop encrypts one block. -/
theorem encryptPass_eq (nonce : FixedBytes 13) {blocks : List Block} {i : Nat}
    (hi : i < blocks.length) (hcounter : i < 65536) (taggedCiphertext : List UInt8) :
    ZigbeeNwkFrame.encryptPass aes.encryptBlock 2 key nonce.val (blockBytes blocks)
        taggedCiphertext i =
      .ok (taggedCiphertext ++
        ((aes.encryptBlock key (NwkCrypto.counterBlock nonce i)).xor blocks[i]).val) := by
  have hcounterBlock : [0b00000001] ++ nonce.val ++ NwkCrypto.lowBytes i =
      (NwkCrypto.counterBlock nonce i).val := rfl
  have hlen : (aes.encryptBlock key (NwkCrypto.counterBlock nonce i)).val.length =
      blocks[i].val.length := by
    rw [(aes.encryptBlock key _).property, blocks[i].property]
  simp only [ZigbeeNwkFrame.encryptPass, toBytesBig_two hcounter, bind, Except.bind, hcounterBlock,
    ecbUpdate_block, slice_blockBytes hi, xor, if_pos hlen]
  rfl

/-- The loop encrypts the blocks one after the other. -/
theorem foldlM_encryptPass (nonce : FixedBytes 13) {blocks : List Block} {n : Nat}
    (hn : n ≤ blocks.length) (hcounter : n ≤ 65536) :
    (List.range n).foldlM
        (ZigbeeNwkFrame.encryptPass aes.encryptBlock 2 key nonce.val (blockBytes blocks)) [] =
      .ok (blockBytes ((blocks.take n).mapIdx fun i block =>
        (aes.encryptBlock key (NwkCrypto.counterBlock nonce i)).xor block)) := by
  induction n with
  | zero => rfl
  | succ n ih =>
    have hlt : n < blocks.length := hn
    rw [List.range_succ, List.foldlM_append, ih (Nat.le_of_lt hlt) (Nat.le_of_lt hcounter)]
    have hpass := encryptPass_eq aes key nonce hlt hcounter
    have hlen : (blocks.take n).length = n := List.length_take_of_le (Nat.le_of_lt hlt)
    simp only [bind, Except.bind, List.foldlM_cons, List.foldlM_nil, hpass,
      List.take_succ_eq_append_getElem hlt, List.mapIdx_concat, blockBytes_append, blockBytes_cons,
      blockBytes_nil, List.append_nil, hlen]
    rfl

/-- Both packages put the same key stream over tag and text. -/
theorem encryptWith_agrees (nonce : FixedBytes 13) (tag : FixedBytes NwkCrypto.M)
    {text : List UInt8} (hlen : text.length < 65536) :
    ∃ tag' text', NwkCrypto.encryptDecrypt aes key nonce tag text = .ok (tag', text') ∧
      text'.length = text.length ∧
      ZigbeeNwkFrame.encryptWith aes.encryptBlock 2 4 key nonce.val tag.val text =
        .ok (tag'.val, text') := by
  have hcrypt := NwkCrypto.encryptDecrypt_eq aes key nonce tag text
  have hblocks : padToMultipleOf16 tag.val ++ padToMultipleOf16 text =
      blockBytes (rightPadToMultipleOf16 tag.val ++ rightPadToMultipleOf16 text) := by
    rw [padToMultipleOf16_eq, padToMultipleOf16_eq, blockBytes_append]
  have hcount : (rightPadToMultipleOf16 tag.val ++ rightPadToMultipleOf16 text).length ≤ 65536 := by
    rw [List.length_append, rightPadToMultipleOf16_eq, rightPadToMultipleOf16_eq,
      length_paddedBlocks, length_paddedBlocks, tag.property, show NwkCrypto.M = 4 from rfl]
    omega
  have hloop := foldlM_encryptPass aes key nonce (Nat.le_refl _) hcount
  have hblockNums : (padToMultipleOf16 tag.val ++ padToMultipleOf16 text).length / 16 =
      (rightPadToMultipleOf16 tag.val ++ rightPadToMultipleOf16 text).length := by
    rw [hblocks, length_blockBytes]
    omega
  refine ⟨_, _, hcrypt, ?_, ?_⟩
  · rw [length_xorBytes]
    exact Nat.min_eq_left (NwkCrypto.le_length_keyStream aes key nonce text.length)
  · rw [ZigbeeNwkFrame.encryptWith, hblockNums, hblocks, hloop, List.take_length]
    unfold NwkCrypto.encryptDecrypt at hcrypt
    dsimp only at hcrypt
    split at hcrypt
    · cases hcrypt
    · rename_i first rest hmapped
      split at hcrypt
      · have hfirst : first.val.length = 16 := first.property
        have hmac : (first.val ++ blockBytes rest).take 4 = first.val.take 4 :=
          List.take_append_of_le_length (by rw [hfirst]; decide)
        have htext : ((first.val ++ blockBytes rest).take (16 + text.length)).drop 16 =
            (blockBytes rest).take text.length := by
          rw [List.drop_take, List.drop_left' hfirst, Nat.add_sub_cancel_left]
        rw [Outcome.ok.injEq, Prod.mk.injEq] at hcrypt
        rw [hmapped, blockBytes_cons, ← hcrypt.1, ← hcrypt.2]
        simp only [bind, Except.bind, hmac, htext]
        rfl
      · cases hcrypt

/-! ## Frames -/

/-- The security level that both packages put in place of that of the frame. -/
theorem getModifiedAuxHeader_agrees {frame : ZigbeeNwkFrame} {auxHeader : NwkAuxHeader}
    (h : frame.auxHeader = some auxHeader.toPython) :
    frame.getModifiedAuxHeader = some auxHeader.withLevel5.toPython := by
  simp only [ZigbeeNwkFrame.getModifiedAuxHeader, h, Option.bind_eq_bind, Option.bind_some]
  rcases auxHeader with ⟨⟨level, keyId, extendedSource, verified, reserved⟩, counter, source, sequence⟩
  -- where the level is in force already, the header is given back as it is
  cases level <;> rfl

/-- Both packages take the nonce from the auxiliary header. -/
theorem getNonce_agrees (frame : ZigbeeNwkFrame) {auxHeader : NwkAuxHeader} {source : Eui64}
    (h : auxHeader.extendedSource = some source) :
    frame.getNonce auxHeader.toPython = some (NwkFrame.nonceOf source auxHeader).val := by
  have hcontrol := auxHeader.securityControl.serialize_toPython
  simp only [ZigbeeNwkFrame.getNonce, NwkAuxHeader.toPython, h, hcontrol]
  rfl

/-- Both packages take the last four bytes for the tag. -/
theorem splitMacTag_agrees {payload : List UInt8} (h : 4 ≤ payload.length) :
    ∃ ciphertext tag, NwkCrypto.splitMacTag payload = .ok (ciphertext, tag) ∧
      payload.take (payload.length - 4) = ciphertext ∧ payload.drop (payload.length - 4) = tag.val :=
  ⟨_, _, dif_pos h, rfl, rfl⟩

/-- On a frame with an extended source address in its auxiliary header, and with no more
    relays than its count says, the two packages encrypt every payload that the length
    fields hold to the same bytes, and they decrypt every one to the same bytes or both
    refuse its tag. -/
theorem encrypt_decrypt_agree {frame : NwkFrame} {auxHeader : NwkAuxHeader} {source : Eui64}
    (hroute : ∀ route ∈ frame.nwkHeader.sourceRoute, route.WellFormed)
    (haux : frame.auxHeader = some auxHeader) (hsource : auxHeader.extendedSource = some source) :
    (frame.encrypted = false → frame.payload.length < 65536 →
      ∃ payload, frame.encrypt aes key = .ok { frame with payload := payload, encrypted := true } ∧
        DecryptedZigbeeNwkFrame.encrypt aes.encryptBlock ⟨frame.toPython⟩ key =
          .ok ⟨{ frame.toPython with payload := payload }⟩) ∧
    (frame.encrypted = true → 4 ≤ frame.payload.length → frame.payload.length ≤ 65539 →
      (frame.decrypt aes key = .err "Decryption failed, invalid MAC tag" ∧
        EncryptedZigbeeNwkFrame.decrypt aes.encryptBlock ⟨frame.toPython⟩ key =
          .error (.decryptionFailure "Invalid MAC tag")) ∨
      ∃ payload, frame.decrypt aes key = .ok { frame with payload := payload, encrypted := false } ∧
        EncryptedZigbeeNwkFrame.decrypt aes.encryptBlock ⟨frame.toPython⟩ key =
          .ok ⟨{ frame.toPython with payload := payload }⟩) := by
  have hsource' : auxHeader.withLevel5.extendedSource = some source := hsource
  have hnonceSource : frame.nonceSource auxHeader = some source := by
    rw [NwkFrame.nonceSource, hsource]
  have hmodified := NwkFrame.getModifiedAuxHeader_eq haux
  have hnonce := NwkFrame.getNonce_eq hnonceSource
  have hpython : frame.toPython.auxHeader = some auxHeader.toPython := by
    rw [NwkFrame.toPython, haux]
    rfl
  have hmodified' := getModifiedAuxHeader_agrees hpython
  have hnonce' := getNonce_agrees frame.toPython hsource'
  have hLM : frame.toPython.getEncryptionLM = .ok (2, 4) := by
    rw [ZigbeeNwkFrame.getEncryptionLM, hpython]
  constructor
  · intro hencrypted hlen
    obtain ⟨mac, hmac, hmac'⟩ := computeMac_agrees aes key frame.toPython rfl hroute hsource' hlen
      (NwkFrame.nonceOf source auxHeader.withLevel5)
    obtain ⟨tag, ciphertext, hcrypt, -, hcrypt'⟩ :=
      encryptWith_agrees aes key (NwkFrame.nonceOf source auxHeader.withLevel5) mac hlen
    refine ⟨ciphertext ++ tag.val, ?_, ?_⟩
    · simp only [NwkFrame.encrypt, hencrypted, Bool.false_eq_true, if_false, hmodified, hnonce, hmac,
        hcrypt, Outcome.ok_bind]
    · have hpayload : frame.toPython.payload = frame.payload := rfl
      simp only [DecryptedZigbeeNwkFrame.encrypt, hLM, hmodified', hnonce', orRaise, hpayload, hmac',
        hcrypt', bind, Except.bind]
  · intro hencrypted hlong hshort
    obtain ⟨ciphertext, encryptedTag, hsplit, htake, hdrop⟩ := splitMacTag_agrees hlong
    have hlen : ciphertext.length < 65536 := by
      rw [← htake, List.length_take]
      omega
    obtain ⟨provided, plaintext, hcrypt, hplain, hcrypt'⟩ :=
      encryptWith_agrees aes key (NwkFrame.nonceOf source auxHeader.withLevel5) encryptedTag hlen
    rw [← hplain] at hlen
    obtain ⟨mac, hmac, hmac'⟩ := computeMac_agrees aes key frame.toPython rfl hroute hsource' hlen
      (NwkFrame.nonceOf source auxHeader.withLevel5)
    have hrust : frame.decrypt aes key =
        if provided ≠ mac then .err "Decryption failed, invalid MAC tag"
        else .ok { frame with payload := plaintext, encrypted := false } := by
      simp only [NwkFrame.decrypt, hencrypted, Bool.not_true, Bool.false_eq_true, if_false, hmodified,
        hnonce, hsplit, hcrypt, hmac, Outcome.ok_bind]
    have hpayload : frame.toPython.payload = frame.payload := rfl
    have hpythonDecrypt : EncryptedZigbeeNwkFrame.decrypt aes.encryptBlock ⟨frame.toPython⟩ key =
        if provided.val ≠ mac.val then .error (.decryptionFailure "Invalid MAC tag")
        else .ok ⟨{ frame.toPython with payload := plaintext }⟩ := by
      simp only [EncryptedZigbeeNwkFrame.decrypt, hLM, hmodified', hnonce', orRaise, hpayload,
        htake, hdrop, hcrypt', hmac', bind, Except.bind]
    rw [hrust, hpythonDecrypt]
    by_cases hmatch : provided = mac
    · subst hmatch
      exact .inr ⟨plaintext, if_neg (not_not.mpr rfl), if_neg (not_not.mpr rfl)⟩
    · exact .inl ⟨if_pos hmatch, if_pos fun hval => hmatch (Subtype.ext hval)⟩

/-- The frame of `test_source_route`, in both directions. -/
theorem encrypt_decrypt_agree_sourceRoute :
    (∃ payload, NwkFrame.sourceRoutePlain.encrypt NwkFrame.sourceRouteAes NwkFrame.sourceRouteKey =
        .ok { NwkFrame.sourceRoutePlain with payload := payload, encrypted := true } ∧
      DecryptedZigbeeNwkFrame.encrypt NwkFrame.sourceRouteAes.encryptBlock
          ⟨NwkFrame.sourceRoutePlain.toPython⟩ NwkFrame.sourceRouteKey =
        .ok ⟨{ NwkFrame.sourceRoutePlain.toPython with payload := payload }⟩) ∧
    ((sourceRouteFrame.decrypt NwkFrame.sourceRouteAes NwkFrame.sourceRouteKey =
          .err "Decryption failed, invalid MAC tag" ∧
        EncryptedZigbeeNwkFrame.decrypt NwkFrame.sourceRouteAes.encryptBlock
            ⟨sourceRouteFrame.toPython⟩ NwkFrame.sourceRouteKey =
          .error (.decryptionFailure "Invalid MAC tag")) ∨
      ∃ payload, sourceRouteFrame.decrypt NwkFrame.sourceRouteAes NwkFrame.sourceRouteKey =
          .ok { sourceRouteFrame with payload := payload, encrypted := false } ∧
        EncryptedZigbeeNwkFrame.decrypt NwkFrame.sourceRouteAes.encryptBlock
            ⟨sourceRouteFrame.toPython⟩ NwkFrame.sourceRouteKey =
          .ok ⟨{ sourceRouteFrame.toPython with payload := payload }⟩) := by
  have hroute : ∀ route ∈ sourceRouteFrame.nwkHeader.sourceRoute, route.WellFormed := by
    intro route hmem
    cases hmem
    rfl
  have hplain : ∀ route ∈ NwkFrame.sourceRoutePlain.nwkHeader.sourceRoute, route.WellFormed := hroute
  constructor
  · exact (encrypt_decrypt_agree _ _ hplain rfl rfl).1 rfl (by decide)
  · exact (encrypt_decrypt_agree _ _ hroute rfl rfl).2 rfl (by decide) (by decide)

end ZigpySpinel.Python
