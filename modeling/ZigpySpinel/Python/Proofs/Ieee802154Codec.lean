import ZigpySpinel.Python.Proofs.FcsAgreement

/-!
# 802.15.4 frames in the Python package: writing what was read

The decoder reads the header from the data with the check sequence still behind it. A header
that leaves the two bytes of the check sequence is written as it was read, but for the source
PAN id of a command that looks like a beacon request, which is read and not written. A
shorter rest means that the header took bytes of the check sequence, and then more bytes are
written than were read.
-/

namespace ZigpySpinel.Python
open Lib

/-! ## The frame control -/

/-- The first byte of a frame control. -/
def IEEE802154FrameControl.byte0 (frameType : IEEE802154FrameType) (securityEnabled framePending
    ackRequest panIdCompression reserved : Bool) : UInt8 :=
  UInt8.ofNat (frameType.value + 2 ^ 3 * securityEnabled.toNat + 2 ^ 4 * framePending.toNat +
    2 ^ 5 * ackRequest.toNat + 2 ^ 6 * panIdCompression.toNat + 2 ^ 7 * reserved.toNat)

/-- The second byte of a frame control. -/
def IEEE802154FrameControl.byte1 (suppression elements : Bool)
    (destAddrMode : IEEE802154AddressingMode) (frameVersion : BitVec 2)
    (srcAddrMode : IEEE802154AddressingMode) : UInt8 :=
  UInt8.ofNat (suppression.toNat + 2 * elements.toNat + 2 ^ 2 * destAddrMode.value +
    2 ^ 4 * frameVersion.toNat + 2 ^ 6 * srcAddrMode.value)

theorem IEEE802154FrameType.value_ofBits (bits : BitVec 3) : (ofBits bits).value = bits.toNat := by
  revert bits
  decide

theorem IEEE802154AddressingMode.value_ofBits (bits : BitVec 2) :
    (ofBits bits).value = bits.toNat := by
  revert bits
  decide

theorem IEEE802154FrameControl.byte0_read (frameType : IEEE802154FrameType) :
    ∀ securityEnabled framePending ackRequest panIdCompression reserved : Bool,
      let b := byte0 frameType securityEnabled framePending ackRequest panIdCompression reserved
      IEEE802154FrameType.ofBits (BitVec.ofNat 3 b.toNat) = frameType ∧
        b.toNat.testBit 3 = securityEnabled ∧ b.toNat.testBit 4 = framePending ∧
        b.toNat.testBit 5 = ackRequest ∧ b.toNat.testBit 6 = panIdCompression ∧
        b.toNat.testBit 7 = reserved := by
  cases frameType <;> decide +kernel

theorem IEEE802154FrameControl.byte1_read (destAddrMode srcAddrMode : IEEE802154AddressingMode) :
    ∀ (suppression elements : Bool) (frameVersion : BitVec 2),
      let b := byte1 suppression elements destAddrMode frameVersion srcAddrMode
      b.toNat.testBit 0 = suppression ∧ b.toNat.testBit 1 = elements ∧
        IEEE802154AddressingMode.ofBits (BitVec.ofNat 2 (b.toNat / 2 ^ 2)) = destAddrMode ∧
        BitVec.ofNat 2 (b.toNat / 2 ^ 4) = frameVersion ∧
        IEEE802154AddressingMode.ofBits (BitVec.ofNat 2 (b.toNat / 2 ^ 6)) = srcAddrMode := by
  cases destAddrMode <;> cases srcAddrMode <;> decide +kernel

theorem IEEE802154FrameControl.byte0_write (b : UInt8) :
    byte0 (.ofBits (BitVec.ofNat 3 b.toNat)) (b.toNat.testBit 3) (b.toNat.testBit 4)
      (b.toNat.testBit 5) (b.toNat.testBit 6) (b.toNat.testBit 7) = b := by
  have hlt : b.toNat < 256 := b.toNat_lt
  rw [byte0, IEEE802154FrameType.value_ofBits]
  simp only [Nat.toNat_testBit, BitVec.toNat_ofNat]
  refine ofNat_eq_of_eq_toNat ?_
  omega

theorem IEEE802154FrameControl.byte1_write (b : UInt8) :
    byte1 (b.toNat.testBit 0) (b.toNat.testBit 1) (.ofBits (BitVec.ofNat 2 (b.toNat / 2 ^ 2)))
      (BitVec.ofNat 2 (b.toNat / 2 ^ 4)) (.ofBits (BitVec.ofNat 2 (b.toNat / 2 ^ 6))) = b := by
  have hlt : b.toNat < 256 := b.toNat_lt
  rw [byte1, IEEE802154AddressingMode.value_ofBits, IEEE802154AddressingMode.value_ofBits]
  simp only [Nat.toNat_testBit, BitVec.toNat_ofNat]
  refine ofNat_eq_of_eq_toNat ?_
  omega

theorem IEEE802154FrameControl.serialize_ofBytes (b0 b1 : UInt8) :
    (ofBytes b0 b1).serialize = [b0, b1] := by
  have h0 := byte0_write b0
  have h1 := byte1_write b1
  rw [byte0] at h0
  rw [byte1] at h1
  simp only [serialize, ofBytes, h0, h1]

theorem IEEE802154FrameControl.codec :
    PyCodec (fun _ => True) IEEE802154FrameControl.serialize
      IEEE802154FrameControl.deserialize where
  decode_encode control rest _ := by
    rcases control with ⟨frameType, securityEnabled, framePending, ackRequest, panIdCompression,
      reserved, suppression, elements, destAddrMode, frameVersion, srcAddrMode⟩
    obtain ⟨hframeType, h3, h4, h5, h6, h7⟩ := byte0_read frameType securityEnabled framePending
      ackRequest panIdCompression reserved
    obtain ⟨h0, h1, hdest, hversion, hsrc⟩ := byte1_read destAddrMode srcAddrMode suppression
      elements frameVersion
    change Outcome.ok (ofBytes (byte0 frameType securityEnabled framePending ackRequest
      panIdCompression reserved) (byte1 suppression elements destAddrMode frameVersion srcAddrMode),
      rest) = _
    simp only [ofBytes, hframeType, h3, h4, h5, h6, h7, h0, h1, hdest, hversion, hsrc]
  encode_decode data control rest h := by
    match data, h with
    | b0 :: b1 :: data, h =>
      cases h
      refine ⟨trivial, ?_⟩
      rw [serialize_ofBytes]
      rfl

/-! ## The fields -/

/-- The addresses that an addressing mode announces. -/
def IEEE802154AddressingMode.Announces : IEEE802154AddressingMode → Option Address → Prop
  | .short, address => ∃ nwk, address = some (.nwk nwk)
  | .long, address => ∃ eui64, address = some (.eui64 eui64)
  | _, address => address = .none

/-- The number of bytes of the address of an addressing mode. -/
def IEEE802154AddressingMode.length : IEEE802154AddressingMode → Nat
  | .short => 2
  | .long => 8
  | _ => 0

namespace IEEE802154Frame

theorem codec_address (mode : IEEE802154AddressingMode) :
    PyCodec mode.Announces (encodeOptional Address.serialize) (deserializeAddress mode) where
  decode_encode address rest h := by
    apply Outcome.ofExcept_eq_ok.mpr
    cases mode with
    | none =>
      cases h
      rfl
    | undefined0x01 =>
      cases h
      rfl
    | short =>
      obtain ⟨nwk, rfl⟩ := h
      change (nwkDeserialize (nwk.toBytes ++ rest) >>= _) = _
      rw [codec_nwk.read trivial]
      rfl
    | long =>
      obtain ⟨eui64, rfl⟩ := h
      change (eui64Deserialize (eui64.toBytes ++ rest) >>= _) = _
      rw [codec_eui64.read trivial]
      rfl
  encode_decode data address rest h := by
    have hread := Outcome.ofExcept_eq_ok.mp h
    cases mode with
    | none =>
      cases hread
      exact ⟨rfl, rfl⟩
    | undefined0x01 =>
      cases hread
      exact ⟨rfl, rfl⟩
    | short =>
      obtain ⟨⟨nwk, rest'⟩, hnwk, hread⟩ := except_bind_eq_ok.mp hread
      cases hread
      exact ⟨⟨nwk, rfl⟩, (codec_nwk.written hnwk).2⟩
    | long =>
      obtain ⟨⟨eui64, rest'⟩, heui64, hread⟩ := except_bind_eq_ok.mp hread
      cases hread
      exact ⟨⟨eui64, rfl⟩, (codec_eui64.written heui64).2⟩

theorem isSome_of_announces {mode : IEEE802154AddressingMode} {address : Option Address}
    (h : mode.Announces address) : hasAddress mode = true ↔ address.isSome := by
  cases mode with
  | none =>
    cases h
    simp [hasAddress]
  | undefined0x01 =>
    cases h
    simp [hasAddress]
  | short =>
    obtain ⟨nwk, rfl⟩ := h
    simp [hasAddress]
  | long =>
    obtain ⟨eui64, rfl⟩ := h
    simp [hasAddress]

theorem length_of_announces {mode : IEEE802154AddressingMode} {address : Option Address}
    (h : mode.Announces address) :
    (encodeOptional Address.serialize address).length = mode.length := by
  cases mode with
  | none =>
    cases h
    rfl
  | undefined0x01 =>
    cases h
    rfl
  | short =>
    obtain ⟨nwk, rfl⟩ := h
    exact nwk.length_toBytes
  | long =>
    obtain ⟨eui64, rfl⟩ := h
    exact eui64.length_toBytes

/-- The source PAN id is read where the header has one, and otherwise no bytes are. -/
theorem of_deserializeSrcPanId {control : IEEE802154FrameControl} {destPanId srcPanId : Option UInt16}
    {data rest : List UInt8}
    (h : deserializeSrcPanId control destPanId data = .ok (srcPanId, rest)) :
    (hasSrcPanId control = true → srcPanId.isSome) ∧
      data = (if hasSrcPanId control then encodeOptional u16ToLeBytes srcPanId else []) ++ rest := by
  rw [deserializeSrcPanId] at h
  cases hcompression : control.panIdCompression with
  | true =>
    rw [hcompression, if_pos rfl] at h
    cases h
    simp [hasSrcPanId, hcompression]
  | false =>
    rw [hcompression, if_neg Bool.false_ne_true] at h
    obtain ⟨⟨hflag, -⟩, hdata⟩ := (codec_uint16.deserializeIf _).written h
    have hhas : hasSrcPanId control =
        (control.frameType == .data || control.frameType == .command) := by
      rw [hasSrcPanId, hcompression, Bool.not_false, Bool.true_and]
    rw [hhas]
    refine ⟨hflag.mp, ?_⟩
    cases srcPanId with
    | none => simpa [encodeOptional] using hdata
    | some panId =>
      rw [hflag.mpr rfl]
      exact hdata

/-! ## The frame -/

/-- The fields that the decoder finds under a frame control. -/
structure WellFormed (frame : IEEE802154Frame) : Prop where
  sequenceNumber :
    (!frame.frameControl.sequenceNumberSuppression) = true ↔ frame.sequenceNumber.isSome
  destPanId : hasAddress frame.frameControl.destAddrMode = true ↔ frame.destPanId.isSome
  destAddress : frame.frameControl.destAddrMode.Announces frame.destAddress
  srcPanId : hasSrcPanId frame.frameControl = true → frame.srcPanId.isSome
  srcAddress : frame.frameControl.srcAddrMode.Announces frame.srcAddress

/-- The bytes in front of the payload, with or without a source PAN id. -/
def header (frame : IEEE802154Frame) (srcPanId : Bool) : List UInt8 :=
  frame.frameControl.serialize ++ encodeOptional (fun b => [b]) frame.sequenceNumber ++
    encodeOptional u16ToLeBytes frame.destPanId ++
    encodeOptional Address.serialize frame.destAddress ++
    (if srcPanId then encodeOptional u16ToLeBytes frame.srcPanId else []) ++
    encodeOptional Address.serialize frame.srcAddress

/-- The number of header bytes under a frame control. -/
def headerLength (control : IEEE802154FrameControl) : Nat :=
  2 + (!control.sequenceNumberSuppression).toNat + 2 * (hasAddress control.destAddrMode).toNat +
    control.destAddrMode.length + 2 * (hasSrcPanId control).toNat + control.srcAddrMode.length

theorem length_header {frame : IEEE802154Frame} (h : frame.WellFormed) (srcPanId : Bool)
    (hsrcPanId : srcPanId = true → hasSrcPanId frame.frameControl = true) :
    (frame.header srcPanId).length + 2 * (hasSrcPanId frame.frameControl).toNat =
      headerLength frame.frameControl + 2 * srcPanId.toNat := by
  have hsequence := length_encodeOptional (show ∀ b : UInt8, [b].length = 1 from fun _ => rfl)
    h.sequenceNumber
  have hdestPanId := length_encodeOptional length_u16ToLeBytes h.destPanId
  have hdestAddress := length_of_announces h.destAddress
  have hsrcAddress := length_of_announces h.srcAddress
  have hpan : (if srcPanId then encodeOptional u16ToLeBytes frame.srcPanId else []).length =
      2 * srcPanId.toNat := by
    cases srcPanId with
    | false => rfl
    | true =>
      have hsome := h.srcPanId (hsrcPanId rfl)
      exact length_encodeOptional length_u16ToLeBytes (iff_of_true rfl hsome)
  have hcontrol : frame.frameControl.serialize.length = 2 := rfl
  simp only [header, headerLength, List.length_append, hcontrol, hsequence, hdestPanId,
    hdestAddress, hsrcAddress, hpan]
  omega

theorem serializeIf_eq {α : Type} {condition : Bool} {enc : α → List UInt8} {field : Option α}
    (h : condition = true ↔ field.isSome) :
    serializeIf condition enc field = .ok (encodeOptional enc field) := by
  cases field with
  | none =>
    have hfalse : condition = false := by simpa using h
    rw [hfalse]
    rfl
  | some a =>
    rw [h.mpr rfl]
    rfl

/-- What the decoder returns is written with its fields in their places, the source PAN id of
    a beacon request apart. -/
theorem serialize_eq {frame : IEEE802154Frame} (h : frame.WellFormed) :
    let data := frame.header (hasSrcPanId frame.frameControl && !frame.isBeaconRequest) ++
      frame.payload
    frame.serialize = computeFcs data >>= fun fcs => .ok (data ++ fcs) := by
  have hpan : serializeIf (hasSrcPanId frame.frameControl && !frame.isBeaconRequest)
        u16ToLeBytes frame.srcPanId =
      .ok (if hasSrcPanId frame.frameControl && !frame.isBeaconRequest then
        encodeOptional u16ToLeBytes frame.srcPanId else []) := by
    cases hwritten : hasSrcPanId frame.frameControl && !frame.isBeaconRequest with
    | false => rfl
    | true =>
      have hsome := h.srcPanId (Bool.and_eq_true_iff.mp hwritten).1
      exact serializeIf_eq (iff_of_true rfl hsome)
  simp only [serialize, serializeBody, header, serializeIf_eq h.sequenceNumber,
    serializeIf_eq h.destPanId, serializeIf_eq (isSome_of_announces h.destAddress), hpan,
    serializeIf_eq (isSome_of_announces h.srcAddress), bind, Except.bind]

/-- What the decoder accepts starts with the header, and the payload is what remains but for
    two bytes. -/
theorem of_fromBytes {data : List UInt8} {frame : IEEE802154Frame}
    (h : fromBytes data = .ok frame) :
    frame.WellFormed ∧ ∃ tail, data = frame.header (hasSrcPanId frame.frameControl) ++ tail ∧
      frame.payload = tail.take (tail.length - 2) := by
  simp only [fromBytes, except_bind_eq_ok] at h
  obtain ⟨⟨control, r1⟩, hcontrol, ⟨sequenceNumber, r2⟩, hsequence, ⟨destPanId, r3⟩, hdestPanId,
    ⟨destAddress, r4⟩, hdestAddress, ⟨srcPanId, r5⟩, hsrcPanId, ⟨srcAddress, r6⟩, hsrcAddress,
    h⟩ := h
  cases h
  dsimp only at hsequence hdestPanId hdestAddress hsrcPanId hsrcAddress
  obtain ⟨-, hdata⟩ := IEEE802154FrameControl.codec.written hcontrol
  obtain ⟨⟨hsequenceFlag, -⟩, hr1⟩ := (codec_uint8.deserializeIf _).written hsequence
  obtain ⟨⟨hdestFlag, -⟩, hr2⟩ := (codec_uint16.deserializeIf _).written hdestPanId
  obtain ⟨hdest, hr3⟩ := (codec_address _).written hdestAddress
  obtain ⟨hpan, hr4⟩ := of_deserializeSrcPanId hsrcPanId
  obtain ⟨hsrc, hr5⟩ := (codec_address _).written hsrcAddress
  refine ⟨⟨hsequenceFlag, hdestFlag, hdest, hpan, hsrc⟩, r6, ?_, rfl⟩
  rw [hdata, hr1, hr2, hr3, hr4, hr5]
  simp only [header, List.append_assoc]

/-- The source PAN id is the one that the decoder makes of what is written. -/
def SrcPanIdRead (frame : IEEE802154Frame) : Prop :=
  if frame.frameControl.panIdCompression then frame.srcPanId = frame.destPanId
  else hasSrcPanId frame.frameControl = true ↔ frame.srcPanId.isSome

theorem deserializeSrcPanId_read {frame : IEEE802154Frame} (h : frame.SrcPanIdRead)
    (rest : List UInt8) :
    deserializeSrcPanId frame.frameControl frame.destPanId
        ((if hasSrcPanId frame.frameControl then encodeOptional u16ToLeBytes frame.srcPanId else []) ++
          rest) = .ok (frame.srcPanId, rest) := by
  rw [SrcPanIdRead] at h
  rw [deserializeSrcPanId]
  cases hcompression : frame.frameControl.panIdCompression with
  | true =>
    rw [hcompression, if_pos rfl] at h
    simp [hasSrcPanId, hcompression, h]
  | false =>
    have hhas : hasSrcPanId frame.frameControl =
        (frame.frameControl.frameType == .data || frame.frameControl.frameType == .command) := by
      rw [hasSrcPanId, hcompression, Bool.not_false, Bool.true_and]
    rw [hcompression, if_neg Bool.false_ne_true, hhas] at h
    rw [if_neg Bool.false_ne_true, hhas]
    have hread := (codec_uint16.deserializeIf
      (frame.frameControl.frameType == .data || frame.frameControl.frameType == .command)).read
      ⟨h, fun _ _ => trivial⟩ rest
    cases hpan : frame.srcPanId with
    | none =>
      rw [hpan] at h hread
      simpa [encodeOptional] using hread
    | some panId =>
      rw [hpan] at h hread
      rw [if_pos (h.mpr rfl)]
      exact hread

/-- A header is read back, with two bytes of what is behind it taken off the payload. -/
theorem fromBytes_header {frame : IEEE802154Frame} (h : frame.WellFormed)
    (hpan : frame.SrcPanIdRead) (tail : List UInt8) :
    let data := frame.header (hasSrcPanId frame.frameControl) ++ tail
    fromBytes data = .ok { frame with
      payload := tail.take (tail.length - 2), fcs := some (data.drop (data.length - 2)) } := by
  have hcontrol := IEEE802154FrameControl.codec.read (a := frame.frameControl) trivial
  have hsequence := (codec_uint8.deserializeIf
    (!frame.frameControl.sequenceNumberSuppression)).read ⟨h.sequenceNumber, fun _ _ => trivial⟩
  have hdestPanId := (codec_uint16.deserializeIf (hasAddress frame.frameControl.destAddrMode)).read
    ⟨h.destPanId, fun _ _ => trivial⟩
  have hdestAddress := (codec_address frame.frameControl.destAddrMode).read h.destAddress
  have hsrcAddress := (codec_address frame.frameControl.srcAddrMode).read h.srcAddress
  simp only [fromBytes, header, List.append_assoc, hcontrol, hsequence, hdestPanId, hdestAddress,
    deserializeSrcPanId_read hpan, hsrcAddress, bind, Except.bind]

/-! ## Which frames are written again -/

/-- The frame control of a frame. -/
def controlOf (data : List UInt8) : IEEE802154FrameControl :=
  .ofBytes (data.getD 0 0) (data.getD 1 0)

/-- A command with a source PAN id and nothing but the command id of a beacon request. -/
def LosesSrcPanId (data : List UInt8) : Prop :=
  (controlOf data).frameType = .command ∧ (controlOf data).panIdCompression = false ∧
    data.length = headerLength (controlOf data) + 3 ∧
    data.getD (headerLength (controlOf data)) 0 = 0x07

theorem controlOf_header {frame : IEEE802154Frame} {srcPanId : Bool} (tail : List UInt8) :
    controlOf (frame.header srcPanId ++ tail) = frame.frameControl := by
  have hread := IEEE802154FrameControl.codec.read (a := frame.frameControl) trivial
    (encodeOptional (fun b => [b]) frame.sequenceNumber ++
      encodeOptional u16ToLeBytes frame.destPanId ++
      encodeOptional Address.serialize frame.destAddress ++
      (if srcPanId then encodeOptional u16ToLeBytes frame.srcPanId else []) ++
      encodeOptional Address.serialize frame.srcAddress ++ tail)
  have hcontrol := congrArg Prod.fst (Except.ok.inj hread)
  simp only [header, List.append_assoc]
  exact hcontrol

/-- Three bytes, of which the first is that of a beacon request, leave it as the payload. -/
theorem take_eq_beaconRequest_iff (tail : List UInt8) :
    tail.take (tail.length - 2) = [0x07] ↔ tail.length = 3 ∧ tail.getD 0 0 = 0x07 := by
  match tail with
  | [] => simp
  | [a] => simp
  | [a, b] => simp
  | [a, b, c] => simp
  | a :: b :: c :: d :: tail => simp

theorem losesSrcPanId_iff {data tail : List UInt8} {frame : IEEE802154Frame} (hwf : frame.WellFormed)
    (hdata : data = frame.header (hasSrcPanId frame.frameControl) ++ tail)
    (hpayload : frame.payload = tail.take (tail.length - 2)) :
    LosesSrcPanId data ↔ (hasSrcPanId frame.frameControl && frame.isBeaconRequest) = true := by
  have hheader := length_header hwf (hasSrcPanId frame.frameControl) id
  have hoffset : headerLength frame.frameControl =
      (frame.header (hasSrcPanId frame.frameControl)).length := by omega
  have hcontrol : controlOf data = frame.frameControl := by rw [hdata, controlOf_header]
  have hlen : data.length = headerLength frame.frameControl + 3 ↔ tail.length = 3 := by
    rw [hdata, List.length_append, hoffset]
    omega
  have hbyte : data.getD (headerLength frame.frameControl) 0 = tail.getD 0 0 := by
    rw [hdata, hoffset, getD_length_append]
  have hcommand : frame.frameControl.frameType = .command → frame.frameControl.panIdCompression = false →
      hasSrcPanId frame.frameControl = true := by
    intro htype hcompression
    rw [hasSrcPanId, htype, hcompression]
    rfl
  rw [LosesSrcPanId, hcontrol, hlen, hbyte, ← take_eq_beaconRequest_iff, ← hpayload,
    Bool.and_eq_true_iff, isBeaconRequest, Bool.and_eq_true_iff, beq_iff_eq, beq_iff_eq]
  constructor
  · rintro ⟨htype, hcompression, hbeacon⟩
    exact ⟨hcommand htype hcompression, htype, hbeacon⟩
  · rintro ⟨hhas, htype, hbeacon⟩
    refine ⟨htype, ?_, hbeacon⟩
    rw [hasSrcPanId, Bool.and_eq_true_iff] at hhas
    simpa using hhas.1

theorem keeps_of_not_both {hasPanId request : Bool} (h : (hasPanId && request) = false) :
    (hasPanId && !request) = hasPanId := by
  cases hasPanId with
  | false => rfl
  | true =>
    have hrequest : request = false := h
    rw [hrequest]
    rfl

/-- What is written is as long as its header and its payload, with the check sequence. -/
theorem length_of_serialize {frame : IEEE802154Frame} (hwf : frame.WellFormed)
    {written : List UInt8} (h : frame.serialize = .ok written) :
    written.length = (frame.header (hasSrcPanId frame.frameControl && !frame.isBeaconRequest)).length +
      frame.payload.length + 2 := by
  have hwritten := serialize_eq hwf
  dsimp only at hwritten
  rw [hwritten, computeFcs_eq_toLeBytes] at h
  cases h
  rw [List.length_append, List.length_append, length_u16ToLeBytes]

/-- Where the header leaves the check sequence, the payload is what is between them. -/
theorem header_append_payload {data tail : List UInt8} {frame : IEEE802154Frame}
    (hdata : data = frame.header (hasSrcPanId frame.frameControl) ++ tail)
    (hpayload : frame.payload = tail.take (tail.length - 2)) (hlong : 2 ≤ tail.length) :
    frame.header (hasSrcPanId frame.frameControl) ++ frame.payload =
      data.take (data.length - 2) := by
  have htake : data.length - 2 = (frame.header (hasSrcPanId frame.frameControl)).length +
      (tail.length - 2) := by
    rw [hdata, List.length_append]
    omega
  rw [htake, hdata, List.take_length_add_append, hpayload]

/-- A frame that ends with its check sequence and that the decoder accepts is written again as
    it was, exactly if its header leaves the two bytes of the check sequence and it does not
    lose a source PAN id. -/
theorem written_as_read_iff {data : List UInt8} {frame : IEEE802154Frame}
    (hfcs : computeFcs (data.take (data.length - 2)) = .ok (data.drop (data.length - 2)))
    (h : fromBytes data = .ok frame) :
    frame.serialize = .ok data ↔
      headerLength (controlOf data) + 2 ≤ data.length ∧ ¬ LosesSrcPanId data := by
  obtain ⟨hwf, tail, hdata, hpayload⟩ := of_fromBytes h
  have hcontrol : controlOf data = frame.frameControl := by rw [hdata, controlOf_header]
  have hheader := length_header hwf (hasSrcPanId frame.frameControl) id
  have hlen : data.length = headerLength frame.frameControl + tail.length := by
    rw [hdata, List.length_append]
    omega
  have hloses := losesSrcPanId_iff hwf hdata hpayload
  have hpayloadLength : frame.payload.length = tail.length - 2 := by
    rw [hpayload, List.length_take]
    omega
  rw [hcontrol]
  constructor
  · intro hserialize
    have hsame := length_of_serialize hwf hserialize
    -- a beacon request is written two bytes shorter, and short rests lead to longer frames
    cases hbeacon : hasSrcPanId frame.frameControl && frame.isBeaconRequest with
    | true =>
      exfalso
      obtain ⟨hhas, hrequest⟩ := Bool.and_eq_true_iff.mp hbeacon
      have hthree := (hloses.mpr hbeacon).2.2.1
      rw [hcontrol] at hthree
      rw [hhas, hrequest] at hsame
      have hshort := length_header hwf false (by simp)
      rw [hhas] at hshort
      simp only [Bool.toNat_true, Bool.toNat_false, Bool.not_true, Bool.and_false] at hshort hsame
      omega
    | false =>
      refine ⟨?_, ?_⟩
      · rw [keeps_of_not_both hbeacon] at hsame
        omega
      · rw [hloses, hbeacon]
        exact Bool.false_ne_true
  · rintro ⟨hlong, hnot⟩
    rw [hloses, Bool.not_eq_true] at hnot
    have hwritten := serialize_eq hwf
    dsimp only at hwritten
    rw [hwritten, keeps_of_not_both hnot, header_append_payload hdata hpayload (by omega), hfcs]
    exact congrArg Except.ok (List.take_append_drop _ _)

/-- The beacon request of `beacon_test.py:39-62`, with sequence number 1. -/
def beaconRequest : List UInt8 := [0x03, 0x08, 0x01, 0xff, 0xff, 0xff, 0xff, 0x07, 0x13, 0x2d]

/-- A command of a node `0x5678` in the PAN `0x1234`, with the payload of a beacon request. -/
def beaconRequestFromNode : List UInt8 :=
  [0x03, 0x88, 0x01, 0xff, 0xff, 0xff, 0xff, 0x34, 0x12, 0x78, 0x56, 0x07, 0x7b, 0x0e]

/-- The first is read with a byte of the check sequence in its source PAN id, the second is
    written without its source PAN id. -/
theorem beaconRequest_not_written :
    (∃ frame, computeFcs (beaconRequest.take 8) = .ok (beaconRequest.drop 8) ∧
      fromBytes beaconRequest = .ok frame ∧ frame.serialize ≠ .ok beaconRequest) ∧
    ∃ frame, computeFcs (beaconRequestFromNode.take 12) = .ok (beaconRequestFromNode.drop 12) ∧
      fromBytes beaconRequestFromNode = .ok frame ∧
      frame.serialize ≠ .ok beaconRequestFromNode := by
  constructor
  · exact ⟨_, by decide, rfl, by decide⟩
  · exact ⟨_, by decide, rfl, by decide⟩

/-- A data frame with one byte of payload. -/
def oneByteFrame : List UInt8 :=
  [0x61, 0x88, 0x01, 0x34, 0x12, 0x00, 0x00, 0x78, 0x56, 0xaa, 0xfc, 0xd3]

theorem written_as_read_iff_oneByteFrame :
    ∃ frame, fromBytes oneByteFrame = .ok frame ∧
      (frame.serialize = .ok oneByteFrame ↔
        headerLength (controlOf oneByteFrame) + 2 ≤ oneByteFrame.length ∧
          ¬ LosesSrcPanId oneByteFrame) :=
  ⟨_, rfl, written_as_read_iff (by decide) rfl⟩

end IEEE802154Frame

end ZigpySpinel.Python
