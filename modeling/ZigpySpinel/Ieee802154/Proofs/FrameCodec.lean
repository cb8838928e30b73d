import ZigpySpinel.Ieee802154.Frame

/-!
# The 802.15.4 frame codec

The decoder returns only frames whose fields are those that it looks for, and such a frame
is written as it was read. The encoder writes the source PAN id where there is one, while
the decoder looks for it in every data frame and in no other: the frames whose fields agree
with their frame control are read back exactly where the two rules coincide.
-/

namespace ZigpySpinel.Ieee802154
open Lib

/-! ## The frame control -/

/-- The frame controls whose version fits its two bits. -/
def Ieee802154FrameControl.WellFormed (control : Ieee802154FrameControl) : Prop :=
  control.frameVersion < 4

/-- The first byte of a frame control. -/
def Ieee802154FrameControl.byte0 (frameType : Ieee802154FrameType) (securityEnabled framePending
    ackRequest panIdCompression reserved : Bool) : UInt8 :=
  (frameType.toU8 <<< 0) ||| (securityEnabled.toUInt8 <<< 3) ||| (framePending.toUInt8 <<< 4) |||
    (ackRequest.toUInt8 <<< 5) ||| (panIdCompression.toUInt8 <<< 6) ||| (reserved.toUInt8 <<< 7)

/-- The second byte of a frame control. -/
def Ieee802154FrameControl.byte1 (sequenceNumberSuppression informationElementsPresent : Bool)
    (destAddrMode : Ieee802154AddressingMode) (frameVersion : UInt8)
    (srcAddrMode : Ieee802154AddressingMode) : UInt8 :=
  (sequenceNumberSuppression.toUInt8 <<< 0) ||| (informationElementsPresent.toUInt8 <<< 1) |||
    (destAddrMode.toU8 <<< 2) ||| (frameVersion <<< 4) ||| (srcAddrMode.toU8 <<< 6)

/-- All values of the two enumerations. -/
def Ieee802154FrameType.all : List Ieee802154FrameType := [.beacon, .data, .command, .ack]

def Ieee802154AddressingMode.all : List Ieee802154AddressingMode := [.none, .short, .long]

theorem Ieee802154FrameType.mem_all (frameType : Ieee802154FrameType) : frameType ∈ all := by
  cases frameType <;> decide

theorem Ieee802154AddressingMode.mem_all (mode : Ieee802154AddressingMode) : mode ∈ all := by
  cases mode <;> decide

theorem Ieee802154FrameType.toU8_of_tryFrom {value : UInt8} {frameType : Ieee802154FrameType}
    (h : tryFrom value = .ok frameType) : frameType.toU8 = value := by
  unfold tryFrom at h
  split_ifs at h
  all_goals
    cases h
    symm
    assumption

theorem Ieee802154AddressingMode.toU8_of_tryFrom {value : UInt8} {mode : Ieee802154AddressingMode}
    (h : tryFrom value = .ok mode) : mode.toU8 = value := by
  unfold tryFrom at h
  split_ifs at h
  all_goals
    cases h
    symm
    assumption

theorem Ieee802154FrameControl.byte0_read :
    ∀ frameType ∈ Ieee802154FrameType.all,
      ∀ securityEnabled framePending ackRequest panIdCompression reserved : Bool,
        let b := byte0 frameType securityEnabled framePending ackRequest panIdCompression reserved
        Ieee802154FrameType.tryFrom (b &&& 0b00000111) = .ok frameType ∧
          ((b &&& 0b00001000) != 0) = securityEnabled ∧ ((b &&& 0b00010000) != 0) = framePending ∧
          ((b &&& 0b00100000) != 0) = ackRequest ∧ ((b &&& 0b01000000) != 0) = panIdCompression ∧
          ((b &&& 0b10000000) != 0) = reserved := by
  decide +kernel

theorem Ieee802154FrameControl.byte0_write {b : UInt8} {frameType : Ieee802154FrameType}
    (h : Ieee802154FrameType.tryFrom (b &&& 0b00000111) = .ok frameType) :
    byte0 frameType ((b &&& 0b00001000) != 0) ((b &&& 0b00010000) != 0)
      ((b &&& 0b00100000) != 0) ((b &&& 0b01000000) != 0) ((b &&& 0b10000000) != 0) = b := by
  rw [byte0, Ieee802154FrameType.toU8_of_tryFrom h, and_twoPow_bne b _ 3 rfl,
    and_twoPow_bne b _ 4 rfl, and_twoPow_bne b _ 5 rfl, and_twoPow_bne b _ 6 rfl,
    and_twoPow_bne b _ 7 rfl]
  apply eq_of_bits
  all_goals simp

theorem Ieee802154FrameControl.byte1_read :
    ∀ frameVersion : UInt8, frameVersion < 4 → ∀ destAddrMode ∈ Ieee802154AddressingMode.all,
      ∀ srcAddrMode ∈ Ieee802154AddressingMode.all, ∀ suppression elements : Bool,
        let b := byte1 suppression elements destAddrMode frameVersion srcAddrMode
        Ieee802154AddressingMode.tryFrom ((b >>> 2) &&& 0b00000011) = .ok destAddrMode ∧
          Ieee802154AddressingMode.tryFrom ((b >>> 6) &&& 0b00000011) = .ok srcAddrMode ∧
          ((b &&& 0b00000001) != 0) = suppression ∧ ((b &&& 0b00000010) != 0) = elements ∧
          (b >>> 4) &&& 0b00000011 = frameVersion := by
  decide +kernel

theorem Ieee802154FrameControl.byte1_write {b : UInt8}
    {destAddrMode srcAddrMode : Ieee802154AddressingMode}
    (hdest : Ieee802154AddressingMode.tryFrom ((b >>> 2) &&& 0b00000011) = .ok destAddrMode)
    (hsrc : Ieee802154AddressingMode.tryFrom ((b >>> 6) &&& 0b00000011) = .ok srcAddrMode) :
    byte1 ((b &&& 0b00000001) != 0) ((b &&& 0b00000010) != 0) destAddrMode
        ((b >>> 4) &&& 0b00000011) srcAddrMode = b ∧
      (b >>> 4) &&& 0b00000011 < 4 := by
  refine ⟨?_, and_lt_of_lt _ (by decide)⟩
  rw [byte1, Ieee802154AddressingMode.toU8_of_tryFrom hdest,
    Ieee802154AddressingMode.toU8_of_tryFrom hsrc, and_twoPow_bne b _ 0 rfl,
    and_twoPow_bne b _ 1 rfl]
  apply eq_of_bits
  all_goals simp

theorem Ieee802154FrameControl.codec :
    Codec Ieee802154FrameControl.WellFormed Ieee802154FrameControl.toBytes
      Ieee802154FrameControl.deserialize where
  decode_encode control rest h := by
    rcases control with ⟨frameType, securityEnabled, framePending, ackRequest, panIdCompression,
      reserved, suppression, elements, destAddrMode, frameVersion, srcAddrMode⟩
    obtain ⟨hframeType, h3, h4, h5, h6, h7⟩ :=
      byte0_read frameType frameType.mem_all securityEnabled framePending ackRequest
        panIdCompression reserved
    obtain ⟨hdest, hsrc, h0, h1, hversion⟩ :=
      byte1_read frameVersion h destAddrMode destAddrMode.mem_all srcAddrMode srcAddrMode.mem_all
        suppression elements
    show deserialize (byte0 frameType securityEnabled framePending ackRequest panIdCompression
      reserved :: byte1 suppression elements destAddrMode frameVersion srcAddrMode :: rest) = _
    simp only [deserialize, hframeType, hdest, hsrc, h0, h1, h3, h4, h5, h6, h7, hversion,
      Outcome.ok_bind]
  encode_decode bytes control rest h := by
    match bytes with
    | [] => cases h
    | [_] => cases h
    | b0 :: b1 :: bytes =>
      simp only [deserialize, Outcome.bind_eq_ok] at h
      rcases h with ⟨frameType, hframeType, destAddrMode, hdest, srcAddrMode, hsrc, h⟩
      simp only [Outcome.ok.injEq, Prod.mk.injEq] at h
      rcases h with ⟨rfl, rfl⟩
      have h0 := byte0_write hframeType
      obtain ⟨h1, hversion⟩ := byte1_write hdest hsrc
      refine ⟨hversion, ?_⟩
      show b0 :: b1 :: bytes = byte0 _ _ _ _ _ _ :: byte1 _ _ _ _ _ :: bytes
      rw [h0, h1]

/-! ## Addresses -/

/-- The addressing mode of an address, or of none. -/
def addressingMode : Option Ieee802154Address → Ieee802154AddressingMode
  | none => .none
  | some (.nwk _) => .short
  | some (.eui64 _) => .long

theorem codec_address (mode : Ieee802154AddressingMode) :
    Codec (fun address => addressingMode address = mode)
      (encodeOptional Ieee802154Address.toBytes)
      (Ieee802154Frame.deserializeAddress mode) where
  decode_encode address rest h := by
    subst h
    cases address with
    | none => rfl
    | some address =>
      cases address with
      | nwk nwk =>
        have hread := Nwk.codec.decode_encode nwk rest trivial
        show (Nwk.deserialize (nwk.toBytes ++ rest) >>= _) = _
        rw [hread]
        rfl
      | eui64 eui64 =>
        have hread := Eui64.codec.decode_encode eui64 rest trivial
        show (Eui64.deserialize (eui64.toBytes ++ rest) >>= _) = _
        rw [hread]
        rfl
  encode_decode bytes address rest h := by
    cases mode with
    | none =>
      simp only [Ieee802154Frame.deserializeAddress, Outcome.ok.injEq, Prod.mk.injEq] at h
      rcases h with ⟨rfl, rfl⟩
      exact ⟨rfl, rfl⟩
    | short =>
      simp only [Ieee802154Frame.deserializeAddress, Outcome.bind_eq_ok] at h
      rcases h with ⟨⟨nwk, remaining⟩, hread, h⟩
      simp only [Outcome.ok.injEq, Prod.mk.injEq] at h
      rcases h with ⟨rfl, rfl⟩
      exact ⟨rfl, (Nwk.codec.encode_decode _ _ _ hread).2⟩
    | long =>
      simp only [Ieee802154Frame.deserializeAddress, Outcome.bind_eq_ok] at h
      rcases h with ⟨⟨eui64, remaining⟩, hread, h⟩
      simp only [Outcome.ok.injEq, Prod.mk.injEq] at h
      rcases h with ⟨rfl, rfl⟩
      exact ⟨rfl, (Eui64.codec.encode_decode _ _ _ hread).2⟩

/-- The source PAN id as the decoder looks for it: that of the destination where the PAN ids
    are compressed, else one of its own in every data frame. -/
theorem codec_srcPanId (control : Ieee802154FrameControl) (destPanId : Option PanId) :
    Codec
      (fun srcPanId =>
        if control.panIdCompression then srcPanId = destPanId
        else control.frameType = .data ↔ srcPanId.isSome)
      (fun srcPanId =>
        if !control.panIdCompression then encodeOptional PanId.toBytes srcPanId else [])
      (Ieee802154Frame.deserializeSrcPanId control destPanId) := by
  have hpan := PanId.codec.optional (control.frameType == .data)
  unfold Ieee802154Frame.deserializeSrcPanId
  cases hcompression : control.panIdCompression with
  | true =>
    refine ⟨?_, ?_⟩
    · intro srcPanId rest h
      have hsame : srcPanId = destPanId := by simpa using h
      subst hsame
      rfl
    · intro bytes srcPanId rest h
      simp only [if_true, Outcome.ok.injEq, Prod.mk.injEq] at h
      rcases h with ⟨rfl, rfl⟩
      exact ⟨by simp, rfl⟩
  | false =>
    refine ⟨?_, ?_⟩
    · intro srcPanId rest h
      refine hpan.decode_encode srcPanId rest ⟨?_, fun _ _ => trivial⟩
      simpa using h
    · intro bytes srcPanId rest h
      obtain ⟨⟨hflag, -⟩, hbytes⟩ := hpan.encode_decode bytes srcPanId rest h
      exact ⟨by simpa using hflag, hbytes⟩

namespace Ieee802154Frame

/-! ## The fields -/

/-- The frames whose fields are those that the decoder looks for. -/
structure Decodable (frame : Ieee802154Frame) : Prop where
  frameControl : frame.frameControl.WellFormed
  sequenceNumber : frame.frameControl.sequenceNumberSuppression = false ↔
    frame.sequenceNumber.isSome
  destPanId : frame.frameControl.destAddrMode ≠ .none ↔ frame.destPanId.isSome
  destAddress : addressingMode frame.destAddress = frame.frameControl.destAddrMode
  srcPanId :
    if frame.frameControl.panIdCompression then frame.srcPanId = frame.destPanId
    else frame.frameControl.frameType = .data ↔ frame.srcPanId.isSome
  srcAddress : addressingMode frame.srcAddress = frame.frameControl.srcAddrMode

/-- The frames whose fields agree with their frame control. -/
structure WellFormed (frame : Ieee802154Frame) : Prop where
  frameVersion : frame.frameControl.frameVersion < 4
  sequenceNumber : frame.frameControl.sequenceNumberSuppression = false ↔
    frame.sequenceNumber.isSome
  destPanId : frame.frameControl.destAddrMode ≠ .none ↔ frame.destPanId.isSome
  destAddress : addressingMode frame.destAddress = frame.frameControl.destAddrMode
  srcPanId :
    if frame.frameControl.panIdCompression then frame.srcPanId = frame.destPanId
    else frame.frameControl.srcAddrMode ≠ .none ↔ frame.srcPanId.isSome
  srcAddress : addressingMode frame.srcAddress = frame.frameControl.srcAddrMode

/-- The decoder's rule for the source PAN id and that of the fields coincide: the PAN ids are
    compressed, or the data frames are those with a source address. -/
def SourceRulesAgree (control : Ieee802154FrameControl) : Prop :=
  control.panIdCompression = true ∨ (control.frameType = .data ↔ control.srcAddrMode ≠ .none)

/-- A frame whose fields agree with its frame control is one that the decoder looks for
    exactly where the two rules coincide. -/
theorem WellFormed.decodable_iff {frame : Ieee802154Frame} (h : frame.WellFormed) :
    frame.Decodable ↔ SourceRulesAgree frame.frameControl := by
  have hrule := h.srcPanId
  constructor
  · intro hdecodable
    have hread := hdecodable.srcPanId
    by_cases hcompression : frame.frameControl.panIdCompression = true
    · exact Or.inl hcompression
    · rw [if_neg hcompression] at hrule hread
      exact Or.inr (hread.trans hrule.symm)
  · intro hagree
    refine ⟨h.frameVersion, h.sequenceNumber, h.destPanId, h.destAddress, ?_, h.srcAddress⟩
    by_cases hcompression : frame.frameControl.panIdCompression = true
    · rw [if_pos hcompression] at hrule ⊢
      exact hrule
    · rw [if_neg hcompression] at hrule ⊢
      rcases hagree with hcompressed | hsame
      · exact absurd hcompressed hcompression
      · exact hsame.trans hrule

theorem deserializeFields_body {frame : Ieee802154Frame} (h : frame.Decodable) (fcs : UInt16) :
    deserializeFields frame.body fcs = .ok { frame with fcs := fcs } := by
  rcases frame with ⟨control, sequenceNumber, destPanId, destAddress, srcPanId, srcAddress, payload,
    oldFcs⟩
  have hsequence := (codec_takeByte (ε := String) |>.optional
    (!control.sequenceNumberSuppression)).decode_encode sequenceNumber
  have hdestPan := (PanId.codec.optional (control.destAddrMode != .none)).decode_encode destPanId
  have hdestAddress := (codec_address control.destAddrMode).decode_encode destAddress
  have hsrcPan := (codec_srcPanId control destPanId).decode_encode srcPanId
  have hsrcAddress := (codec_address control.srcAddrMode).decode_encode srcAddress
  have hsequenceFlag : (!control.sequenceNumberSuppression) = true ↔ sequenceNumber.isSome := by
    simpa using h.sequenceNumber
  have hdestFlag : (control.destAddrMode != .none) = true ↔ destPanId.isSome := by
    simpa using h.destPanId
  simp only [body, deserializeFields, List.append_assoc,
    Ieee802154FrameControl.codec.decode_encode _ _ h.frameControl,
    hsequence _ ⟨hsequenceFlag, fun _ _ => trivial⟩, hdestPan _ ⟨hdestFlag, fun _ _ => trivial⟩,
    hdestAddress _ h.destAddress, hsrcPan _ h.srcPanId, hsrcAddress _ h.srcAddress,
    Outcome.ok_bind]

theorem of_deserializeFields {bytes : List UInt8} {fcs : UInt16} {frame : Ieee802154Frame}
    (h : deserializeFields bytes fcs = .ok frame) :
    frame.Decodable ∧ bytes = frame.body ∧ frame.fcs = fcs := by
  simp only [deserializeFields, Outcome.bind_eq_ok] at h
  rcases h with ⟨⟨control, r1⟩, hcontrol, ⟨sequenceNumber, r2⟩, hsequence, ⟨destPanId, r3⟩, hdestPan,
    ⟨destAddress, r4⟩, hdestAddress, ⟨srcPanId, r5⟩, hsrcPan, ⟨srcAddress, r6⟩, hsrcAddress, h⟩
  cases h
  obtain ⟨hwf, rfl⟩ := Ieee802154FrameControl.codec.encode_decode _ _ _ hcontrol
  obtain ⟨⟨hsequenceFlag, -⟩, rfl⟩ := (codec_takeByte.optional _).encode_decode _ _ _ hsequence
  obtain ⟨⟨hdestFlag, -⟩, rfl⟩ := (PanId.codec.optional _).encode_decode _ _ _ hdestPan
  obtain ⟨hdest, rfl⟩ := (codec_address _).encode_decode _ _ _ hdestAddress
  obtain ⟨hsrcRule, hsrcPanBytes⟩ := (codec_srcPanId control destPanId).encode_decode _ _ _ hsrcPan
  obtain ⟨hsrc, hsrcBytes⟩ := (codec_address control.srcAddrMode).encode_decode _ _ _ hsrcAddress
  dsimp only at hsrcPanBytes hsrcBytes
  subst hsrcPanBytes hsrcBytes
  refine ⟨⟨hwf, ?_, ?_, hdest, hsrcRule, hsrc⟩, ?_, rfl⟩
  · simpa using hsequenceFlag
  · simpa using hdestFlag
  · simp only [body, List.append_assoc]

/-! ## The check of the frame check sequence -/

theorem fromBytes_append {data : List UInt8} (hlen : 2 ≤ data.length) (fcs : UInt16) :
    fromBytes (data ++ u16ToLeBytes fcs) =
      if computeFcs data ≠ fcs then .err "Invalid FCS" else deserializeFields data fcs := by
  obtain ⟨lo, hi, hbytes, hfcs⟩ := u16ToLeBytes_eq fcs
  have htotal : (data ++ [lo, hi]).length = data.length + 2 := List.length_append
  have hlong : ¬ (data ++ [lo, hi]).length < 2 + 2 := by omega
  rw [hbytes, fromBytes, if_neg hlong, htotal, Nat.add_sub_cancel, List.drop_left, List.take_left]
  simp only [hfcs]

/-- What is long enough to be checked is the data of a frame and its two last bytes. -/
theorem exists_append_fcs {bytes : List UInt8} (hlen : 4 ≤ bytes.length) :
    ∃ data fcs, bytes = data ++ u16ToLeBytes fcs ∧ 2 ≤ data.length := by
  have hdrop : (bytes.drop (bytes.length - 2)).length = 2 := by
    rw [List.length_drop]
    omega
  obtain ⟨lo, hi, hlast⟩ := List.length_eq_two.mp hdrop
  refine ⟨bytes.take (bytes.length - 2), u16FromLeBytes lo hi, ?_, ?_⟩
  · rw [u16ToLeBytes_fromLeBytes, ← hlast, List.take_append_drop]
  · rw [List.length_take]
    omega

theorem two_le_length_body (frame : Ieee802154Frame) : 2 ≤ frame.body.length := by
  have hcontrol : frame.frameControl.toBytes.length = 2 := rfl
  simp only [body, List.length_append, hcontrol]
  omega

/-- A decoded frame is one that the decoder looks for, and the bytes are its encoding. -/
theorem of_fromBytes {bytes : List UInt8} {frame : Ieee802154Frame}
    (h : fromBytes bytes = .ok frame) : frame.Decodable ∧ frame.toBytes = bytes := by
  by_cases hlen : bytes.length < 2 + 2
  · rw [fromBytes, if_pos hlen] at h
    cases h
  · obtain ⟨data, fcs, rfl, hdata⟩ := exists_append_fcs (Nat.not_lt.mp hlen)
    rw [fromBytes_append hdata] at h
    by_cases hfcs : computeFcs data = fcs
    · rw [if_neg (not_not.mpr hfcs)] at h
      obtain ⟨hdecodable, rfl, -⟩ := of_deserializeFields h
      rw [toBytes, hfcs]
      exact ⟨hdecodable, rfl⟩
    · rw [if_pos hfcs] at h
      cases h

theorem fromBytes_toBytes {frame : Ieee802154Frame} (h : frame.Decodable) :
    fromBytes frame.toBytes = .ok { frame with fcs := computeFcs frame.body } := by
  rw [toBytes, fromBytes_append frame.two_le_length_body, if_neg (not_not.mpr rfl),
    deserializeFields_body h]

/-! ## Both directions -/

/-- Every byte string that decodes is the encoding of what it decodes to, the frame check
    sequence included. -/
theorem toBytes_of_fromBytes {bytes : List UInt8} {frame : Ieee802154Frame}
    (h : fromBytes bytes = .ok frame) : frame.toBytes = bytes :=
  (of_fromBytes h).2

/-- The frame of `test_frame_ack` (`ieee_802154.rs:404-438`). -/
def ackFrame : Ieee802154Frame where
  frameControl := {
    frameType := .ack
    securityEnabled := false
    framePending := false
    ackRequest := false
    panIdCompression := false
    reserved := false
    sequenceNumberSuppression := false
    informationElementsPresent := false
    destAddrMode := .none
    frameVersion := 0
    srcAddrMode := .none }
  sequenceNumber := some 209
  destPanId := none
  destAddress := none
  srcPanId := none
  srcAddress := none
  payload := []
  fcs := 0x72BC

theorem toBytes_of_fromBytes_ack : ackFrame.toBytes = [0x02, 0x00, 0xd1, 0xbc, 0x72] :=
  toBytes_of_fromBytes (by decide)

/-- A frame whose fields agree with its frame control is read back, with its frame check
    sequence computed again, exactly where the encoder and the decoder agree on the source
    PAN id. -/
theorem encode_decode_iff {frame : Ieee802154Frame} (h : frame.WellFormed) :
    fromBytes frame.toBytes = .ok { frame with fcs := computeFcs frame.body } ↔
      SourceRulesAgree frame.frameControl := by
  rw [← h.decodable_iff]
  constructor
  · intro hread
    obtain ⟨hdecodable, -⟩ := of_fromBytes hread
    exact ⟨hdecodable.frameControl, hdecodable.sequenceNumber, hdecodable.destPanId,
      hdecodable.destAddress, hdecodable.srcPanId, hdecodable.srcAddress⟩
  · exact fromBytes_toBytes

/-- The request of a device to associate: a command with a source address in a PAN of its
    own, so that the PAN ids are not compressed. -/
def associationRequest : Ieee802154Frame where
  frameControl := {
    frameType := .command
    securityEnabled := false
    framePending := false
    ackRequest := true
    panIdCompression := false
    reserved := false
    sequenceNumberSuppression := false
    informationElementsPresent := false
    destAddrMode := .short
    frameVersion := 0
    srcAddrMode := .long }
  sequenceNumber := some 1
  destPanId := some ⟨0x3EF5⟩
  destAddress := some (.nwk ⟨0x0000⟩)
  srcPanId := some ⟨0xFFFF⟩
  srcAddress := some (.eui64 ⟨⟨[0x02, 0x3c, 0x71, 0x0c, 0x01, 0x88, 0x17, 0x00], rfl⟩⟩)
  payload := [0x01, 0x8e]
  fcs := 0

theorem associationRequest_wellFormed : associationRequest.WellFormed := by
  constructor <;> decide

/-- Both sides hold of the frame of `test_frame_ack`, and neither of an association
    request. -/
theorem encode_decode_iff_ack :
    (fromBytes ackFrame.toBytes = .ok { ackFrame with fcs := computeFcs ackFrame.body } ↔
      SourceRulesAgree ackFrame.frameControl) ∧
    (fromBytes associationRequest.toBytes =
        .ok { associationRequest with fcs := computeFcs associationRequest.body } ↔
      SourceRulesAgree associationRequest.frameControl) := by
  have hack : ackFrame.WellFormed := by constructor <;> decide
  exact ⟨encode_decode_iff hack, encode_decode_iff associationRequest_wellFormed⟩

/-- The PAN id of the association request is read as the first two bytes of its address. -/
theorem associationRequest_misread :
    ¬ ∀ frame : Ieee802154Frame, frame.WellFormed →
      fromBytes frame.toBytes = .ok { frame with fcs := computeFcs frame.body } := by
  intro h
  have hread := h associationRequest associationRequest_wellFormed
  revert hread
  decide

end Ieee802154Frame

end ZigpySpinel.Ieee802154
