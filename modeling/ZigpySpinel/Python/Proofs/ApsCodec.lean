import ZigpySpinel.Python.ZigbeeParsing

/-!
# Application support frames in the Python package: reading and writing

A frame control fills its byte, and no field of the frame depends on another. So a byte
string is read as a frame exactly if it is what this frame is written as, and every byte
string of at least eight bytes is read as some frame.
-/

namespace ZigpySpinel.Python
open Lib

/-! ## The frame control -/

theorem ZigbeeApsFrameType.value_ofBits (bits : BitVec 2) : (ofBits bits).value = bits.toNat := by
  revert bits
  decide

theorem ZigbeeApsDeliveryMode.value_ofBits (bits : BitVec 2) :
    (ofBits bits).value = bits.toNat := by
  revert bits
  decide

/-- The byte of a frame control. -/
def ZigbeeApsFrameControl.byte (frameType : ZigbeeApsFrameType)
    (deliveryMode : ZigbeeApsDeliveryMode) (reserved security ackRequest extendedHeader : Bool) :
    UInt8 :=
  UInt8.ofNat (frameType.value + 4 * deliveryMode.value + 16 * reserved.toNat +
    32 * security.toNat + 64 * ackRequest.toNat + 128 * extendedHeader.toNat)

theorem ZigbeeApsFrameControl.byte_read (frameType : ZigbeeApsFrameType)
    (deliveryMode : ZigbeeApsDeliveryMode) :
    ∀ reserved security ackRequest extendedHeader : Bool,
      let b := byte frameType deliveryMode reserved security ackRequest extendedHeader
      ZigbeeApsFrameType.ofBits (BitVec.ofNat 2 b.toNat) = frameType ∧
        ZigbeeApsDeliveryMode.ofBits (BitVec.ofNat 2 (b.toNat / 2 ^ 2)) = deliveryMode ∧
        b.toNat.testBit 4 = reserved ∧ b.toNat.testBit 5 = security ∧
        b.toNat.testBit 6 = ackRequest ∧ b.toNat.testBit 7 = extendedHeader := by
  cases frameType <;> cases deliveryMode <;> decide

theorem ZigbeeApsFrameControl.byte_write (b : UInt8) :
    byte (.ofBits (BitVec.ofNat 2 b.toNat)) (.ofBits (BitVec.ofNat 2 (b.toNat / 2 ^ 2)))
      (b.toNat.testBit 4) (b.toNat.testBit 5) (b.toNat.testBit 6) (b.toNat.testBit 7) = b := by
  have hlt : b.toNat < 256 := b.toNat_lt
  rw [byte, ZigbeeApsFrameType.value_ofBits, ZigbeeApsDeliveryMode.value_ofBits]
  simp only [Nat.toNat_testBit, BitVec.toNat_ofNat]
  refine ofNat_eq_of_eq_toNat ?_
  omega

theorem ZigbeeApsFrameControl.codec :
    PyCodec (fun _ => True) ZigbeeApsFrameControl.serialize ZigbeeApsFrameControl.deserialize where
  decode_encode control rest _ := by
    rcases control with ⟨frameType, deliveryMode, reserved, security, ackRequest, extendedHeader⟩
    obtain ⟨htype, hmode, h4, h5, h6, h7⟩ :=
      byte_read frameType deliveryMode reserved security ackRequest extendedHeader
    rw [byte] at htype hmode h4 h5 h6 h7
    simp only [serialize, List.cons_append, List.nil_append, toStep, deserialize, htype, hmode, h4,
      h5, h6, h7, Outcome.ofExcept]
  encode_decode data control rest h := by
    cases data with
    | nil => cases h
    | cons b data =>
      cases h
      have hbyte := byte_write b
      rw [byte] at hbyte
      refine ⟨trivial, ?_⟩
      rw [serialize, hbyte]
      rfl

/-! ## The frame -/

/-- A byte string is read as a frame exactly if the frame is written as this byte string. -/
theorem ZigbeeApsFrame.fromBytes_eq_ok_iff {data : List UInt8} {frame : ZigbeeApsFrame} :
    fromBytes data = .ok frame ↔ frame.serialize = data := by
  constructor
  · intro h
    simp only [fromBytes, except_bind_eq_ok] at h
    obtain ⟨⟨control, r1⟩, hcontrol, ⟨destinationEndpoint, r2⟩, hdestination, ⟨clusterId, r3⟩,
      hcluster, ⟨profileId, r4⟩, hprofile, ⟨sourceEndpoint, r5⟩, hsource, ⟨counter, r6⟩, hcounter,
      h⟩ := h
    cases h
    obtain ⟨-, rfl⟩ := ZigbeeApsFrameControl.codec.written hcontrol
    obtain ⟨-, rfl⟩ := codec_uint8.written hdestination
    obtain ⟨-, rfl⟩ := codec_uint16.written hcluster
    obtain ⟨-, rfl⟩ := codec_uint16.written hprofile
    obtain ⟨-, rfl⟩ := codec_uint8.written hsource
    obtain ⟨-, rfl⟩ := codec_uint8.written hcounter
    simp only [serialize, List.append_assoc]
  · rintro rfl
    have hcontrol := ZigbeeApsFrameControl.codec.read (a := frame.frameControl) trivial
    simp only [fromBytes, serialize, List.append_assoc, hcontrol, codec_uint8.read trivial,
      codec_uint16.read trivial, bind, Except.bind]

theorem ZigbeeApsFrame.fromBytes_serialize (frame : ZigbeeApsFrame) :
    fromBytes frame.serialize = .ok frame := fromBytes_eq_ok_iff.mpr rfl

theorem ZigbeeApsFrame.length_serialize (frame : ZigbeeApsFrame) :
    frame.serialize.length = 8 + frame.asdu.length := by
  simp only [serialize, ZigbeeApsFrameControl.serialize, List.length_append, List.length_cons,
    List.length_nil, length_u16ToLeBytes]

/-- A byte string is read as some frame exactly if it has the eight bytes of a header. -/
theorem ZigbeeApsFrame.fromBytes_returns_iff (data : List UInt8) :
    (∃ frame, fromBytes data = .ok frame) ↔ 8 ≤ data.length := by
  constructor
  · rintro ⟨frame, h⟩
    rw [← fromBytes_eq_ok_iff.mp h, length_serialize]
    omega
  · intro h
    match data, h with
    | b0 :: b1 :: b2 :: b3 :: b4 :: b5 :: b6 :: b7 :: asdu, _ => exact ⟨_, rfl⟩

end ZigpySpinel.Python
