import ZigpySpinel.Zigbee.Aps

/-!
# When an application support frame is read back

The frame control is read back as it was written. The two ids are written high byte first
and read low byte first, so that a frame comes back with the bytes of its ids exchanged.
-/

namespace ZigpySpinel.Zigbee
open Lib

/-! ## The frame control -/

/-- The byte of a frame control. -/
def ApsFrameControl.byte (frameType : ApsFrameType) (deliveryMode : ApsDeliveryMode)
    (reserved : UInt8) (security ackRequest extendedHeader : Bool) : UInt8 :=
  ((frameType.toU8 &&& 0b11) <<< 0) ||| ((deliveryMode.toU8 &&& 0b11) <<< 2) |||
    ((reserved &&& 0b1) <<< 4) ||| ((security.toUInt8 &&& 0b1) <<< 5) |||
    ((ackRequest.toUInt8 &&& 0b1) <<< 6) ||| ((extendedHeader.toUInt8 &&& 0b1) <<< 7)

/-- All values of the two enumerations of a frame control. -/
def ApsFrameType.all : List ApsFrameType := [.data, .command, .interpan]

def ApsDeliveryMode.all : List ApsDeliveryMode := [.unicast, .broadcast, .multicast]

theorem ApsFrameType.mem_all (frameType : ApsFrameType) : frameType ∈ all := by
  cases frameType <;> decide

theorem ApsDeliveryMode.mem_all (deliveryMode : ApsDeliveryMode) : deliveryMode ∈ all := by
  cases deliveryMode <;> decide

theorem ApsFrameControl.byte_read :
    ∀ reserved : UInt8, reserved < 2 → ∀ frameType ∈ ApsFrameType.all,
      ∀ deliveryMode ∈ ApsDeliveryMode.all, ∀ security ackRequest extendedHeader : Bool,
        let b := byte frameType deliveryMode reserved security ackRequest extendedHeader
        ApsFrameType.tryFrom ((b >>> 0) &&& 0b11) = .ok frameType ∧
          ApsDeliveryMode.tryFrom ((b >>> 2) &&& 0b11) = .ok deliveryMode ∧
          (b >>> 4) &&& 0b1 = reserved ∧ ((b >>> 5) &&& 0b1 == 1) = security ∧
          ((b >>> 6) &&& 0b1 == 1) = ackRequest ∧ ((b >>> 7) &&& 0b1 == 1) = extendedHeader := by
  decide +kernel

theorem ApsFrameType.toU8_of_tryFrom {value : UInt8} {frameType : ApsFrameType}
    (h : tryFrom value = .ok frameType) : frameType.toU8 = value := by
  unfold tryFrom at h
  split_ifs at h
  all_goals
    cases h
    symm
    assumption

theorem ApsDeliveryMode.toU8_of_tryFrom {value : UInt8} {deliveryMode : ApsDeliveryMode}
    (h : tryFrom value = .ok deliveryMode) : deliveryMode.toU8 = value := by
  unfold tryFrom at h
  split_ifs at h
  all_goals
    cases h
    symm
    assumption

/-- A byte is written as it was read, unless one of its enumerations is rejected. -/
theorem ApsFrameControl.byte_write {b : UInt8} {frameType : ApsFrameType}
    {deliveryMode : ApsDeliveryMode}
    (hframeType : ApsFrameType.tryFrom ((b >>> 0) &&& 0b11) = .ok frameType)
    (hdeliveryMode : ApsDeliveryMode.tryFrom ((b >>> 2) &&& 0b11) = .ok deliveryMode) :
    byte frameType deliveryMode ((b >>> 4) &&& 0b1) ((b >>> 5) &&& 0b1 == 1)
        ((b >>> 6) &&& 0b1 == 1) ((b >>> 7) &&& 0b1 == 1) = b ∧
      (b >>> 4) &&& 0b1 < 2 := by
  refine ⟨?_, and_lt_of_lt _ (by decide)⟩
  rw [byte, ApsFrameType.toU8_of_tryFrom hframeType, ApsDeliveryMode.toU8_of_tryFrom hdeliveryMode,
    shiftRight_and_one_beq b 5 (by decide), shiftRight_and_one_beq b 6 (by decide),
    shiftRight_and_one_beq b 7 (by decide)]
  apply eq_of_bits
  all_goals simp

theorem ApsFrameControl.codec :
    Codec (fun control : ApsFrameControl => control.reserved < 2) ApsFrameControl.toBytes
      ApsFrameControl.deserialize where
  decode_encode control rest h := by
    rcases control with ⟨frameType, deliveryMode, reserved, security, ackRequest, extendedHeader⟩
    obtain ⟨hframeType, hdeliveryMode, h4, h5, h6, h7⟩ :=
      byte_read reserved h frameType frameType.mem_all deliveryMode deliveryMode.mem_all security
        ackRequest extendedHeader
    show deserialize (byte frameType deliveryMode reserved security ackRequest extendedHeader ::
      rest) = _
    simp only [deserialize, hframeType, hdeliveryMode, h4, h5, h6, h7, Outcome.ok_bind]
  encode_decode bytes control rest h := by
    cases bytes with
    | nil => cases h
    | cons b bytes =>
      simp only [deserialize, Outcome.bind_eq_ok] at h
      rcases h with ⟨frameType, hframeType, deliveryMode, hdeliveryMode, h⟩
      simp only [Outcome.ok.injEq, Prod.mk.injEq] at h
      rcases h with ⟨rfl, rfl⟩
      obtain ⟨hbyte, hreserved⟩ := byte_write hframeType hdeliveryMode
      refine ⟨hreserved, ?_⟩
      show b :: bytes = byte _ _ _ _ _ _ :: bytes
      rw [hbyte]

/-! ## The ids -/

/-- The high and the low byte of an id are the same. -/
def SameBytes (id : UInt16) : Prop := id.toNat / 256 = id.toNat % 256

theorem toNat_u16FromLeBytes (b0 b1 : UInt8) :
    (u16FromLeBytes b0 b1).toNat = b0.toNat + 256 * b1.toNat := by
  have h0 : b0.toNat < 256 := b0.toNat_lt
  have h1 : b1.toNat < 256 := b1.toNat_lt
  have hlt : ofLe [b0, b1] < 2 ^ 16 := by
    simp only [ofLe]
    omega
  rw [u16FromLeBytes, UInt16.toNat_ofNat', Nat.mod_eq_of_lt hlt]
  simp only [ofLe]
  omega

theorem sameBytes_fromLeBytes (b0 b1 : UInt8) : SameBytes (u16FromLeBytes b0 b1) ↔ b0 = b1 := by
  have h0 : b0.toNat < 256 := b0.toNat_lt
  have h1 : b1.toNat < 256 := b1.toNat_lt
  rw [SameBytes, toNat_u16FromLeBytes, ← UInt8.toNat_inj]
  omega

/-- The big-endian bytes of an id that was read low byte first. -/
theorem u16ToBeBytes_fromLeBytes (b0 b1 : UInt8) :
    u16ToBeBytes (u16FromLeBytes b0 b1) = [b1, b0] :=
  congrArg List.reverse (u16ToLeBytes_fromLeBytes b0 b1)

/-- Every id is read from its two bytes. -/
theorem exists_fromLeBytes (id : UInt16) : ∃ b0 b1, id = u16FromLeBytes b0 b1 := by
  obtain ⟨b0, b1, -, hid⟩ := u16ToLeBytes_eq id
  exact ⟨b0, b1, hid.symm⟩

theorem u16FromLeBytes_inj {b0 b1 c0 c1 : UInt8}
    (h : u16FromLeBytes b0 b1 = u16FromLeBytes c0 c1) : b0 = c0 ∧ b1 = c1 := by
  have hbytes := congrArg u16ToLeBytes h
  rw [u16ToLeBytes_fromLeBytes, u16ToLeBytes_fromLeBytes] at hbytes
  simpa using hbytes

/-! ## Frames -/

namespace ApsFrame

/-- What comes back of an encoded frame: the bytes of its ids are exchanged. -/
theorem fromBytes_toBytes (frame : ApsFrame) (h : frame.frameControl.reserved < 2)
    {c0 c1 p0 p1 : UInt8} (hcluster : frame.clusterId = u16FromLeBytes c0 c1)
    (hprofile : frame.profileId = u16FromLeBytes p0 p1) :
    fromBytes frame.toBytes =
      .ok { frame with clusterId := u16FromLeBytes c1 c0, profileId := u16FromLeBytes p1 p0 } := by
  rcases frame with ⟨control, destination, cluster, profile, source, counter, asdu⟩
  dsimp only at hcluster hprofile
  subst hcluster hprofile
  have hbytes : toBytes ⟨control, destination, u16FromLeBytes c0 c1, u16FromLeBytes p0 p1, source,
      counter, asdu⟩ =
      control.toBytes ++ (destination :: c1 :: c0 :: p1 :: p0 :: source :: counter :: asdu) := by
    simp only [toBytes, u16ToBeBytes_fromLeBytes]
    rfl
  have hlen : ¬ (control.toBytes ++
      (destination :: c1 :: c0 :: p1 :: p0 :: source :: counter :: asdu)).length < 8 := by
    simp only [ApsFrameControl.toBytes, List.length_append, List.length_cons, List.length_nil]
    omega
  rw [hbytes, fromBytes, if_neg hlen, ApsFrameControl.codec.decode_encode control _ h]
  rfl

/-- A byte string that decodes is a control byte, the fields and the payload. -/
theorem fromBytes_eq_ok {bytes : List UInt8} {frame : ApsFrame}
    (h : fromBytes bytes = .ok frame) :
    ∃ c0 c1 p0 p1, frame.frameControl.reserved < 2 ∧ frame.clusterId = u16FromLeBytes c0 c1 ∧
      frame.profileId = u16FromLeBytes p0 p1 ∧
      bytes = frame.frameControl.toBytes ++ (frame.destinationEndpoint :: c0 :: c1 :: p0 :: p1 ::
        frame.sourceEndpoint :: frame.counter :: frame.asdu) := by
  unfold fromBytes at h
  split at h
  · cases h
  · simp only [Outcome.bind_eq_ok] at h
    rcases h with ⟨⟨control, remaining⟩, hcontrol, h⟩
    obtain ⟨hreserved, rfl⟩ := ApsFrameControl.codec.encode_decode _ _ _ hcontrol
    dsimp only at h
    split at h
    · cases h
      exact ⟨_, _, _, _, hreserved, rfl, rfl, rfl⟩
    · cases h

/-- A frame is read back exactly if each of its ids has two equal bytes, and exactly then
    a byte string that decodes is the encoding of what it decodes to. -/
theorem roundTrip_iff (frame : ApsFrame) (bytes : List UInt8) :
    (frame.frameControl.reserved < 2 →
      (fromBytes frame.toBytes = .ok frame ↔
        SameBytes frame.clusterId ∧ SameBytes frame.profileId)) ∧
    (fromBytes bytes = .ok frame →
      (frame.toBytes = bytes ↔ SameBytes frame.clusterId ∧ SameBytes frame.profileId)) := by
  constructor
  · intro hreserved
    obtain ⟨c0, c1, hcluster⟩ := exists_fromLeBytes frame.clusterId
    obtain ⟨p0, p1, hprofile⟩ := exists_fromLeBytes frame.profileId
    rw [fromBytes_toBytes frame hreserved hcluster hprofile, hcluster, hprofile,
      sameBytes_fromLeBytes, sameBytes_fromLeBytes]
    constructor
    · intro h
      rw [Outcome.ok.injEq] at h
      have hc : u16FromLeBytes c1 c0 = u16FromLeBytes c0 c1 := (congrArg clusterId h).trans hcluster
      have hp : u16FromLeBytes p1 p0 = u16FromLeBytes p0 p1 := (congrArg profileId h).trans hprofile
      exact ⟨(u16FromLeBytes_inj hc).2, (u16FromLeBytes_inj hp).2⟩
    · rintro ⟨rfl, rfl⟩
      rw [← hcluster, ← hprofile]
  · intro h
    obtain ⟨c0, c1, p0, p1, -, hcluster, hprofile, rfl⟩ := fromBytes_eq_ok h
    rw [hcluster, hprofile, sameBytes_fromLeBytes, sameBytes_fromLeBytes, toBytes, hcluster,
      hprofile, u16ToBeBytes_fromLeBytes, u16ToBeBytes_fromLeBytes]
    simp only [List.append_assoc, List.append_cancel_left_eq, List.cons_append, List.nil_append,
      List.cons.injEq, true_and, and_true]
    constructor
    · rintro ⟨rfl, -, rfl, -⟩
      exact ⟨rfl, rfl⟩
    · rintro ⟨rfl, rfl⟩
      exact ⟨rfl, rfl, rfl, rfl⟩

/-- The frame of `test_nwk_decryption_unicast` (`zigbee_aps.rs:141-162`). -/
def onOffFrame : ApsFrame where
  frameControl := {
    frameType := .data
    deliveryMode := .unicast
    reserved := 0
    security := false
    ackRequest := false
    extendedHeader := false }
  destinationEndpoint := 1
  clusterId := 0x0006
  profileId := 0x0104
  sourceEndpoint := 1
  counter := 169
  asdu := [0x01, 0x57, 0x01]

/-- The bytes of this test. -/
def onOffBytes : List UInt8 := [0x00, 0x01, 0x06, 0x00, 0x04, 0x01, 0x01, 0xa9, 0x01, 0x57, 0x01]

theorem roundTrip_iff_onOff :
    (fromBytes onOffFrame.toBytes = .ok onOffFrame ↔
      SameBytes onOffFrame.clusterId ∧ SameBytes onOffFrame.profileId) ∧
    (onOffFrame.toBytes = onOffBytes ↔
      SameBytes onOffFrame.clusterId ∧ SameBytes onOffFrame.profileId) :=
  ⟨(roundTrip_iff onOffFrame onOffBytes).1 (by decide),
    (roundTrip_iff onOffFrame onOffBytes).2 (by decide)⟩

/-- The frame of the test is not read back, and its bytes are not written again. -/
theorem roundTrip_fails :
    ¬ (∀ frame : ApsFrame, frame.frameControl.reserved = 0 ∨ frame.frameControl.reserved = 1 →
      fromBytes frame.toBytes = .ok frame) ∧
    ¬ (∀ bytes frame, fromBytes bytes = .ok frame → frame.toBytes = bytes) := by
  constructor
  · intro h
    exact absurd (h onOffFrame (.inl rfl)) (by decide)
  · intro h
    exact absurd (h onOffBytes onOffFrame (by decide)) (by decide)

end ApsFrame

end ZigpySpinel.Zigbee
