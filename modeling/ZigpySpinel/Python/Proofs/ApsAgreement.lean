import ZigpySpinel.Python.Proofs.ApsCodec
import ZigpySpinel.Zigbee.Proofs.ApsCodec

/-!
# Application support frames in both packages

Both packages read an application support frame with the same fields, but they have names for
different types: what is an acknowledgement to the Python package is a command to the Rust
package. A type or delivery mode `0b01` the Rust package refuses. What the Rust package writes is
read by the Python package with the bytes of its ids exchanged.
-/

namespace ZigpySpinel.Zigbee
open Lib
open Python (ZigbeeApsFrame)

/-! ## The frame control -/

/-- The type with this value in the Python package. -/
def ApsFrameType.toPython : ApsFrameType → Python.ZigbeeApsFrameType
  | .data => .data
  | .command => .ack
  | .interpan => .undefined0x03

def ApsDeliveryMode.toPython : ApsDeliveryMode → Python.ZigbeeApsDeliveryMode
  | .unicast => .unicast
  | .broadcast => .broadcast
  | .multicast => .undefined0x03

def ApsFrameControl.toPython (control : ApsFrameControl) : Python.ZigbeeApsFrameControl where
  frameType := control.frameType.toPython
  deliveryMode := control.deliveryMode.toPython
  reserved := control.reserved == 1
  security := control.security
  ackRequest := control.ackRequest
  extendedHeader := control.extendedHeader

theorem serialize_apsByte (frameType : ApsFrameType) (deliveryMode : ApsDeliveryMode) :
    ∀ reserved security ackRequest extendedHeader : Bool,
      Python.ZigbeeApsFrameControl.byte frameType.toPython deliveryMode.toPython reserved security
          ackRequest extendedHeader =
        ApsFrameControl.byte frameType deliveryMode reserved.toUInt8 security ackRequest
          extendedHeader := by
  cases frameType <;> cases deliveryMode <;> decide

theorem toUInt8_beq_one {reserved : UInt8} (h : reserved < 2) :
    (reserved == 1).toUInt8 = reserved := by
  have hlt : reserved.toNat < 2 := h
  have hcases : reserved = 0 ∨ reserved = 1 := by
    rw [← UInt8.toNat_inj, ← UInt8.toNat_inj]
    change reserved.toNat = 0 ∨ reserved.toNat = 1
    omega
  rcases hcases with rfl | rfl <;> rfl

theorem toUInt8_lt_two : ∀ reserved : Bool, reserved.toUInt8 < 2 := by decide

/-- Both packages write a frame control alike. -/
theorem ApsFrameControl.serialize_toPython {control : ApsFrameControl}
    (h : control.reserved < 2) : control.toPython.serialize = control.toBytes := by
  have hbyte := serialize_apsByte control.frameType control.deliveryMode (control.reserved == 1)
    control.security control.ackRequest control.extendedHeader
  rw [toUInt8_beq_one h, Python.ZigbeeApsFrameControl.byte, byte] at hbyte
  simp only [Python.ZigbeeApsFrameControl.serialize, toPython, toBytes, hbyte]

theorem ApsFrameType.toPython_ne (frameType : ApsFrameType) :
    frameType.toPython ≠ .undefined0x01 := by
  cases frameType <;> decide

theorem ApsDeliveryMode.toPython_ne (deliveryMode : ApsDeliveryMode) :
    deliveryMode.toPython ≠ .undefined0x01 := by
  cases deliveryMode <;> decide

/-- The frame controls that the Rust package has names for. -/
theorem ApsFrameControl.exists_toPython_iff (control : Python.ZigbeeApsFrameControl) :
    (∃ rust : ApsFrameControl, rust.reserved < 2 ∧ rust.toPython = control) ↔
      control.frameType ≠ .undefined0x01 ∧ control.deliveryMode ≠ .undefined0x01 := by
  rcases control with ⟨frameType, deliveryMode, reserved, security, ackRequest, extendedHeader⟩
  constructor
  · rintro ⟨rust, -, hsame⟩
    cases hsame
    exact ⟨rust.frameType.toPython_ne, rust.deliveryMode.toPython_ne⟩
  · rintro ⟨htype, hmode⟩
    have hrustType : ∃ rust : ApsFrameType, rust.toPython = frameType := by
      cases frameType with
      | data => exact ⟨.data, rfl⟩
      | ack => exact ⟨.command, rfl⟩
      | undefined0x01 => exact absurd rfl htype
      | undefined0x03 => exact ⟨.interpan, rfl⟩
    have hrustMode : ∃ rust : ApsDeliveryMode, rust.toPython = deliveryMode := by
      cases deliveryMode with
      | unicast => exact ⟨.unicast, rfl⟩
      | broadcast => exact ⟨.broadcast, rfl⟩
      | undefined0x01 => exact absurd rfl hmode
      | undefined0x03 => exact ⟨.multicast, rfl⟩
    obtain ⟨rustType, rfl⟩ := hrustType
    obtain ⟨rustMode, rfl⟩ := hrustMode
    refine ⟨{
      frameType := rustType
      deliveryMode := rustMode
      reserved := reserved.toUInt8
      security := security
      ackRequest := ackRequest
      extendedHeader := extendedHeader }, toUInt8_lt_two reserved, ?_⟩
    cases reserved <;> rfl

/-! ## The frame -/

namespace ApsFrame

/-- The frame as the Python package has it. -/
def toPython (frame : ApsFrame) : ZigbeeApsFrame where
  frameControl := frame.frameControl.toPython
  destinationEndpoint := frame.destinationEndpoint
  clusterId := frame.clusterId
  profileId := frame.profileId
  sourceEndpoint := frame.sourceEndpoint
  counter := frame.counter
  asdu := frame.asdu

/-- What the Python package writes is read by the Rust package with the same fields. -/
theorem fromBytes_serialize_toPython (frame : ApsFrame) (h : frame.frameControl.reserved < 2) :
    fromBytes frame.toPython.serialize = .ok frame := by
  obtain ⟨c0, c1, hcluster, hclusterId⟩ := u16ToLeBytes_eq frame.clusterId
  obtain ⟨p0, p1, hprofile, hprofileId⟩ := u16ToLeBytes_eq frame.profileId
  have hbytes : frame.toPython.serialize = frame.frameControl.toBytes ++
      (frame.destinationEndpoint :: c0 :: c1 :: p0 :: p1 :: frame.sourceEndpoint :: frame.counter ::
        frame.asdu) := by
    simp only [ZigbeeApsFrame.serialize, toPython, ApsFrameControl.serialize_toPython h, hcluster,
      hprofile, List.append_assoc, List.cons_append, List.nil_append]
  have hlen : ¬ (frame.frameControl.toBytes ++ (frame.destinationEndpoint :: c0 :: c1 :: p0 :: p1 ::
      frame.sourceEndpoint :: frame.counter :: frame.asdu)).length < 8 := by
    simp only [ApsFrameControl.toBytes, List.length_append, List.length_cons, List.length_nil]
    omega
  rw [hbytes, fromBytes, if_neg hlen, ApsFrameControl.codec.decode_encode _ _ h, Outcome.ok_bind]
  dsimp only
  rw [hclusterId, hprofileId]

/-- What the Rust package reads the Python package reads with the same fields. -/
theorem python_fromBytes {bytes : List UInt8} {frame : ApsFrame} (h : fromBytes bytes = .ok frame) :
    ZigbeeApsFrame.fromBytes bytes = .ok frame.toPython := by
  obtain ⟨c0, c1, p0, p1, hreserved, hcluster, hprofile, rfl⟩ := fromBytes_eq_ok h
  refine ZigbeeApsFrame.fromBytes_eq_ok_iff.mpr ?_
  simp only [ZigbeeApsFrame.serialize, toPython, ApsFrameControl.serialize_toPython hreserved,
    hcluster, hprofile, u16ToLeBytes_fromLeBytes, List.append_assoc, List.cons_append,
    List.nil_append]

/-- What the Rust package writes the Python package reads with other ids, unless each id has two
    equal bytes. -/
theorem python_fromBytes_toBytes_iff {frame : ApsFrame} (h : frame.frameControl.reserved < 2) :
    ZigbeeApsFrame.fromBytes frame.toBytes = .ok frame.toPython ↔
      SameBytes frame.clusterId ∧ SameBytes frame.profileId := by
  obtain ⟨c0, c1, hcluster⟩ := exists_fromLeBytes frame.clusterId
  obtain ⟨p0, p1, hprofile⟩ := exists_fromLeBytes frame.profileId
  rw [python_fromBytes (fromBytes_toBytes frame h hcluster hprofile), hcluster, hprofile,
    sameBytes_fromLeBytes, sameBytes_fromLeBytes, Except.ok.injEq]
  constructor
  · intro hsame
    have hc : u16FromLeBytes c1 c0 = u16FromLeBytes c0 c1 :=
      (congrArg ZigbeeApsFrame.clusterId hsame).trans hcluster
    have hp : u16FromLeBytes p1 p0 = u16FromLeBytes p0 p1 :=
      (congrArg ZigbeeApsFrame.profileId hsame).trans hprofile
    exact ⟨(u16FromLeBytes_inj hc).2, (u16FromLeBytes_inj hp).2⟩
  · rintro ⟨rfl, rfl⟩
    rw [← hcluster, ← hprofile]

/-- What the Python package reads the Rust package reads, if it has names for the frame control. -/
theorem rust_fromBytes {bytes : List UInt8} {python : ZigbeeApsFrame}
    (h : ZigbeeApsFrame.fromBytes bytes = .ok python) {control : ApsFrameControl}
    (hreserved : control.reserved < 2) (hcontrol : control.toPython = python.frameControl) :
    ∃ frame, fromBytes bytes = .ok frame ∧ frame.toPython = python := by
  refine ⟨{
    frameControl := control
    destinationEndpoint := python.destinationEndpoint
    clusterId := python.clusterId
    profileId := python.profileId
    sourceEndpoint := python.sourceEndpoint
    counter := python.counter
    asdu := python.asdu }, ?_, ?_⟩
  · rw [← ZigbeeApsFrame.fromBytes_eq_ok_iff.mp h]
    refine Eq.trans ?_ (fromBytes_serialize_toPython _ hreserved)
    rw [toPython, hcontrol]
  · rw [toPython, hcontrol]

/-- The decoders agree on all that the Rust package reads, and it reads all but the types and
    delivery modes `0b01`. From one package to the other, all frames that the Python package
    writes and the Rust package has names for arrive, but of those that the Rust package writes
    only those whose ids have two equal bytes. -/
theorem packages_agree_iff :
    (∀ bytes frame, fromBytes bytes = .ok frame →
      ZigbeeApsFrame.fromBytes bytes = .ok frame.toPython) ∧
    (∀ bytes python, ZigbeeApsFrame.fromBytes bytes = .ok python →
      ((∃ frame, fromBytes bytes = .ok frame ∧ frame.toPython = python) ↔
        python.frameControl.frameType ≠ .undefined0x01 ∧
          python.frameControl.deliveryMode ≠ .undefined0x01)) ∧
    ∀ frame : ApsFrame, frame.frameControl.reserved < 2 →
      fromBytes frame.toPython.serialize = .ok frame ∧
        (ZigbeeApsFrame.fromBytes frame.toBytes = .ok frame.toPython ↔
          SameBytes frame.clusterId ∧ SameBytes frame.profileId) := by
  refine ⟨fun bytes frame => python_fromBytes, ?_, fun frame h =>
    ⟨frame.fromBytes_serialize_toPython h, python_fromBytes_toBytes_iff h⟩⟩
  intro bytes python h
  rw [← ApsFrameControl.exists_toPython_iff]
  constructor
  · rintro ⟨frame, hread, rfl⟩
    obtain ⟨-, -, -, -, hreserved, -⟩ := fromBytes_eq_ok hread
    exact ⟨frame.frameControl, hreserved, rfl⟩
  · rintro ⟨control, hreserved, hcontrol⟩
    exact rust_fromBytes h hreserved hcontrol

/-- The frame of `test_nwk_decryption_unicast`. -/
theorem packages_agree_iff_onOff :
    ZigbeeApsFrame.fromBytes onOffBytes = .ok onOffFrame.toPython ∧
      fromBytes onOffFrame.toPython.serialize = .ok onOffFrame :=
  ⟨packages_agree_iff.1 onOffBytes onOffFrame (by decide),
    (packages_agree_iff.2.2 onOffFrame (by decide)).1⟩

end ApsFrame

end ZigpySpinel.Zigbee
