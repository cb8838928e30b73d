import ZigpySpinel.Ieee802154.Proofs.FrameCodec

/-!
# The one frame that 802.15.4 parsing panics on

Every read behind the frame control checks the length but one: the sequence number is
`remaining[0]`. The check in front asks for two bytes and the frame check sequence, so
the index is out of bounds when the data is a frame control that announces a sequence
number, and nothing else.
-/

namespace ZigpySpinel.Ieee802154
open Lib

/-! ## The decoders that check the length -/

theorem Ieee802154FrameType.returns_tryFrom_iff : ∀ b : UInt8,
    (tryFrom (b &&& 0b00000111)).Returns ↔ b &&& 0b00000111 ≤ 3 := by decide +kernel

theorem Ieee802154AddressingMode.returns_tryFrom_iff : ∀ b : UInt8,
    ((tryFrom ((b >>> 2) &&& 0b00000011)).Returns ↔ (b >>> 2) &&& 0b00000011 ≠ 0b01) ∧
      ((tryFrom ((b >>> 6) &&& 0b00000011)).Returns ↔ (b >>> 6) &&& 0b00000011 ≠ 0b01) := by
  decide +kernel

theorem Ieee802154FrameType.noPanic_tryFrom (value : UInt8) : (tryFrom value).NoPanic := by
  unfold tryFrom
  split_ifs
  all_goals first | exact Outcome.noPanic_ok _ | exact Outcome.noPanic_err _

theorem Ieee802154AddressingMode.noPanic_tryFrom (value : UInt8) : (tryFrom value).NoPanic := by
  unfold tryFrom
  split_ifs
  all_goals first | exact Outcome.noPanic_ok _ | exact Outcome.noPanic_err _

theorem Ieee802154FrameControl.safe_deserialize : Safe Ieee802154FrameControl.deserialize := by
  intro bytes
  unfold deserialize
  split
  · refine Outcome.noPanic_bind_iff.mpr ⟨Ieee802154FrameType.noPanic_tryFrom _, fun _ _ => ?_⟩
    refine Outcome.noPanic_bind_iff.mpr ⟨Ieee802154AddressingMode.noPanic_tryFrom _, fun _ _ => ?_⟩
    refine Outcome.noPanic_bind_iff.mpr ⟨Ieee802154AddressingMode.noPanic_tryFrom _, fun _ _ => ?_⟩
    exact Outcome.noPanic_ok _
  · exact Outcome.noPanic_err _

namespace Ieee802154Frame

theorem safe_deserializeAddress (mode : Ieee802154AddressingMode) :
    Safe (deserializeAddress mode) := by
  intro bytes
  cases mode with
  | none => exact Outcome.noPanic_ok _
  | short => exact Nwk.safe_deserialize.noPanic_bind_iff.mpr fun _ _ _ => Outcome.noPanic_ok _
  | long => exact Eui64.safe_deserialize.noPanic_bind_iff.mpr fun _ _ _ => Outcome.noPanic_ok _

theorem safe_deserializeSrcPanId (control : Ieee802154FrameControl) (destPanId : Option PanId) :
    Safe (deserializeSrcPanId control destPanId) := by
  intro bytes
  unfold deserializeSrcPanId
  split
  · exact Outcome.noPanic_ok _
  · exact PanId.safe_deserialize.optional _ bytes

/-- Behind the frame control only the sequence number can be missing without an error. -/
theorem noPanic_deserializeFields_iff {remaining : List UInt8} {fcs : UInt16} :
    (deserializeFields remaining fcs).NoPanic ↔
      ∀ control rest, Ieee802154FrameControl.deserialize remaining = .ok (control, rest) →
        control.sequenceNumberSuppression = false → rest ≠ [] := by
  rw [deserializeFields, Ieee802154FrameControl.safe_deserialize.noPanic_bind_iff]
  refine forall_congr' fun control => forall_congr' fun rest => forall_congr' fun _ => ?_
  dsimp only
  rw [Outcome.noPanic_bind_iff, noPanic_optional_takeByte_iff, and_iff_left]
  · rw [Bool.not_eq_true']
  · intro read _
    rcases read with ⟨sequenceNumber, remaining⟩
    refine (PanId.safe_deserialize.optional _).noPanic_bind_iff.mpr fun _ _ _ => ?_
    refine (safe_deserializeAddress _).noPanic_bind_iff.mpr fun _ _ _ => ?_
    refine (safe_deserializeSrcPanId _ _).noPanic_bind_iff.mpr fun _ _ _ => ?_
    refine (safe_deserializeAddress _).noPanic_bind_iff.mpr fun _ _ _ => ?_
    exact Outcome.noPanic_ok _

/-! ## A frame control without its sequence number -/

/-- Two bytes that are a frame control which announces a sequence number. -/
def BareControl (b0 b1 : UInt8) : Prop :=
  b0 &&& 0b00000111 ≤ 3 ∧ (b1 >>> 2) &&& 0b00000011 ≠ 0b01 ∧
    (b1 >>> 6) &&& 0b00000011 ≠ 0b01 ∧ b1 &&& 0b00000001 = 0

theorem bareControl_iff {b0 b1 : UInt8} : BareControl b0 b1 ↔
    ∃ control, Ieee802154FrameControl.deserialize [b0, b1] = .ok (control, []) ∧
      control.sequenceNumberSuppression = false := by
  obtain ⟨hdest, hsrc⟩ := Ieee802154AddressingMode.returns_tryFrom_iff b1
  rw [BareControl, ← Ieee802154FrameType.returns_tryFrom_iff, ← hdest, ← hsrc]
  constructor
  · intro h
    rcases h with ⟨⟨frameType, hframeType⟩, ⟨destAddrMode, hdestAddrMode⟩,
      ⟨srcAddrMode, hsrcAddrMode⟩, hsuppression⟩
    simp [Ieee802154FrameControl.deserialize, hframeType, hdestAddrMode, hsrcAddrMode, hsuppression]
  · intro h
    rcases h with ⟨control, hcontrol, hsuppression⟩
    simp only [Ieee802154FrameControl.deserialize, Outcome.bind_eq_ok] at hcontrol
    obtain ⟨frameType, hframeType, destAddrMode, hdestAddrMode, srcAddrMode, hsrcAddrMode, hret⟩ :=
      hcontrol
    cases hret
    exact ⟨⟨frameType, hframeType⟩, ⟨destAddrMode, hdestAddrMode⟩, ⟨srcAddrMode, hsrcAddrMode⟩,
      by simpa using hsuppression⟩

/-- Data that is long enough for a frame control panics if that is all of it. -/
theorem noPanic_fields_iff {data : List UInt8} {fcs : UInt16} (hlen : 2 ≤ data.length) :
    (deserializeFields data fcs).NoPanic ↔ ¬ ∃ b0 b1, BareControl b0 b1 ∧ data = [b0, b1] := by
  rw [noPanic_deserializeFields_iff]
  constructor
  · intro h hcontrolOnly
    rcases hcontrolOnly with ⟨b0, b1, hbare, rfl⟩
    obtain ⟨control, hcontrol, hsuppression⟩ := bareControl_iff.mp hbare
    exact h control [] hcontrol hsuppression rfl
  · intro h control rest hcontrol hsuppression heq
    subst heq
    obtain ⟨-, hbytes⟩ := Ieee802154FrameControl.codec.encode_decode _ _ _ hcontrol
    rw [List.append_nil] at hbytes
    obtain ⟨b0, b1, hdata⟩ : ∃ b0 b1, data = [b0, b1] := ⟨_, _, hbytes⟩
    rw [hdata] at hcontrol
    exact h ⟨b0, b1, bareControl_iff.mpr ⟨control, hcontrol, hsuppression⟩, hdata⟩

theorem noPanic_fromBytes_iff {bytes : List UInt8} : (fromBytes bytes).NoPanic ↔
    ¬ ∃ b0 b1, BareControl b0 b1 ∧
      bytes = [b0, b1] ++ u16ToLeBytes (computeFcs [b0, b1]) := by
  by_cases hshort : bytes.length < 2 + 2
  · rw [fromBytes, if_pos hshort, iff_true_left (Outcome.noPanic_err _)]
    intro hcontrolOnly
    rcases hcontrolOnly with ⟨b0, b1, -, rfl⟩
    rw [List.length_append, length_u16ToLeBytes] at hshort
    exact absurd hshort (by simp)
  · obtain ⟨data, fcs, rfl, hdata⟩ := exists_append_fcs (Nat.not_lt.mp hshort)
    rw [fromBytes_append hdata]
    by_cases hfcs : computeFcs data = fcs
    · subst hfcs
      rw [if_neg (not_not.mpr rfl), noPanic_fields_iff hdata]
      refine not_congr (exists_congr fun b0 => exists_congr fun b1 => and_congr_right fun _ => ?_)
      constructor
      · intro heq
        subst heq
        rfl
      · intro h
        exact (List.append_inj' h (by simp)).1
    · rw [if_pos hfcs, iff_true_left (Outcome.noPanic_err _)]
      intro hcontrolOnly
      rcases hcontrolOnly with ⟨b0, b1, -, h⟩
      obtain ⟨rfl, hbytes⟩ := List.append_inj' h (by simp)
      exact hfcs (u16ToLeBytes_inj hbytes).symm

theorem noPanic_fromBytesWithoutFcs_iff {bytes : List UInt8} :
    (fromBytesWithoutFcs bytes).NoPanic ↔
      ¬ ∃ b0 b1, BareControl b0 b1 ∧ bytes = [b0, b1] := by
  rw [fromBytesWithoutFcs, noPanic_fromBytes_iff]
  refine not_congr (exists_congr fun b0 => exists_congr fun b1 => and_congr_right fun _ => ?_)
  constructor
  · intro h
    exact (List.append_inj' h (by simp)).1
  · intro heq
    subst heq
    rfl

/-- Parsing does not panic, with either entry point, unless the data is a frame control that
    announces a sequence number, and nothing else. -/
theorem noPanic_iff_not_bareControl (bytes : List UInt8) :
    ((fromBytes bytes).NoPanic ∧ (fromBytesWithoutFcs bytes).NoPanic) ↔
      ¬ ∃ b0 b1, BareControl b0 b1 ∧
        (bytes = [b0, b1] ++ u16ToLeBytes (computeFcs [b0, b1]) ∨ bytes = [b0, b1]) := by
  rw [noPanic_fromBytes_iff, noPanic_fromBytesWithoutFcs_iff]
  simp only [and_or_left, exists_or, not_or]

/-- An acknowledgement of which the sequence number is missing panics. -/
theorem ackControl_panics : ¬ (fromBytes [0x02, 0x00, 0xB0, 0x33]).NoPanic ∧
    ¬ (fromBytesWithoutFcs [0x02, 0x00]).NoPanic := by
  decide +kernel

end Ieee802154Frame

end ZigpySpinel.Ieee802154
