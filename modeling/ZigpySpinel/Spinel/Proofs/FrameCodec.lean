import ZigpySpinel.Spinel.Frame

/-!
# The Spinel frame codec

Whatever the parser accepts is written as it was read. The parser asks for three bytes, one more
than header and command take, so of the frames whose header fits its byte exactly those with a
payload are read back.
-/

namespace ZigpySpinel.Spinel
open Lib

/-- A header byte with the Spinel flag is put together again from its fields. -/
theorem SpinelHeader.fields_toBytes : ∀ byte : UInt8, (byte &&& 0b11000000) >>> 6 = 0b10 →
    ((0b10 : UInt8) <<< 6) ||| (((byte &&& 0b00110000) >>> 4) <<< 4) |||
      (((byte &&& 0b00001111) >>> 0) <<< 0) = byte := by decide +kernel

theorem SpinelHeader.toBytes_eq_of_fromBytes {byte : UInt8} {rest : List UInt8}
    {header : SpinelHeader} (h : fromBytes (byte :: rest) = .ok header)
    (hflag : header.flag = 0b10) : header.toBytes = [byte] := by
  cases h
  have hbyte := fields_toBytes byte hflag
  dsimp only at hflag
  rw [toBytes, hflag, hbyte]

namespace SpinelFrame

/-- Header and command alone are too short for the parser. -/
theorem fromBytes_toBytes_empty {frame : SpinelFrame} (h : frame.payload = []) :
    fromBytes frame.toBytes = .err .payloadTooShort := by
  have hshort : frame.toBytes.length < 3 := by
    rw [toBytes, h]
    exact Nat.lt_succ_self 2
  rw [fromBytes, if_pos hshort]

theorem toBytes_eq_of_fromBytes {bytes : List UInt8} {frame : SpinelFrame}
    (h : fromBytes bytes = .ok frame) : frame.toBytes = bytes := by
  rw [fromBytes] at h
  by_cases hshort : bytes.length < 3
  · rw [if_pos hshort] at h
    cases h
  · rw [if_neg hshort] at h
    rcases bytes with _ | ⟨byte, _ | ⟨commandId, payload⟩⟩
    · exact absurd (Nat.succ_pos 2) hshort
    · exact absurd (Nat.le_add_left 2 1) hshort
    · obtain ⟨header, hheader⟩ : ∃ header, SpinelHeader.fromBytes [byte] = .ok header := ⟨_, rfl⟩
      simp only [List.take_succ_cons, List.take_zero, List.drop_succ_cons, List.drop_zero,
        hheader] at h
      by_cases hflag : header.flag = 0b10
      · rw [if_neg (not_not.mpr hflag)] at h
        cases h
        rw [toBytes, SpinelHeader.toBytes_eq_of_fromBytes hheader hflag]
        rfl
      · rw [if_pos hflag] at h
        cases h

/-- A frame whose header fits its byte is read back exactly if it has a payload, and what is
    read is written again as it was. -/
theorem roundTrips_iff_payload (frame : SpinelFrame) (hheader : frame.header.WellFormed) :
    (fromBytes frame.toBytes = .ok frame ↔ frame.payload ≠ []) ∧
      ∀ bytes read, fromBytes bytes = .ok read → read.toBytes = bytes := by
  refine ⟨?_, fun bytes read => toBytes_eq_of_fromBytes⟩
  constructor
  · intro h hempty
    rw [fromBytes_toBytes_empty hempty] at h
    cases h
  · exact fromBytes_toBytes frame hheader

/-- The request of a command without a payload, as `prepare_request` makes it. -/
def noop : SpinelFrame where
  header := { flag := 0b10, networkLinkId := 0, transactionId := 1 }
  commandId := 0
  payload := []

/-- The same command with a payload of one byte is read back. -/
theorem roundTrips_iff_payload_noop :
    (fromBytes noop.toBytes = .ok noop ↔ noop.payload ≠ []) ∧
      (fromBytes { noop with payload := [0] }.toBytes = .ok { noop with payload := [0] }) ∧
      noop.toBytes = [0x81, 0x00] := by
  have hheader : noop.header.WellFormed := ⟨rfl, by decide, by decide⟩
  refine ⟨(roundTrips_iff_payload noop hheader).1, ?_, rfl⟩
  exact (roundTrips_iff_payload { noop with payload := [0] } hheader).1.mpr (List.cons_ne_nil 0 [])

/-- `NOOP` itself is refused. -/
theorem noop_not_read : noop.header.WellFormed ∧ fromBytes noop.toBytes ≠ .ok noop := by
  refine ⟨⟨rfl, by decide, by decide⟩, ?_⟩
  rw [fromBytes_toBytes_empty rfl]
  intro h
  cases h

end SpinelFrame

end ZigpySpinel.Spinel
