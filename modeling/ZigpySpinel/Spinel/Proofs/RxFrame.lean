import ZigpySpinel.Spinel.RxFrame

/-!
# Received radio frames lose nothing

The one check of the length covers every read behind it, and the reads take the bytes one
after the other, so the fields encoded again are the input. The two bytes of the length
itself are read before the check.
-/

namespace ZigpySpinel.Spinel.SpinelRxFrame
open Lib

/-- The fields of a frame in the order in which they are read, encoded again. -/
def encoded (frame : SpinelRxFrame) : List UInt8 :=
  u16ToLeBytes (UInt16.ofNat frame.psdu.length) ++ frame.psdu ++
    [frame.rssi.toUInt8, frame.noiseFloor.toUInt8] ++ u32ToLeBytes frame.flags ++
    [frame.channel, frame.lqi] ++ u64ToLeBytes frame.timestampUs ++ [frame.receiveError] ++
    frame.manufacturerSpecific

variable {lo hi : UInt8} {rest : List UInt8}

/-- The bytes behind the length cover the PSDU that it announces and the fixed fields. -/
def Fits (lo hi : UInt8) (rest : List UInt8) : Prop :=
  19 + (u16FromLeBytes lo hi).toNat ≤ (lo :: hi :: rest).length

theorem fromBytes_of_not_fits (h : ¬ Fits lo hi rest) :
    fromBytes (lo :: hi :: rest) = .err "Invalid frame length" := by
  rw [Fits] at h
  change (if _ then _ else _) = _
  rw [if_pos (by omega)]

/-- Every read behind the check is within the bounds. -/
theorem returns_fromBytes_of_fits (h : Fits lo hi rest) :
    (fromBytes (lo :: hi :: rest)).Returns := by
  rw [Fits] at h
  change (if _ then _ else _ : Outcome String SpinelRxFrame).Returns
  rw [if_neg (by omega)]
  refine (returns_slice (by omega)).bind fun psdu => ?_
  refine (returns_byteAt (by omega)).bind fun rssi => ?_
  refine (returns_byteAt (by omega)).bind fun noiseFloor => ?_
  refine (returns_bytesAt (by omega)).bind fun flags => ?_
  refine (returns_byteAt (by omega)).bind fun channel => ?_
  refine (returns_byteAt (by omega)).bind fun lqi => ?_
  refine (returns_bytesAt (by omega)).bind fun timestampUs => ?_
  refine (returns_byteAt (by omega)).bind fun receiveError => ?_
  exact (returns_sliceFrom (by omega)).bind fun _ => Outcome.returns_ok _

/-- What is read is the input. -/
theorem encoded_of_fromBytes {bytes : List UInt8} {frame : SpinelRxFrame}
    (h : fromBytes bytes = .ok frame) : frame.encoded = bytes := by
  obtain ⟨lo, hlo, h⟩ := Outcome.bind_eq_ok.mp h
  obtain ⟨hi, hhi, h⟩ := Outcome.bind_eq_ok.mp h
  change (if _ then _ else _) = _ at h
  split at h
  · cases h
  obtain ⟨psdu, hpsdu, h⟩ := Outcome.bind_eq_ok.mp h
  obtain ⟨rssi, hrssi, h⟩ := Outcome.bind_eq_ok.mp h
  obtain ⟨noiseFloor, hnoiseFloor, h⟩ := Outcome.bind_eq_ok.mp h
  obtain ⟨flags, hflags, h⟩ := Outcome.bind_eq_ok.mp h
  obtain ⟨channel, hchannel, h⟩ := Outcome.bind_eq_ok.mp h
  obtain ⟨lqi, hlqi, h⟩ := Outcome.bind_eq_ok.mp h
  obtain ⟨timestampUs, htimestampUs, h⟩ := Outcome.bind_eq_ok.mp h
  obtain ⟨receiveError, hreceiveError, h⟩ := Outcome.bind_eq_ok.mp h
  obtain ⟨manufacturerSpecific, hmanufacturerSpecific, h⟩ := Outcome.bind_eq_ok.mp h
  cases h
  obtain ⟨hpsduLen, hpsdu⟩ := drop_of_slice hpsdu
  obtain ⟨hflagsLen, hflags⟩ := drop_of_bytesAt hflags
  obtain ⟨htimestampLen, htimestampUs⟩ := drop_of_bytesAt htimestampUs
  have hlength : u16ToLeBytes (UInt16.ofNat psdu.length) = [lo, hi] := by
    rw [hpsduLen, UInt16.ofNat_toNat, u16ToLeBytes_fromLeBytes]
  have hbytes : bytes = lo :: hi :: bytes.drop 2 := by
    rw [← drop_of_byteAt hhi, ← drop_of_byteAt hlo, List.drop_zero]
  conv => rhs; rw [hbytes, hpsdu, drop_of_byteAt hrssi, drop_of_byteAt hnoiseFloor, hflags,
    drop_of_byteAt hchannel, drop_of_byteAt hlqi, htimestampUs, drop_of_byteAt hreceiveError,
    drop_of_sliceFrom hmanufacturerSpecific]
  simp [encoded, hlength, u32ToLeBytes_fromLeArray hflagsLen,
    u64ToLeBytes_fromLeArray htimestampLen]

/-! ## Safety -/

/-- The parser does not panic, returns exactly the frames that are as long as they say, and what
    it returns is the input. -/
def Faithful (bytes : List UInt8) : Prop :=
  (fromBytes bytes).NoPanic ∧
    ((fromBytes bytes).Returns ↔ ∃ lo hi rest, bytes = lo :: hi :: rest ∧ Fits lo hi rest) ∧
    ∀ frame, fromBytes bytes = .ok frame → frame.encoded = bytes

theorem faithful_cons (lo hi : UInt8) (rest : List UInt8) : Faithful (lo :: hi :: rest) := by
  refine ⟨?_, ?_, fun frame => encoded_of_fromBytes⟩
  · by_cases hfits : Fits lo hi rest
    · exact (returns_fromBytes_of_fits hfits).noPanic
    · rw [fromBytes_of_not_fits hfits]
      exact Outcome.noPanic_err _
  · constructor
    · intro hreturns
      rcases hreturns with ⟨frame, hframe⟩
      by_contra hnot
      have hfits : ¬ Fits lo hi rest := fun h => hnot ⟨lo, hi, rest, rfl, h⟩
      rw [fromBytes_of_not_fits hfits] at hframe
      cases hframe
    · intro hlong
      rcases hlong with ⟨lo', hi', rest', heq, hfits⟩
      cases heq
      exact returns_fromBytes_of_fits hfits

/-- Without the two bytes of the length the index panics. -/
theorem fromBytes_of_short {bytes : List UInt8} (h : bytes.length < 2) :
    fromBytes bytes = .panic "index out of bounds" := by
  rcases bytes with _ | ⟨lo, _ | ⟨hi, rest⟩⟩
  · rfl
  · rfl
  · rw [List.length_cons, List.length_cons] at h
    omega

/-- The parser is safe and loses nothing exactly on the inputs that have a length to read. -/
theorem faithful_iff_two_le (bytes : List UInt8) : Faithful bytes ↔ 2 ≤ bytes.length := by
  constructor
  · intro hfaithful
    rcases hfaithful with ⟨hnoPanic, -⟩
    by_contra hshort
    exact hnoPanic _ (fromBytes_of_short (by omega))
  · intro h
    rcases bytes with _ | ⟨lo, _ | ⟨hi, rest⟩⟩
    · cases h
    · rw [List.length_singleton] at h
      omega
    · exact faithful_cons lo hi rest

/-- A property value of one byte panics. -/
theorem not_faithful_singleton : ¬ Faithful [0x00] := by
  intro h
  rcases h with ⟨hnoPanic, -⟩
  exact hnoPanic _ (fromBytes_of_short (by decide))

end ZigpySpinel.Spinel.SpinelRxFrame
