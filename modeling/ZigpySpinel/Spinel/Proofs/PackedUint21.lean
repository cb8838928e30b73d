import ZigpySpinel.Lib.Varint
import ZigpySpinel.Spinel.Frame

/-!
# Packed integers are read back up to 21 bits

The encoder refuses what is above `U21_MAX`, and `U21_MAX` itself is the first number of
22 bits. It is packed into four octets, one more than the decoder reads. Every smaller
number has at most three digits, and the loops of encoder and decoder meet at each of
them.
-/

namespace ZigpySpinel.Spinel
open Lib Lib.Varint

/-! ## The encoder -/

theorem toNat_u21Max : u21Max.toNat = 2 ^ 21 := by decide

theorem continued_of_toUInt8 (temp : UInt32) :
    (temp.toUInt8 &&& 0b01111111) ||| 0b10000000 = continued (temp.toNat % 128) := by
  have hlow : temp.toUInt8 &&& 0b01111111 = UInt8.ofNat (temp.toNat % 128) := by
    apply UInt8.toNat_inj.mp
    have hmask := Nat.and_two_pow_sub_one_eq_mod (temp.toNat % 256) 7
    have hdigit := toNat_octet (Nat.mod_lt temp.toNat (by omega : 0 < 128))
    simp only [Nat.reducePow, Nat.reduceSub] at hmask
    rw [UInt8.toNat_and, UInt32.toNat_toUInt8, hdigit]
    change temp.toNat % 256 &&& 127 = temp.toNat % 128
    omega
  rw [hlow, continued]

theorem toNat_shiftRight_seven (temp : UInt32) : (temp >>> 7).toNat = temp.toNat / 128 := by
  rw [UInt32.toNat_shiftRight]
  exact Nat.shiftRight_eq_div_pow temp.toNat 7

theorem packedUint21Pass_eq_some {s s' : UInt32 × List UInt8}
    (h : packedUint21Pass s = some s') : s.1.toNat ≠ 0 ∧
      s' = (s.1 >>> 7, s.2 ++ [continued (s.1.toNat % 128)]) := by
  rcases s with ⟨temp, chunks⟩
  simp only [packedUint21Pass, continued_of_toUInt8] at h
  by_cases hpos : temp > 0
  · rw [if_pos hpos, Option.some.injEq] at h
    have hnat : 0 < temp.toNat := hpos
    exact ⟨Nat.ne_of_gt hnat, h.symm⟩
  · rw [if_neg hpos] at h
    cases h

theorem packedUint21Pass_eq_none {s : UInt32 × List UInt8} (h : packedUint21Pass s = none) :
    s.1.toNat = 0 := by
  rcases s with ⟨temp, chunks⟩
  by_cases hpos : temp > 0
  · rw [packedUint21Pass, if_pos hpos] at h
    cases h
  · have hnat : ¬ 0 < temp.toNat := hpos
    dsimp only
    omega

theorem decreasing_packedUint21Pass :
    Loop.Decreasing packedUint21Pass (fun st => st.1.toNat) := by
  intro s s' h
  obtain ⟨hne, rfl⟩ := packedUint21Pass_eq_some h
  dsimp only
  rw [toNat_shiftRight_seven]
  omega

/-- The loop of the encoder stops with an octet for each digit. -/
theorem pending_exec (value : UInt32) :
    Pending value.toNat 0
      (Loop.exec packedUint21Pass (fun st => st.1.toNat) (value, [])).2 := by
  obtain ⟨k, -, hrun⟩ := Loop.exec_runs decreasing_packedUint21Pass (value, [])
  have hkeep : ∀ s s', Pending value.toNat s.1.toNat s.2 → packedUint21Pass s = some s' →
      Pending value.toNat s'.1.toNat s'.2 := by
    intro s s' hpending hpass
    obtain ⟨hne, rfl⟩ := packedUint21Pass_eq_some hpass
    dsimp only
    rw [toNat_shiftRight_seven]
    exact hpending.pass hne
  obtain ⟨hpending, hstop⟩ := hrun.inv _ hkeep (Pending.start value.toNat)
  rwa [packedUint21Pass_eq_none hstop] at hpending

/-- What the encoder returns for a number other than zero that it accepts. -/
theorem packedUint21ToBytes_eq {value : UInt32} {init : List Nat} {last : Nat}
    (hle : value ≤ u21Max) (hdigits : Nat.digits 128 value.toNat = init ++ [last])
    (hlast : last < 128) : packedUint21ToBytes value = .ok (packed init last) := by
  have hzero : value ≠ 0 := by
    intro heq
    subst heq
    simp at hdigits
  obtain ⟨hchunks, hclear⟩ := (pending_exec value).clear hdigits hlast
  have hbound : ¬ value > u21Max := UInt32.not_lt.mpr hle
  rw [packedUint21ToBytes, if_neg hzero, if_neg hbound]
  simp only [hchunks, List.getLast?_concat, List.dropLast_concat, hclear]

/-! ## The decoder -/

/-- One octet adds its digit to the result. -/
theorem toNat_or_digit {result : UInt32} {index digit : Nat} (hindex : index ≤ 2)
    (hresult : result.toNat < 128 ^ index) (hdigit : digit < 128) :
    (result ||| ((UInt8.ofNat digit).toUInt32 <<< UInt32.ofNat (7 * index))).toNat =
      result.toNat + 128 ^ index * digit := by
  have hpow : (128 : Nat) ^ index = 2 ^ (7 * index) := by rw [Nat.pow_mul]
  have hindexNat : (UInt32.ofNat (7 * index)).toNat = 7 * index := by
    rw [UInt32.toNat_ofNat']
    omega
  have hle : 128 ^ index ≤ 128 ^ 2 := Nat.pow_le_pow_right (by omega) hindex
  have hfits : digit <<< (7 * index) < 2 ^ 32 := by
    rw [Nat.shiftLeft_eq, ← hpow]
    calc digit * 128 ^ index ≤ 127 * 128 ^ 2 := Nat.mul_le_mul (by omega) hle
      _ < 2 ^ 32 := by norm_num
  rw [UInt32.toNat_or, UInt32.toNat_shiftLeft, UInt8.toNat_toUInt32, toNat_octet hdigit,
    hindexNat, Nat.mod_eq_of_lt (by omega : 7 * index < 32), Nat.mod_eq_of_lt hfits,
    or_shiftLeft hresult]

/-- The loop of the decoder reads at most three octets, and nothing after them. -/
theorem packedUint21Loop_packed {init : List Nat} {last : Nat} (result : UInt32) (index : Nat)
    (suffix : List UInt8) (hinit : ∀ d ∈ init, d < 128) (hlast : last < 128)
    (hlen : index + init.length ≤ 2) (hresult : result.toNat < 128 ^ index) :
    packedUint21Loop result index (packed init last ++ suffix) =
      .ok (UInt32.ofNat (result.toNat + 128 ^ index * Nat.ofDigits 128 (init ++ [last])),
        suffix) := by
  induction init generalizing result index with
  | nil =>
    rw [List.length_nil] at hlen
    have hvalue := toNat_or_digit (by omega) hresult hlast
    rw [packed, List.map_nil, List.nil_append, List.singleton_append, packedUint21Loop,
      last_and_low hlast, last_and_high hlast, if_pos rfl, List.nil_append,
      Nat.ofDigits_singleton, ← hvalue, UInt32.ofNat_toNat]
  | cons digit init ih =>
    rw [List.length_cons] at hlen
    have hdigit : digit < 128 := hinit digit (by simp)
    have hvalue := toNat_or_digit (by omega) hresult hdigit
    have hnext : (result ||| ((UInt8.ofNat digit).toUInt32 <<< UInt32.ofNat (7 * index))).toNat <
        128 ^ (index + 1) := by
      rw [hvalue, Nat.pow_succ]
      calc result.toNat + 128 ^ index * digit < 128 ^ index + 128 ^ index * digit := by omega
        _ = 128 ^ index * (digit + 1) := by ring
        _ ≤ 128 ^ index * 128 := Nat.mul_le_mul_left _ hdigit
    have hrest := ih _ _ (fun d hd => hinit d (by simp [hd])) (by omega) hnext
    rw [packed, List.map_cons, List.cons_append, List.cons_append, packedUint21Loop,
      continued_and_low hdigit, if_neg (continued_and_high hdigit), if_neg (by omega),
      ← packed, hrest, hvalue, List.cons_append, Nat.ofDigits_cons]
    congr 3
    ring

/-- Every number of at most 21 bits is read back, whatever follows it. -/
theorem packedUint21Deserialize_packed {value : UInt32} (h : value < u21Max) :
    ∃ bytes, packedUint21ToBytes value = .ok bytes ∧
      ∀ suffix, packedUint21Deserialize (bytes ++ suffix) = .ok (value, suffix) := by
  by_cases hzero : value = 0
  · subst hzero
    exact ⟨[0], rfl, fun suffix => rfl⟩
  · have hnat : value.toNat ≠ 0 := fun h0 => hzero (UInt32.toNat_inj.mp h0)
    have hbound : value.toNat < 128 ^ (2 + 1) := by
      have hlt : value.toNat < u21Max.toNat := h
      rwa [toNat_u21Max] at hlt
    obtain ⟨init, last, hdigits, hinit, hlast⟩ := exists_digits hnat
    refine ⟨packed init last, packedUint21ToBytes_eq (UInt32.le_of_lt h) hdigits hlast, ?_⟩
    intro suffix
    have hlen := length_init_le hbound hdigits
    have hread := packedUint21Loop_packed 0 0 suffix hinit hlast (by omega) (by simp)
    rw [packedUint21Deserialize, hread, ofDigits_of_digits hdigits]
    simp

/-! ## The round trip -/

/-- The encoder returns octets from which the decoder reads the number back, whatever follows
    them, and a `PropValueIs` payload with this property id is read back too. -/
def RoundTrips (value : UInt32) : Prop :=
  ∃ bytes, packedUint21ToBytes value = .ok bytes ∧
    (∀ suffix, packedUint21Deserialize (bytes ++ suffix) = .ok (value, suffix)) ∧
    ∀ contents, ∃ encoded,
      SpinelFramePropValueIs.toBytes { propertyId := value, value := contents } = .ok encoded ∧
      SpinelFramePropValueIs.fromBytes encoded =
        .ok { propertyId := value, value := contents }

theorem roundTrips_of_lt {value : UInt32} (h : value < u21Max) : RoundTrips value := by
  obtain ⟨bytes, hbytes, hread⟩ := packedUint21Deserialize_packed h
  refine ⟨bytes, hbytes, hread, ?_⟩
  intro contents
  refine ⟨bytes ++ contents, ?_, ?_⟩
  · rw [SpinelFramePropValueIs.toBytes, hbytes, Outcome.ok_bind]
  · rw [SpinelFramePropValueIs.fromBytes, hread, Outcome.ok_bind]

theorem packedUint21ToBytes_of_gt {value : UInt32} (h : value > u21Max) :
    packedUint21ToBytes value = .panic "Cannot serialize value, too big" := by
  have hzero : value ≠ 0 := by
    intro heq
    subst heq
    exact absurd h (by decide)
  rw [packedUint21ToBytes, if_neg hzero, if_pos h]

/-- The four octets of `U21_MAX`. -/
theorem packedUint21ToBytes_u21Max :
    packedUint21ToBytes u21Max = .ok [0x80, 0x80, 0x80, 0x01] := by decide +kernel

theorem not_roundTrips_u21Max : ¬ RoundTrips u21Max := by
  intro h
  rcases h with ⟨bytes, hbytes, hread, -⟩
  rw [packedUint21ToBytes_u21Max, Outcome.ok.injEq] at hbytes
  subst hbytes
  exact absurd (hread []) (by decide)

/-- Of the numbers that the encoder accepts, all but `U21_MAX` are read back. -/
theorem roundTrips_iff_ne_u21Max (value : UInt32) :
    ((packedUint21ToBytes value).NoPanic → RoundTrips value) ↔ value ≠ u21Max := by
  constructor
  · intro h heq
    subst heq
    have hnoPanic : (packedUint21ToBytes u21Max).NoPanic := by
      rw [packedUint21ToBytes_u21Max]
      intro m hpanic
      cases hpanic
    exact not_roundTrips_u21Max (h hnoPanic)
  · intro hne hnoPanic
    rcases UInt32.lt_or_lt_of_ne hne with hlt | hgt
    · exact roundTrips_of_lt hlt
    · exact absurd (packedUint21ToBytes_of_gt hgt) (hnoPanic _)

/-- `U21_MAX` is accepted and not read back. -/
theorem accepted_u21Max_not_read :
    (packedUint21ToBytes 0x200000).NoPanic ∧ ¬ RoundTrips 0x200000 :=
  ⟨by decide +kernel, not_roundTrips_u21Max⟩

end ZigpySpinel.Spinel
