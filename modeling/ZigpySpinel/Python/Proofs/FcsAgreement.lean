import ZigpySpinel.Ieee802154.Proofs.FcsDetection
import ZigpySpinel.Python.Ieee802154

/-!
# Both frame check sequences are the bitwise one

The factor of `0x1081` is a nibble, and `15 * 0x1081` still has 16 bits, so the product
that the Rust package computes in a `u16` is the one that the Python package computes
without a width. Their registers agree after every byte, and that of the Rust package is
the shift register over the bits.
-/

namespace ZigpySpinel.Ieee802154.Ieee802154Frame
open Lib

/-- The factors `q` and `r` of `compute_fcs`. -/
def fcsFactor (crc : UInt16) (c : UInt8) : UInt8 := ((crc &&& 0x0F).toUInt8 ^^^ c) &&& 0x0F

theorem fcsNibble_eq_factor (crc : UInt16) (c : UInt8) :
    fcsNibble crc c = (crc >>> 4) ^^^ ((fcsFactor crc c).toUInt16 * 0x1081) := rfl

theorem toNat_fcsFactor (crc : UInt16) (c : UInt8) :
    (fcsFactor crc c).toNat = (crc.toNat ^^^ c.toNat) &&& 15 := by
  have hlow : crc.toNat &&& 15 < 16 := Nat.lt_succ_of_le Nat.and_le_right
  have hmask : (crc &&& 0x0F).toUInt8.toNat = crc.toNat &&& 15 := by
    rw [UInt16.toNat_toUInt8, UInt16.toNat_and]
    exact Nat.mod_eq_of_lt (by change crc.toNat &&& 15 < 2 ^ 8; omega)
  rw [fcsFactor, UInt8.toNat_and, UInt8.toNat_xor, hmask]
  change ((crc.toNat &&& 15) ^^^ c.toNat) &&& 15 = _
  rw [Nat.and_xor_distrib_right, Nat.and_xor_distrib_right, Nat.and_assoc, Nat.and_self]

/-- No product leaves the 16 bits. -/
theorem fcsFactor_mul_lt (crc : UInt16) (c : UInt8) :
    (fcsFactor crc c).toNat * 0x1081 < 2 ^ 16 := by
  have hle : (fcsFactor crc c).toNat ≤ 15 := by
    rw [toNat_fcsFactor]
    exact Nat.and_le_right
  omega

theorem toNat_fcsFactor_mul (crc : UInt16) (c : UInt8) :
    ((fcsFactor crc c).toUInt16 * 0x1081).toNat = (fcsFactor crc c).toNat * 0x1081 := by
  rw [UInt16.toNat_mul, UInt8.toNat_toUInt16]
  exact Nat.mod_eq_of_lt (fcsFactor_mul_lt crc c)

end ZigpySpinel.Ieee802154.Ieee802154Frame

namespace ZigpySpinel.Python.IEEE802154Frame
open Lib Ieee802154

/-! ## The registers agree -/

theorem fcsNibble_toNat (crc : UInt16) (c : UInt8) :
    fcsNibble crc.toNat c.toNat = (Ieee802154Frame.fcsNibble crc c).toNat := by
  have hshift : (crc >>> 4).toNat = crc.toNat / 16 := Nat.shiftRight_eq_div_pow crc.toNat 4
  rw [Ieee802154Frame.fcsNibble_eq_factor, UInt16.toNat_xor, hshift,
    Ieee802154Frame.toNat_fcsFactor_mul, Ieee802154Frame.toNat_fcsFactor]
  rfl

theorem fcsByte_toNat (crc : UInt16) (c : UInt8) :
    fcsByte crc.toNat c = (Ieee802154Frame.fcsByte crc c).toNat := by
  have hlow : c >>> 0 = c := by
    apply UInt8.toNat_inj.mp
    rfl
  have hhigh : (c >>> 4).toNat = c.toNat / 16 := Nat.shiftRight_eq_div_pow c.toNat 4
  rw [fcsByte, Ieee802154Frame.fcsByte, hlow, fcsNibble_toNat, ← hhigh, fcsNibble_toNat]

theorem foldl_fcsByte_toNat (data : List UInt8) (crc : UInt16) :
    data.foldl fcsByte crc.toNat = (data.foldl Ieee802154Frame.fcsByte crc).toNat := by
  induction data generalizing crc with
  | nil => rfl
  | cons c data ih => rw [List.foldl_cons, List.foldl_cons, fcsByte_toNat, ih]

/-- `_compute_fcs` returns the bytes that `to_bytes` puts behind a frame. -/
theorem computeFcs_eq_toLeBytes (data : List UInt8) :
    computeFcs data = .ok (u16ToLeBytes (Ieee802154Frame.computeFcs data)) := by
  have hcrc : data.foldl fcsByte 0x0000 = (Ieee802154Frame.computeFcs data).toNat :=
    foldl_fcsByte_toNat data 0
  have hlt : (Ieee802154Frame.computeFcs data).toNat < 256 ^ 2 := UInt16.toNat_lt _
  rw [computeFcs]
  change toBytesLittle (data.foldl fcsByte 0x0000) 2 = _
  rw [hcrc, toBytesLittle_of_lt hlt, u16ToLeBytes]

/-- `compute_fcs` is the CRC of the bits, its multiplications do not overflow, and
    `_compute_fcs` returns its little-endian bytes. -/
theorem computeFcs_bitwise (data : List UInt8) :
    (Ieee802154Frame.computeFcs data).toBitVec =
        Crc.register 0x8408#16 0#16 (transmittedBits data) ∧
      (∀ crc c, (Ieee802154Frame.fcsFactor crc c).toNat * 0x1081 < 2 ^ 16 ∧
        Ieee802154Frame.fcsNibble crc c =
          (crc >>> 4) ^^^ ((Ieee802154Frame.fcsFactor crc c).toUInt16 * 0x1081)) ∧
      computeFcs data = .ok (u16ToLeBytes (Ieee802154Frame.computeFcs data)) := by
  refine ⟨Ieee802154Frame.computeFcs_eq data, ?_, computeFcs_eq_toLeBytes data⟩
  intro crc c
  exact ⟨Ieee802154Frame.fcsFactor_mul_lt crc c, Ieee802154Frame.fcsNibble_eq_factor crc c⟩

end ZigpySpinel.Python.IEEE802154Frame
