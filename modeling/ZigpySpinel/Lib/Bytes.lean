import Mathlib.Data.FinEnum
import Mathlib.Data.Fintype.Basic
import Mathlib.Data.Nat.Bitwise
import Mathlib.Tactic.Ring

/-!
# Bytes and byte orders

Byte strings are lists of `UInt8`. `leBytes k n` and `ofLe` are the little-endian
encoding of a number in `k` bytes and its inverse; the fixed-width conversions
`to_le_bytes`, `from_le_bytes` and `to_be_bytes` of the machine integers are
instances of them. A byte is compared with another one bit by bit.
-/

namespace ZigpySpinel.Lib

/-- The `k` little-endian bytes of `n`, low byte first; what does not fit is cut off. -/
def leBytes : Nat → Nat → List UInt8
  | 0, _ => []
  | k + 1, n => UInt8.ofNat n :: leBytes k (n / 256)

/-- The number that little-endian bytes stand for. -/
def ofLe : List UInt8 → Nat
  | [] => 0
  | b :: bs => b.toNat + 256 * ofLe bs

@[simp] theorem length_leBytes (k n : Nat) : (leBytes k n).length = k := by
  induction k generalizing n with
  | zero => rfl
  | succ k ih => simp [leBytes, ih]

theorem ofLe_leBytes (k n : Nat) : ofLe (leBytes k n) = n % 256 ^ k := by
  induction k generalizing n with
  | zero => simp [leBytes, ofLe, Nat.mod_one]
  | succ k ih =>
    rw [leBytes, ofLe, ih, Nat.pow_succ', Nat.mod_mul, UInt8.toNat_ofNat']

theorem ofLe_lt (bs : List UInt8) : ofLe bs < 256 ^ bs.length := by
  induction bs with
  | nil => simp [ofLe]
  | cons b bs ih =>
    have hb : b.toNat < 256 := b.toNat_lt
    rw [ofLe, List.length_cons, Nat.pow_succ']
    omega

theorem leBytes_ofLe (bs : List UInt8) : leBytes bs.length (ofLe bs) = bs := by
  induction bs with
  | nil => rfl
  | cons b bs ih =>
    have hb : b.toNat < 256 := b.toNat_lt
    have hdiv : ofLe (b :: bs) / 256 = ofLe bs := by rw [ofLe]; omega
    have hmod : UInt8.ofNat (ofLe (b :: bs)) = b := by
      apply UInt8.toNat_inj.mp
      rw [UInt8.toNat_ofNat', ofLe]
      omega
    rw [List.length_cons, leBytes, hdiv, ih, hmod]

/-- Numbers below `256 ^ k` are told apart by their `k` bytes. -/
theorem leBytes_inj {k m n : Nat} (hm : m < 256 ^ k) (hn : n < 256 ^ k)
    (h : leBytes k m = leBytes k n) : m = n := by
  have := congrArg ofLe h
  rwa [ofLe_leBytes, ofLe_leBytes, Nat.mod_eq_of_lt hm, Nat.mod_eq_of_lt hn] at this

theorem take_leBytes (k j n : Nat) : (leBytes (k + j) n).take k = leBytes k n := by
  induction k generalizing n with
  | zero => rw [List.take_zero, leBytes]
  | succ k ih => rw [Nat.succ_add, leBytes, List.take_succ_cons, ih, leBytes]

/-- The `k` big-endian bytes of `n`. -/
def beBytes (k n : Nat) : List UInt8 := (leBytes k n).reverse

@[simp] theorem length_beBytes (k n : Nat) : (beBytes k n).length = k := by simp [beBytes]

/-- The low bytes of a longer big-endian encoding. -/
theorem drop_beBytes (k j n : Nat) : (beBytes (k + j) n).drop j = beBytes k n := by
  have hlen : (leBytes (k + j) n).length - j = k := by simp
  rw [beBytes, List.drop_reverse, hlen, take_leBytes, beBytes]

/-- The `k` low bytes of two numbers are equal only if the numbers are modulo `256 ^ k`. -/
theorem mod_of_beBytes {k m n : Nat} (h : beBytes k m = beBytes k n) :
    m % 256 ^ k = n % 256 ^ k := by
  rw [beBytes, beBytes, List.reverse_inj] at h
  rw [← ofLe_leBytes, ← ofLe_leBytes, h]

/-- A byte array `[u8; n]`: a byte string together with its length. -/
abbrev FixedBytes (n : Nat) : Type := { bytes : List UInt8 // bytes.length = n }

/-- `to_le_bytes` of a `u16`. -/
def u16ToLeBytes (n : UInt16) : List UInt8 := leBytes 2 n.toNat
/-- `to_be_bytes` of a `u16`. -/
def u16ToBeBytes (n : UInt16) : List UInt8 := beBytes 2 n.toNat
/-- `u16::from_le_bytes`. -/
def u16FromLeBytes (b0 b1 : UInt8) : UInt16 := UInt16.ofNat (ofLe [b0, b1])
/-- `to_le_bytes` of a `u32`. -/
def u32ToLeBytes (n : UInt32) : List UInt8 := leBytes 4 n.toNat
/-- `u32::from_le_bytes`. -/
def u32FromLeBytes (b0 b1 b2 b3 : UInt8) : UInt32 := UInt32.ofNat (ofLe [b0, b1, b2, b3])
/-- `u32::from_le_bytes` of the bytes of an array. -/
def u32FromLeArray (bytes : List UInt8) : UInt32 := UInt32.ofNat (ofLe bytes)
/-- `to_le_bytes` of a `u64`. -/
def u64ToLeBytes (n : UInt64) : List UInt8 := leBytes 8 n.toNat
/-- `u64::from_le_bytes` of the bytes of an array. -/
def u64FromLeArray (bytes : List UInt8) : UInt64 := UInt64.ofNat (ofLe bytes)
/-- `to_be_bytes` of a 64-bit `usize`. -/
def usizeToBeBytes (n : Nat) : List UInt8 := beBytes 8 n

@[simp] theorem length_u16ToLeBytes (n : UInt16) : (u16ToLeBytes n).length = 2 :=
  length_leBytes 2 _
@[simp] theorem length_u16ToBeBytes (n : UInt16) : (u16ToBeBytes n).length = 2 := by
  simp [u16ToBeBytes]
@[simp] theorem length_u32ToLeBytes (n : UInt32) : (u32ToLeBytes n).length = 4 :=
  length_leBytes 4 _
@[simp] theorem length_usizeToBeBytes (n : Nat) : (usizeToBeBytes n).length = 8 := by
  simp [usizeToBeBytes]

/-- A `u16` is its two little-endian bytes. -/
theorem u16ToLeBytes_eq (n : UInt16) :
    ∃ b0 b1, u16ToLeBytes n = [b0, b1] ∧ u16FromLeBytes b0 b1 = n := by
  refine ⟨_, _, rfl, ?_⟩
  have hn : n.toNat < 256 ^ 2 := by simpa using n.toNat_lt
  change UInt16.ofNat (ofLe (leBytes 2 n.toNat)) = n
  rw [ofLe_leBytes, Nat.mod_eq_of_lt hn, UInt16.ofNat_toNat]

theorem u16ToLeBytes_fromLeBytes (b0 b1 : UInt8) :
    u16ToLeBytes (u16FromLeBytes b0 b1) = [b0, b1] := by
  have hlt : ofLe [b0, b1] < 2 ^ 16 := by simpa using ofLe_lt [b0, b1]
  have hnat : (u16FromLeBytes b0 b1).toNat = ofLe [b0, b1] := by
    rw [u16FromLeBytes, UInt16.toNat_ofNat', Nat.mod_eq_of_lt hlt]
  rw [u16ToLeBytes, hnat]
  exact leBytes_ofLe [b0, b1]

theorem u16ToLeBytes_eq_iff {n : UInt16} {b0 b1 : UInt8} :
    u16ToLeBytes n = [b0, b1] ↔ n = u16FromLeBytes b0 b1 := by
  constructor
  · intro h
    obtain ⟨c0, c1, hbytes, hvalue⟩ := u16ToLeBytes_eq n
    rw [hbytes] at h
    cases h
    exact hvalue.symm
  · rintro rfl
    exact u16ToLeBytes_fromLeBytes b0 b1

theorem u16ToLeBytes_inj {m n : UInt16} (h : u16ToLeBytes m = u16ToLeBytes n) : m = n := by
  have hm : m.toNat < 256 ^ 2 := by simpa using m.toNat_lt
  have hn : n.toNat < 256 ^ 2 := by simpa using n.toNat_lt
  exact UInt16.toNat_inj.mp (leBytes_inj hm hn h)

/-- A `u32` is its four little-endian bytes. -/
theorem u32ToLeBytes_eq (n : UInt32) :
    ∃ b0 b1 b2 b3, u32ToLeBytes n = [b0, b1, b2, b3] ∧ u32FromLeBytes b0 b1 b2 b3 = n := by
  refine ⟨_, _, _, _, rfl, ?_⟩
  have hn : n.toNat < 256 ^ 4 := by simpa using n.toNat_lt
  change UInt32.ofNat (ofLe (leBytes 4 n.toNat)) = n
  rw [ofLe_leBytes, Nat.mod_eq_of_lt hn, UInt32.ofNat_toNat]

theorem u32ToLeBytes_fromLeArray {bytes : List UInt8} (h : bytes.length = 4) :
    u32ToLeBytes (u32FromLeArray bytes) = bytes := by
  have hlt : ofLe bytes < 2 ^ 32 := by simpa [h] using ofLe_lt bytes
  have hnat : (u32FromLeArray bytes).toNat = ofLe bytes := by
    rw [u32FromLeArray, UInt32.toNat_ofNat', Nat.mod_eq_of_lt hlt]
  rw [u32ToLeBytes, hnat, ← h, leBytes_ofLe]

theorem u32ToLeBytes_fromLeBytes (b0 b1 b2 b3 : UInt8) :
    u32ToLeBytes (u32FromLeBytes b0 b1 b2 b3) = [b0, b1, b2, b3] :=
  u32ToLeBytes_fromLeArray rfl

theorem u64ToLeBytes_fromLeArray {bytes : List UInt8} (h : bytes.length = 8) :
    u64ToLeBytes (u64FromLeArray bytes) = bytes := by
  have hlt : ofLe bytes < 2 ^ 64 := by simpa [h] using ofLe_lt bytes
  have hnat : (u64FromLeArray bytes).toNat = ofLe bytes := by
    rw [u64FromLeArray, UInt64.toNat_ofNat', Nat.mod_eq_of_lt hlt]
  rw [u64ToLeBytes, hnat, ← h, leBytes_ofLe]

theorem u32ToLeBytes_inj {m n : UInt32} (h : u32ToLeBytes m = u32ToLeBytes n) : m = n := by
  have hm : m.toNat < 256 ^ 4 := by simpa using m.toNat_lt
  have hn : n.toNat < 256 ^ 4 := by simpa using n.toNat_lt
  exact UInt32.toNat_inj.mp (leBytes_inj hm hn h)

/-! ## The bits of a byte -/

theorem ofNat_eq_of_eq_toNat {n : Nat} {b : UInt8} (h : n = b.toNat) : UInt8.ofNat n = b := by
  rw [h, UInt8.ofNat_toNat]

/-- Bytes are the same if their eight bits are. -/
theorem eq_of_bits {a b : UInt8}
    (h0 : a.toBitVec.getLsbD 0 = b.toBitVec.getLsbD 0)
    (h1 : a.toBitVec.getLsbD 1 = b.toBitVec.getLsbD 1)
    (h2 : a.toBitVec.getLsbD 2 = b.toBitVec.getLsbD 2)
    (h3 : a.toBitVec.getLsbD 3 = b.toBitVec.getLsbD 3)
    (h4 : a.toBitVec.getLsbD 4 = b.toBitVec.getLsbD 4)
    (h5 : a.toBitVec.getLsbD 5 = b.toBitVec.getLsbD 5)
    (h6 : a.toBitVec.getLsbD 6 = b.toBitVec.getLsbD 6)
    (h7 : a.toBitVec.getLsbD 7 = b.toBitVec.getLsbD 7) : a = b := by
  refine UInt8.eq_of_toBitVec_eq (BitVec.eq_of_getLsbD_eq fun i hi => ?_)
  have hcases : i = 0 ∨ i = 1 ∨ i = 2 ∨ i = 3 ∨ i = 4 ∨ i = 5 ∨ i = 6 ∨ i = 7 := by omega
  rcases hcases with rfl | rfl | rfl | rfl | rfl | rfl | rfl | rfl
  all_goals assumption

/-- A flag that is shifted to the lowest bit. -/
theorem shiftRight_and_one_beq (b k : UInt8) (hk : k < 8) :
    ((b >>> k) &&& 1 == 1) = b.toBitVec.getLsbD k.toNat := by
  have hshift : k.toNat % 8 = k.toNat := Nat.mod_eq_of_lt hk
  rw [BitVec.getLsbD, UInt8.toNat_toBitVec, Nat.testBit_eq_decide_div_mod_eq, Bool.eq_iff_iff,
    beq_iff_eq, decide_eq_true_iff, ← UInt8.toNat_inj, UInt8.toNat_and, UInt8.toNat_shiftRight,
    hshift, Nat.shiftRight_eq_div_pow]
  exact Eq.congr_left (Nat.and_one_is_mod _)

/-- A flag that is masked where it stands. -/
theorem and_twoPow_bne (b mask : UInt8) (k : Nat) (hmask : mask.toNat = 2 ^ k) :
    ((b &&& mask) != 0) = b.toBitVec.getLsbD k := by
  rw [BitVec.getLsbD, UInt8.toNat_toBitVec, Bool.eq_iff_iff, bne_iff_ne, ne_eq, ← UInt8.toNat_inj,
    UInt8.toNat_and, hmask, Nat.and_two_pow]
  cases b.toNat.testBit k with
  | true => simp
  | false => simp

/-- The low bits of a byte. -/
theorem and_low (b : UInt8) {mask : UInt8} {k : Nat} (hmask : mask.toNat = 2 ^ k - 1) :
    b &&& mask = UInt8.ofNat (b.toNat % 2 ^ k) := by
  symm
  apply ofNat_eq_of_eq_toNat
  rw [UInt8.toNat_and, hmask, Nat.and_two_pow_sub_one_eq_mod]

/-- What a mask leaves is no more than the mask. -/
theorem and_lt_of_lt (b : UInt8) {mask bound : UInt8} (h : mask < bound) : b &&& mask < bound := by
  rw [UInt8.lt_iff_toNat_lt, UInt8.toNat_and]
  exact Nat.lt_of_le_of_lt Nat.and_le_right h

end ZigpySpinel.Lib
