import Mathlib.Algebra.Group.Nat.Defs
import Mathlib.Data.List.Basic

/-!
# Shift registers of a cyclic redundancy check

A reflected CRC of width `w` takes the bits of a message one by one into a register of `w`
bits, the least significant bit of the register being that of the highest power of the
polynomial. The register is linear in exclusive or. If the polynomial has a constant term,
which is its most significant bit here, then no bit that is shifted out of the register is
lost, and a difference of two messages within `w` bits leaves a difference of the registers.
-/

namespace ZigpySpinel.Lib

/-- The bits of a word, least significant bit first. -/
def lsbFirst {w : Nat} (x : BitVec w) : List Bool := (List.range w).map x.getLsbD

/-- Two messages of one length that differ, in bits that all lie within some window of `k`
    consecutive ones. -/
structure Burst (k : Nat) (xs ys : List Bool) : Prop where
  length_eq : xs.length = ys.length
  ne : xs ≠ ys
  window : ∃ start, ∀ i : Nat, xs[i]? ≠ ys[i]? → start ≤ i ∧ i < start + k

namespace Crc

variable {w : Nat} (poly : BitVec w)

/-- One bit of the message goes into the register. -/
def shiftIn (r : BitVec w) (b : Bool) : BitVec w :=
  if r.getLsbD 0 ^^ b then (r >>> 1) ^^^ poly else r >>> 1

/-- The bits of a message go into the register one after the other. -/
def register (r : BitVec w) (bits : List Bool) : BitVec w := bits.foldl (shiftIn poly) r

@[simp] theorem register_nil (r : BitVec w) : register poly r [] = r := rfl

@[simp] theorem register_cons (r : BitVec w) (b : Bool) (bits : List Bool) :
    register poly r (b :: bits) = register poly (shiftIn poly r b) bits := rfl

theorem register_append (r : BitVec w) (xs ys : List Bool) :
    register poly r (xs ++ ys) = register poly (register poly r xs) ys := List.foldl_append

/-! ## Linearity -/

theorem shiftIn_xor (r s : BitVec w) (b c : Bool) :
    shiftIn poly (r ^^^ s) (b ^^ c) = shiftIn poly r b ^^^ shiftIn poly s c := by
  have hbit : ((r ^^^ s).getLsbD 0 ^^ (b ^^ c)) = ((r.getLsbD 0 ^^ b) ^^ (s.getLsbD 0 ^^ c)) := by
    rw [BitVec.getLsbD_xor]
    cases r.getLsbD 0 <;> cases s.getLsbD 0 <;> cases b <;> cases c <;> rfl
  rw [shiftIn, hbit, BitVec.ushiftRight_xor_distrib]
  unfold shiftIn
  cases r.getLsbD 0 ^^ b with
  | false =>
    cases s.getLsbD 0 ^^ c with
    | false => rfl
    | true => simp [BitVec.xor_assoc]
  | true =>
    cases s.getLsbD 0 ^^ c with
    | false => simp [BitVec.xor_assoc, BitVec.xor_comm poly]
    | true =>
      have hswap : (r >>> 1 ^^^ poly) ^^^ (s >>> 1 ^^^ poly) =
          (r >>> 1 ^^^ s >>> 1) ^^^ (poly ^^^ poly) := by ac_rfl
      simp [hswap]

/-- The register of the difference of two messages is the difference of their registers. -/
theorem register_xor (r s : BitVec w) {xs ys : List Bool} (hlen : xs.length = ys.length) :
    register poly (r ^^^ s) (List.zipWith xor xs ys) = register poly r xs ^^^ register poly s ys := by
  induction xs generalizing r s ys with
  | nil =>
    obtain rfl := List.length_eq_zero_iff.mp hlen.symm
    rfl
  | cons b xs ih =>
    cases ys with
    | nil => cases hlen
    | cons c ys =>
      rw [List.zipWith_cons_cons, register_cons, shiftIn_xor]
      exact ih _ _ (Nat.succ.inj hlen)

/-! ## Own bits -/

theorem shiftIn_own (r : BitVec w) : shiftIn poly r (r.getLsbD 0) = r >>> 1 := by
  simp [shiftIn]

/-- A word that takes in its own low bits moves down over them. -/
theorem register_own (r : BitVec w) (k : Nat) :
    register poly r ((List.range k).map r.getLsbD) = r >>> k := by
  induction k with
  | zero => simp
  | succ k ih =>
    have hbit : r.getLsbD k = (r >>> k).getLsbD 0 := by simp
    rw [List.range_succ, List.map_append, register_append, ih, List.map_singleton, register_cons,
      hbit, shiftIn_own, register_nil, BitVec.shiftRight_add]

/-- A register that takes in all its bits is empty. -/
theorem register_lsbFirst (r : BitVec w) : register poly r (lsbFirst r) = 0#w := by
  rw [lsbFirst, register_own]
  exact BitVec.ushiftRight_eq_zero (Nat.le_refl w)

/-- A word whose low bits are clear moves down over as many clear bits. -/
theorem register_replicate_false {r : BitVec w} {k : Nat} (h : ∀ i < k, r.getLsbD i = false) :
    register poly r (List.replicate k false) = r >>> k := by
  have hbits : (List.range k).map r.getLsbD = List.replicate k false := by
    rw [List.eq_replicate_iff]
    refine ⟨by simp, ?_⟩
    intro b hb
    obtain ⟨i, hi, rfl⟩ := List.mem_map.mp hb
    exact h i (List.mem_range.mp hi)
  rw [← hbits, register_own]

/-! ## Bursts -/

theorem two_pow_le_of_msb {x : BitVec w} (h : x.msb = true) : 2 ^ (w - 1) ≤ x.toNat := by
  simpa [BitVec.msb_eq_decide] using h

section Burst

variable {poly} (hpoly : poly.msb = true)
include hpoly

theorem msb_shift_xor (r : BitVec w) : ((r >>> 1) ^^^ poly).msb = true := by
  simp [BitVec.msb_xor, BitVec.msb_ushiftRight, hpoly]

/-- The highest bit of the register comes down by one place at most. -/
theorem two_pow_le_shiftIn {r : BitVec w} {k : Nat} (h : 2 ^ (k + 1) ≤ r.toNat) (b : Bool) :
    2 ^ k ≤ (shiftIn poly r b).toNat := by
  have hk : k ≤ w - 1 := by
    have hlt : 2 ^ (k + 1) < 2 ^ w := Nat.lt_of_le_of_lt h r.isLt
    have := (Nat.pow_lt_pow_iff_right (by decide)).mp hlt
    omega
  unfold shiftIn
  split
  · exact Nat.le_trans (Nat.pow_le_pow_right (by decide) hk)
      (two_pow_le_of_msb (msb_shift_xor hpoly r))
  · rw [BitVec.toNat_ushiftRight, Nat.shiftRight_eq_div_pow]
    omega

/-- No bit is lost. -/
theorem shiftIn_false_pos {r : BitVec w} (h : 0 < r.toNat) : 0 < (shiftIn poly r false).toNat := by
  unfold shiftIn
  split
  · exact Nat.lt_of_lt_of_le (Nat.two_pow_pos _) (two_pow_le_of_msb (msb_shift_xor hpoly r))
  · rename_i hbit
    have heven : r.toNat % 2 = 0 := by
      simpa [BitVec.getLsbD, Nat.testBit_zero] using hbit
    rw [BitVec.toNat_ushiftRight, Nat.shiftRight_eq_div_pow]
    omega

/-- A register with a bit at place `k` or above is not emptied by a message whose set bits
    are among its first `k`. -/
theorem register_ne_zero {bits : List Bool} {r : BitVec w} {k : Nat} (h : 2 ^ k ≤ r.toNat)
    (hbits : ∀ i, bits[i]? = some true → i < k) : register poly r bits ≠ 0#w := by
  induction bits generalizing r k with
  | nil =>
    have hpos := Nat.two_pow_pos k
    rintro rfl
    simp at h
  | cons b bits ih =>
    rw [register_cons]
    cases k with
    | zero =>
      cases b with
      | true => exact absurd (hbits 0 rfl) (Nat.lt_irrefl 0)
      | false =>
        refine ih (k := 0) (shiftIn_false_pos hpoly h) ?_
        intro i hi
        exact absurd (hbits (i + 1) hi) (Nat.not_lt_zero _)
    | succ k =>
      refine ih (two_pow_le_shiftIn hpoly h b) ?_
      intro i hi
      exact Nat.lt_of_succ_lt_succ (hbits (i + 1) hi)

/-- An empty register is not empty behind a message whose set bits lie within a window of
    its width. -/
theorem register_zero_ne_zero {bits : List Bool} (hset : true ∈ bits) (start : Nat)
    (hbits : ∀ i, bits[i]? = some true → start ≤ i ∧ i < start + w) :
    register poly 0#w bits ≠ 0#w := by
  induction bits generalizing start with
  | nil => cases hset
  | cons b bits ih =>
    rw [register_cons]
    cases b with
    | true =>
      have hstart : start = 0 := Nat.le_zero.mp (hbits 0 rfl).1
      have hshift : shiftIn poly 0#w true = poly := by simp [shiftIn]
      rw [hshift]
      refine register_ne_zero hpoly (two_pow_le_of_msb hpoly) ?_
      intro i hi
      have := (hbits (i + 1) hi).2
      omega
    | false =>
      have hshift : shiftIn poly 0#w false = 0#w := by simp [shiftIn]
      rw [hshift]
      refine ih (by simpa using hset) (start - 1) ?_
      intro i hi
      have := hbits (i + 1) hi
      omega

/-- Two messages that differ in a burst of at most the width of the register have different
    registers. -/
theorem register_ne_of_burst {xs ys : List Bool} (h : Burst w xs ys) (r : BitVec w) :
    register poly r xs ≠ register poly r ys := by
  intro heq
  obtain ⟨start, hwindow⟩ := h.window
  have hbit : ∀ i : Nat, (List.zipWith xor xs ys)[i]? = some true → xs[i]? ≠ ys[i]? := by
    intro i hi hsame
    rw [List.getElem?_zipWith, hsame] at hi
    cases hy : ys[i]? with
    | none => simp [hy] at hi
    | some b => simp [hy] at hi
  have hset : true ∈ List.zipWith xor xs ys := by
    by_contra hclear
    refine h.ne (List.ext_getElem h.length_eq ?_)
    intro i hx hy
    by_contra hne
    have hi : i < (List.zipWith xor xs ys).length := by
      rw [List.length_zipWith]
      exact Nat.lt_min.mpr ⟨hx, hy⟩
    refine hclear (List.mem_iff_getElem.mpr ⟨i, hi, ?_⟩)
    rw [List.getElem_zipWith]
    simpa using hne
  have hlinear := register_xor poly r r h.length_eq
  rw [BitVec.xor_self, heq, BitVec.xor_self] at hlinear
  exact register_zero_ne_zero hpoly hset start (fun i hi => hwindow i (hbit i hi)) hlinear

end Burst

end Crc

end ZigpySpinel.Lib
