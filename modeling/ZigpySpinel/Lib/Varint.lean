import Mathlib.Data.Nat.Digits.Lemmas
import ZigpySpinel.Lib.Bytes

/-!
# Numbers in seven-bit octets

A number is sent as its digits in base 128, the lowest first, an octet for each. The
high bit of an octet says that another one follows, so `packed init last` are the octets
of the digits `init` and of the last digit. An encoder that pushes every digit with its
high bit set keeps `Pending` from pass to pass, and clears the bit of the last octet when
nothing is left of the number.
-/

namespace ZigpySpinel.Lib.Varint

/-- The octet of a digit that others follow. -/
def continued (digit : Nat) : UInt8 := UInt8.ofNat digit ||| 0b10000000

/-- The octets of the digits `init`, then of the last digit. -/
def packed (init : List Nat) (last : Nat) : List UInt8 :=
  init.map continued ++ [UInt8.ofNat last]

/-! ## The bits of an octet -/

theorem octet_bits : ∀ digit : Fin 128,
    continued digit &&& 0b01111111 = UInt8.ofNat digit ∧ continued digit &&& 0b10000000 ≠ 0 ∧
      UInt8.ofNat digit &&& 0b01111111 = UInt8.ofNat digit ∧
      UInt8.ofNat digit &&& 0b10000000 = 0 := by decide +kernel

variable {digit : Nat}

theorem continued_and_low (h : digit < 128) :
    continued digit &&& 0b01111111 = UInt8.ofNat digit := (octet_bits ⟨digit, h⟩).1

theorem continued_and_high (h : digit < 128) : continued digit &&& 0b10000000 ≠ 0 :=
  (octet_bits ⟨digit, h⟩).2.1

theorem last_and_low (h : digit < 128) :
    UInt8.ofNat digit &&& 0b01111111 = UInt8.ofNat digit := (octet_bits ⟨digit, h⟩).2.2.1

theorem last_and_high (h : digit < 128) : UInt8.ofNat digit &&& 0b10000000 = 0 :=
  (octet_bits ⟨digit, h⟩).2.2.2

theorem toNat_octet (h : digit < 128) : (UInt8.ofNat digit).toNat = digit := by
  rw [UInt8.toNat_ofNat', Nat.mod_eq_of_lt (by omega)]

/-- A digit shifted past the bits of `result` is added to it. -/
theorem or_shiftLeft {result index : Nat} (hresult : result < 128 ^ index) :
    result ||| digit <<< (7 * index) = result + 128 ^ index * digit := by
  have hpow : (128 : Nat) ^ index = 2 ^ (7 * index) := by rw [Nat.pow_mul]
  have hsum := Nat.two_pow_add_eq_or_of_lt (hpow ▸ hresult) digit
  rw [hpow, Nat.shiftLeft_eq, Nat.mul_comm digit, Nat.or_comm, ← hsum, Nat.add_comm]

/-! ## Any byte string -/

theorem continued_or_last : ∀ b : UInt8,
    (b &&& 0b10000000 ≠ 0 → continued (b.toNat % 128) = b) ∧
      (b &&& 0b10000000 = 0 → UInt8.ofNat (b.toNat % 128) = b) := by decide +kernel

/-- A byte string starts with the octets of a number, or all of its octets are those of digits
    that another one should follow. -/
theorem packed_or_continued (bytes : List UInt8) :
    (∃ init last rest, (∀ d ∈ init, d < 128) ∧ last < 128 ∧ bytes = packed init last ++ rest) ∨
      ∃ init : List Nat, (∀ d ∈ init, d < 128) ∧ bytes = init.map continued := by
  induction bytes with
  | nil => exact Or.inr ⟨[], by simp, rfl⟩
  | cons b bytes ih =>
    have hdigit : b.toNat % 128 < 128 := Nat.mod_lt _ (by omega)
    obtain ⟨hcontinued, hlast⟩ := continued_or_last b
    by_cases hhigh : b &&& 0b10000000 = 0
    · refine Or.inl ⟨[], b.toNat % 128, bytes, by simp, hdigit, ?_⟩
      rw [packed, hlast hhigh]
      rfl
    · have hb := hcontinued hhigh
      rcases ih with ⟨init, last, rest, hinit, hlt, rfl⟩ | ⟨init, hinit, rfl⟩
      · refine Or.inl ⟨b.toNat % 128 :: init, last, rest, ?_, hlt, ?_⟩
        · exact List.forall_mem_cons.mpr ⟨hdigit, hinit⟩
        · rw [packed, packed, List.map_cons, hb]
          rfl
      · refine Or.inr ⟨b.toNat % 128 :: init, List.forall_mem_cons.mpr ⟨hdigit, hinit⟩, ?_⟩
        rw [List.map_cons, hb]

/-- The octets of a number end with one whose high bit is clear. -/
theorem exists_low_mem_packed (init : List Nat) {last : Nat} (hlast : last < 128) :
    ∃ b ∈ packed init last, b &&& 0b10000000 = 0 :=
  ⟨UInt8.ofNat last, by simp [packed], last_and_high hlast⟩

theorem high_of_mem_continued {init : List Nat} (hinit : ∀ d ∈ init, d < 128) :
    ∀ b ∈ init.map continued, b &&& 0b10000000 ≠ 0 := by
  intro b hb
  obtain ⟨d, hd, rfl⟩ := List.mem_map.mp hb
  exact continued_and_high (hinit d hd)

/-! ## Digits -/

/-- The digits of a number that is not zero, the last one apart. -/
theorem exists_digits {n : Nat} (hn : n ≠ 0) : ∃ init last, Nat.digits 128 n = init ++ [last] ∧
    (∀ d ∈ init, d < 128) ∧ last < 128 := by
  have hlt : ∀ d ∈ Nat.digits 128 n, d < 128 := fun d hd => Nat.digits_lt_base (by omega) hd
  rcases List.eq_nil_or_concat (Nat.digits 128 n) with hnil | ⟨init, last, hdigits⟩
  · exact absurd (Nat.digits_eq_nil_iff_eq_zero.mp hnil) hn
  · rw [List.concat_eq_append] at hdigits
    rw [hdigits] at hlt
    refine ⟨init, last, hdigits, ?_, hlt last (by simp)⟩
    intro d hd
    exact hlt d (by simp [hd])

theorem ofDigits_of_digits {n last : Nat} {init : List Nat}
    (h : Nat.digits 128 n = init ++ [last]) : Nat.ofDigits 128 (init ++ [last]) = n := by
  rw [← h, Nat.ofDigits_digits]

/-- A number below `128 ^ (k + 1)` has at most `k` digits before its last. -/
theorem length_init_le {n last k : Nat} {init : List Nat} (hn : n < 128 ^ (k + 1))
    (h : Nat.digits 128 n = init ++ [last]) : init.length ≤ k := by
  have hlen := (Nat.digits_length_le_iff (by omega : 1 < 128) n).mpr hn
  rw [h, List.length_append, List.length_singleton] at hlen
  omega

/-! ## Pushing octets until nothing is left -/

/-- The octets pushed so far, with those of what is left, are those of the number. -/
def Pending (number left : Nat) (chunks : List UInt8) : Prop :=
  chunks ++ (Nat.digits 128 left).map continued = (Nat.digits 128 number).map continued

theorem Pending.start (number : Nat) : Pending number number [] := rfl

theorem Pending.pass {number left : Nat} {chunks : List UInt8} (h : Pending number left chunks)
    (hleft : left ≠ 0) :
    Pending number (left / 128) (chunks ++ [continued (left % 128)]) := by
  rw [Pending, Nat.digits_eq_cons_digits_div (by omega) hleft] at h
  rw [Pending, ← h, List.map_cons, List.append_assoc, List.singleton_append]

theorem Pending.stop {number : Nat} {chunks : List UInt8} (h : Pending number 0 chunks) :
    chunks = (Nat.digits 128 number).map continued := by
  rw [Pending, Nat.digits_zero, List.map_nil, List.append_nil] at h
  exact h

/-- Clearing the high bit of the last octet leaves the packed number. -/
theorem Pending.clear {number last : Nat} {init : List Nat} {chunks : List UInt8}
    (h : Pending number 0 chunks) (hdigits : Nat.digits 128 number = init ++ [last])
    (hlast : last < 128) :
    chunks = init.map continued ++ [continued last] ∧
      init.map continued ++ [continued last &&& 0b01111111] = packed init last := by
  refine ⟨?_, ?_⟩
  · rw [h.stop, hdigits, List.map_append, List.map_cons, List.map_nil]
  · rw [continued_and_low hlast, packed]

end ZigpySpinel.Lib.Varint
