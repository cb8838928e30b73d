import ZigpySpinel.Ieee802154.Proofs.FrameCodec
import ZigpySpinel.Lib.Crc

/-!
# What the frame check sequence detects (`ieee_802154.rs:299-311`)

`compute_fcs` takes in a nibble at a time with a multiplication in place of a table. This
is the shift register of the polynomial `x^16 + x^12 + x^5 + 1` over the transmitted bits,
and a byte string passes the check only if the register is empty behind it. So an error
burst of at most 16 bits, which never empties the register, does not pass.
-/

namespace ZigpySpinel.Ieee802154
open Lib

/-- The transmitted bits, least significant bit of each byte first. -/
def transmittedBits (bytes : List UInt8) : List Bool := bytes.flatMap fun b => lsbFirst b.toBitVec

/-- The bits of a nibble, the low half of a byte. -/
def nibbleBits (c : UInt8) : List Bool := (List.range 4).map c.toBitVec.getLsbD

/-- `x^16 + x^12 + x^5 + 1`, the constant term in the most significant bit and without its
    leading term. -/
def fcsPolynomial : BitVec 16 := 0x8408#16

/-- The bytes pass the check of `from_bytes` (`ieee_802154.rs:164-169`): they are a frame
    and the frame check sequence that `compute_fcs` gives it. -/
def PassesFcs (bytes : List UInt8) : Prop :=
  ∃ data fcs, bytes = data ++ u16ToLeBytes fcs ∧ Ieee802154Frame.computeFcs data = fcs

namespace Ieee802154Frame

/-! ## Nibbles are four shifts -/

theorem lsbFirst_byte (c : UInt8) :
    lsbFirst c.toBitVec = nibbleBits (c >>> 0) ++ nibbleBits (c >>> 4) := by
  simp [lsbFirst, nibbleBits, List.range_succ]

theorem length_nibbleBits (c : UInt8) : (nibbleBits c).length = 4 := rfl

/-- A register of which only the low four bits are set takes in a nibble. -/
theorem fcsNibble_fin : ∀ low c : Fin 16,
    (fcsNibble (UInt16.ofNat low) (UInt8.ofNat c)).toBitVec =
      Crc.register fcsPolynomial (BitVec.ofNat 16 low) (nibbleBits (UInt8.ofNat c)) := by
  decide +kernel

theorem nibbleBits_and (c : UInt8) : nibbleBits (c &&& 0x0F) = nibbleBits c := by
  simp [nibbleBits, List.range_succ]

/-- The high four bits of the byte are masked. -/
theorem fcsNibble_and (crc : UInt16) (c : UInt8) : fcsNibble crc (c &&& 0x0F) = fcsNibble crc c := by
  have hmask : ∀ x : UInt8, (x ^^^ (c &&& 0x0F)) &&& 0x0F = (x ^^^ c) &&& 0x0F := by
    intro x
    apply UInt8.toNat_inj.mp
    simp only [UInt8.toNat_and, UInt8.toNat_xor, Nat.and_xor_distrib_right, Nat.and_assoc,
      Nat.and_self]
  rw [fcsNibble, fcsNibble, hmask]

theorem fcsNibble_low (low : Fin 16) (c : UInt8) :
    (fcsNibble (UInt16.ofNat low) c).toBitVec =
      Crc.register fcsPolynomial (BitVec.ofNat 16 low) (nibbleBits c) := by
  have hlt : (c &&& 0x0F).toNat < 16 := by
    rw [UInt8.toNat_and]
    exact Nat.lt_succ_of_le Nat.and_le_right
  have hfin := fcsNibble_fin low ⟨_, hlt⟩
  rwa [UInt8.ofNat_toNat, nibbleBits_and, fcsNibble_and] at hfin

theorem xor_and_distrib (a b mask : UInt16) : (a ^^^ b) &&& mask = (a &&& mask) ^^^ (b &&& mask) := by
  apply UInt16.toNat_inj.mp
  simp only [UInt16.toNat_and, UInt16.toNat_xor, Nat.and_xor_distrib_right]

/-- The nibble meets the low four bits of the register only. -/
theorem fcsNibble_xor {high : UInt16} (hhigh : high &&& 0x0F = 0) (low : UInt16) (c : UInt8) :
    fcsNibble (high ^^^ low) c = high >>> 4 ^^^ fcsNibble low c := by
  have hlow : (high ^^^ low) &&& 0x0F = low &&& 0x0F := by
    rw [xor_and_distrib, hhigh, UInt16.zero_xor]
  rw [fcsNibble, fcsNibble, hlow, UInt16.shiftRight_xor, UInt16.xor_assoc]

/-- A register is its low four bits and the rest. -/
theorem exists_low_high (crc : UInt16) :
    ∃ (high : UInt16) (low : Fin 16), high &&& 0x0F = 0 ∧ crc = high ^^^ UInt16.ofNat low := by
  have hlt : (crc &&& 0x0F).toNat < 16 := by
    rw [UInt16.toNat_and]
    exact Nat.lt_succ_of_le Nat.and_le_right
  refine ⟨crc &&& 0xFFF0, ⟨_, hlt⟩, ?_, ?_⟩
  · rw [UInt16.and_assoc, show (0xFFF0 : UInt16) &&& 0x0F = 0 by decide, UInt16.and_zero]
  · have hmask : (0xFFF0 : UInt16) ^^^ 0x0F = -1 := by decide
    rw [UInt16.ofNat_toNat, UInt16.and_comm crc, UInt16.and_comm crc, ← xor_and_distrib, hmask,
      UInt16.neg_one_and]

theorem fcsNibble_eq (crc : UInt16) (c : UInt8) :
    (fcsNibble crc c).toBitVec = Crc.register fcsPolynomial crc.toBitVec (nibbleBits c) := by
  obtain ⟨high, low, hhigh, rfl⟩ := exists_low_high crc
  have hclear : ∀ i < 4, high.toBitVec.getLsbD i = false := by
    intro i hi
    have hmask : ∀ j < 4, (0x0F : UInt16).toBitVec.getLsbD j = true := by decide
    have hbit : (high.toBitVec &&& (0x0F : UInt16).toBitVec).getLsbD i = (0#16).getLsbD i :=
      congrArg (fun x : UInt16 => x.toBitVec.getLsbD i) hhigh
    rwa [BitVec.getLsbD_and, hmask i hi, Bool.and_true, BitVec.getLsbD_zero] at hbit
  have hbits : List.zipWith xor (List.replicate 4 false) (nibbleBits c) = nibbleBits c := by
    simp [nibbleBits, List.range_succ]
  rw [fcsNibble_xor hhigh, UInt16.toBitVec_xor, UInt16.toBitVec_xor, fcsNibble_low, ← hbits,
    Crc.register_xor _ _ _ (by simp [length_nibbleBits]), Crc.register_replicate_false _ hclear, hbits]
  rfl

theorem fcsByte_eq (crc : UInt16) (c : UInt8) :
    (fcsByte crc c).toBitVec = Crc.register fcsPolynomial crc.toBitVec (lsbFirst c.toBitVec) := by
  rw [fcsByte, fcsNibble_eq, fcsNibble_eq, ← Crc.register_append, ← lsbFirst_byte]

/-! ## The check -/

/-- `compute_fcs` is the shift register over the transmitted bits. -/
theorem foldl_fcsByte (data : List UInt8) (crc : UInt16) :
    (data.foldl fcsByte crc).toBitVec =
      Crc.register fcsPolynomial crc.toBitVec (transmittedBits data) := by
  induction data generalizing crc with
  | nil => rfl
  | cons c data ih =>
    rw [List.foldl_cons, ih, fcsByte_eq, ← Crc.register_append]
    rfl

theorem computeFcs_eq (data : List UInt8) :
    (computeFcs data).toBitVec = Crc.register fcsPolynomial 0#16 (transmittedBits data) :=
  foldl_fcsByte data 0x0000

/-- The bits of the byte of a number that `8 * k` bits stand below. -/
theorem getLsbD_byte (fcs : UInt16) (k : Nat) {i : Nat} (hi : i < 8) :
    (UInt8.ofNat (fcs.toNat / 2 ^ (8 * k))).toBitVec.getLsbD i = fcs.toBitVec.getLsbD (8 * k + i) := by
  have hbyte : (UInt8.ofNat (fcs.toNat / 2 ^ (8 * k))).toBitVec.toNat =
      fcs.toNat / 2 ^ (8 * k) % 2 ^ 8 := UInt8.toNat_ofNat'
  have hfcs : fcs.toBitVec.toNat = fcs.toNat := rfl
  rw [BitVec.getLsbD, BitVec.getLsbD, hbyte, hfcs, Nat.testBit_mod_two_pow, Nat.testBit_div_two_pow,
    decide_eq_true hi, Bool.true_and, Nat.add_comm]

/-- The two bytes of a frame check sequence are transmitted as its sixteen bits. -/
theorem transmittedBits_fcs (fcs : UInt16) :
    transmittedBits (u16ToLeBytes fcs) = lsbFirst fcs.toBitVec := by
  have hbytes : u16ToLeBytes fcs =
      [UInt8.ofNat (fcs.toNat / 2 ^ (8 * 0)), UInt8.ofNat (fcs.toNat / 2 ^ (8 * 1))] := by
    simp [u16ToLeBytes, leBytes]
  have hrange : List.range 16 = List.range 8 ++ (List.range 8).map (8 + ·) := rfl
  rw [hbytes]
  simp only [transmittedBits, List.flatMap_cons, List.flatMap_nil, List.append_nil, lsbFirst, hrange,
    List.map_append, List.map_map]
  congr 1
  · refine List.map_congr_left ?_
    intro i hi
    rw [getLsbD_byte fcs 0 (List.mem_range.mp hi), Nat.mul_zero, Nat.zero_add]
  · refine List.map_congr_left ?_
    intro i hi
    rw [getLsbD_byte fcs 1 (List.mem_range.mp hi)]
    rfl

/-- The register is empty behind bytes that pass the check. -/
theorem register_of_passesFcs {bytes : List UInt8} (h : PassesFcs bytes) :
    Crc.register fcsPolynomial 0#16 (transmittedBits bytes) = 0#16 := by
  rcases h with ⟨data, fcs, rfl, rfl⟩
  rw [transmittedBits, List.flatMap_append, Crc.register_append]
  change Crc.register _ (Crc.register _ _ (transmittedBits data)) (transmittedBits (u16ToLeBytes _)) = _
  rw [transmittedBits_fcs, ← computeFcs_eq, Crc.register_lsbFirst]

/-- What is long enough and does not pass the check is refused with its error. -/
theorem fromBytes_of_not_passesFcs {bytes : List UInt8} (hlen : 4 ≤ bytes.length)
    (h : ¬ PassesFcs bytes) : fromBytes bytes = .err "Invalid FCS" := by
  obtain ⟨data, fcs, rfl, hdata⟩ := exists_append_fcs hlen
  rw [fromBytes_append hdata, if_pos]
  intro hfcs
  exact h ⟨data, fcs, rfl, hfcs⟩

/-- A received byte string that differs from one with a correct frame check sequence in an
    error burst of at most sixteen transmitted bits is refused, wherever the burst lies. -/
theorem fromBytes_burst {sent received : List UInt8} (hlen : 4 ≤ sent.length)
    (hpasses : PassesFcs sent) (hreceived : received.length = sent.length)
    (hburst : Burst 16 (transmittedBits sent) (transmittedBits received)) :
    fromBytes received = .err "Invalid FCS" := by
  refine fromBytes_of_not_passesFcs (by omega) ?_
  intro hagain
  have hpoly : fcsPolynomial.msb = true := by decide
  refine Crc.register_ne_of_burst hpoly hburst 0#16 ?_
  rw [register_of_passesFcs hpasses, register_of_passesFcs hagain]

/-- Two bits of an acknowledgement are flipped, the last one before the frame check sequence
    and the first one in it. -/
theorem fromBytes_burst_ack : fromBytes [0x02, 0x00, 0x51, 0xbd, 0x72] = .err "Invalid FCS" := by
  have hpasses : PassesFcs [0x02, 0x00, 0xd1, 0xbc, 0x72] :=
    ⟨[0x02, 0x00, 0xd1], 0x72BC, by decide, by decide⟩
  have hbits : ∀ i < 40, (transmittedBits [0x02, 0x00, 0xd1, 0xbc, 0x72])[i]? ≠
      (transmittedBits [0x02, 0x00, 0x51, 0xbd, 0x72])[i]? → 23 ≤ i ∧ i < 39 := by decide +kernel
  refine fromBytes_burst (by decide) hpasses (by decide) ⟨by decide, by decide, 23, ?_⟩
  intro i hi
  by_cases hlen : i < 40
  · exact hbits i hlen hi
  · refine absurd ?_ hi
    rw [List.getElem?_eq_none (Nat.not_lt.mp hlen), List.getElem?_eq_none (Nat.not_lt.mp hlen)]

end Ieee802154Frame

end ZigpySpinel.Ieee802154
