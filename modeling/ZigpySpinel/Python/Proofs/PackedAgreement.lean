import ZigpySpinel.Python.Proofs.PackedUInt21
import ZigpySpinel.Spinel.Proofs.PackedUint21

/-!
# The two packages read packed integers alike, unless they end too early

Both read at most three octets, and the digits of the same ones. Where an octet without
continuation bit comes too late both refuse. Where none comes at all the Rust package refuses;
the loop of the Python package then ends with the data, and what has been read counts as the
number if it is short enough.
-/

namespace ZigpySpinel.Python
open Lib Lib.Varint Spinel

/-- Both decoders return the same number with the same rest, or neither returns. -/
def PackedAgree (bytes : List UInt8) : Prop :=
  ∀ value rest, packedUint21Deserialize bytes = .ok (value, rest) ↔
    ∃ n : PackedUInt21, n.value = value.toNat ∧ PackedUInt21.deserialize bytes = .ok (n, rest)

/-- No octet ends the number, and the Python package does not get to a fourth one. -/
def EndsInside (bytes : List UInt8) : Prop :=
  bytes.length ≤ 3 ∧ ∀ byte ∈ bytes, byte &&& 0b10000000 ≠ 0

theorem PackedAgree.of_refused {bytes : List UInt8} {message : String}
    (hrust : packedUint21Deserialize bytes = .err message)
    (hpython : ∀ n rest, PackedUInt21.deserialize bytes ≠ .ok (n, rest)) : PackedAgree bytes := by
  intro value rest
  constructor
  · intro h
    rw [hrust] at h
    cases h
  · intro h
    rcases h with ⟨n, -, h⟩
    exact absurd h (hpython n rest)

/-! ## A number that ends in time -/

theorem ofDigits_lt {init : List Nat} {last : Nat} (hinit : ∀ d ∈ init, d < 128)
    (hlast : last < 128) (hlen : init.length ≤ 2) :
    Nat.ofDigits 128 (init ++ [last]) < 2 ^ 21 := by
  have hall : ∀ d ∈ init ++ [last], d < 128 := by
    intro d hd
    rcases List.mem_append.mp hd with h | h
    · exact hinit d h
    · rwa [List.mem_singleton.mp h]
  calc Nat.ofDigits 128 (init ++ [last]) < 128 ^ (init ++ [last]).length :=
        Nat.ofDigits_lt_base_pow_length (by omega) hall
    _ ≤ 128 ^ 3 := Nat.pow_le_pow_right (by omega) (by simp; omega)
    _ = 2 ^ 21 := by norm_num

theorem packedAgree_packed {init : List Nat} {last : Nat} (suffix : List UInt8)
    (hinit : ∀ d ∈ init, d < 128) (hlast : last < 128) (hlen : init.length ≤ 2) :
    PackedAgree (packed init last ++ suffix) := by
  have hlt := ofDigits_lt hinit hlast hlen
  have hrust := packedUint21Loop_packed 0 0 suffix hinit hlast (by omega) (by simp)
  have hpython := PackedUInt21.deserializeAs_packed PackedUInt21.ofNat suffix hinit hlast hlen
  rw [PackedUInt21.ofNat, dif_pos hlt] at hpython
  generalize hvalue : Nat.ofDigits 128 (init ++ [last]) = value at hlt hrust hpython
  have hnat : (UInt32.ofNat value).toNat = value := by
    rw [UInt32.toNat_ofNat', Nat.mod_eq_of_lt (by omega)]
  intro read rest
  rw [packedUint21Deserialize, hrust, PackedUInt21.deserialize, hpython]
  simp only [UInt32.toNat_zero, Nat.pow_zero, Nat.one_mul, Nat.zero_add, Except.map]
  constructor
  · intro h
    cases h
    exact ⟨⟨value, hlt⟩, hnat.symm, rfl⟩
  · intro h
    rcases h with ⟨n, hn, h⟩
    cases h
    have hread : UInt32.ofNat value = read := UInt32.toNat_inj.mp (hnat.trans hn)
    rw [hread]

/-! ## A number that does not -/

/-- The Rust package refuses when the data ends, and behind the third octet. -/
theorem packedUint21Loop_continued {init : List Nat} (result : UInt32) (index : Nat)
    (suffix : List UInt8) (hinit : ∀ d ∈ init, d < 128)
    (h : suffix = [] ∨ 3 ≤ index + init.length) (hindex : index ≤ 2) :
    packedUint21Loop result index (init.map continued ++ suffix) =
      .err "Packed uint21 did not terminate" := by
  induction init generalizing result index with
  | nil =>
    rcases h with rfl | h
    · rfl
    · rw [List.length_nil] at h
      omega
  | cons digit init ih =>
    have hdigit : digit < 128 := hinit digit (by simp)
    rw [List.map_cons, List.cons_append, packedUint21Loop, if_neg (continued_and_high hdigit)]
    by_cases hlast : index ≥ 2
    · rw [if_pos hlast]
    · rw [if_neg hlast]
      refine ih _ _ (fun d hd => hinit d (by simp [hd])) ?_ (by omega)
      rcases h with h | h
      · exact Or.inl h
      · rw [List.length_cons] at h
        exact Or.inr (by omega)

/-- The Python package raises at the fourth octet. -/
theorem readChunks_fourth {init : List Nat} (chunks : List UInt8) (byte : UInt8)
    (suffix : List UInt8) (hinit : ∀ d ∈ init, d < 128) (hlen : 3 ≤ chunks.length + init.length) :
    PackedUInt21.readChunks chunks (init.map continued ++ byte :: suffix) =
      .error (.valueError "Packed integer cannot be larger than 2097151") := by
  induction init generalizing chunks with
  | nil =>
    rw [List.length_nil, Nat.add_zero] at hlen
    have hfull : (chunks ++ [byte &&& 0b01111111]).length > 3 := by simp; omega
    rw [List.map_nil, List.nil_append, PackedUInt21.readChunks]
    exact if_pos hfull
  | cons digit init ih =>
    rw [List.length_cons] at hlen
    have hdigit : digit < 128 := hinit digit (by simp)
    rw [List.map_cons, List.cons_append, PackedUInt21.readChunks, continued_and_low hdigit]
    by_cases hfull : (chunks ++ [UInt8.ofNat digit]).length > 3
    · exact if_pos hfull
    · rw [if_neg hfull, if_neg (continued_and_high hdigit)]
      exact ih _ (fun d hd => hinit d (by simp [hd])) (by simp; omega)

/-- The Python package takes what there is for the number. -/
theorem readChunks_continued {init : List Nat} (chunks : List UInt8)
    (hinit : ∀ d ∈ init, d < 128) (hlen : chunks.length + init.length ≤ 3) :
    PackedUInt21.readChunks chunks (init.map continued) =
      .ok (chunks ++ init.map UInt8.ofNat) := by
  induction init generalizing chunks with
  | nil => rw [List.map_nil, List.map_nil, List.append_nil, PackedUInt21.readChunks]
  | cons digit init ih =>
    rw [List.length_cons] at hlen
    have hdigit : digit < 128 := hinit digit (by simp)
    have hfits : ¬ (chunks ++ [UInt8.ofNat digit]).length > 3 := by simp; omega
    rw [List.map_cons, PackedUInt21.readChunks, continued_and_low hdigit, if_neg hfits,
      if_neg (continued_and_high hdigit), ih _ (fun d hd => hinit d (by simp [hd]))
        (by simp; omega), List.append_assoc, List.map_cons]
    rfl

theorem packedAgree_fourth {init : List Nat} (byte : UInt8) (suffix : List UInt8)
    (hinit : ∀ d ∈ init, d < 128) (hlen : 3 ≤ init.length) :
    PackedAgree (init.map continued ++ byte :: suffix) := by
  refine .of_refused (packedUint21Loop_continued 0 0 _ hinit (Or.inr (by omega)) (by omega)) ?_
  intro n rest h
  rw [PackedUInt21.deserialize, PackedUInt21.deserializeAs,
    readChunks_fourth [] byte suffix hinit (by simpa using hlen)] at h
  cases h

theorem not_packedAgree_continued (init : List Nat) (hinit : ∀ d ∈ init, d < 128)
    (hlen : init.length ≤ 3) : ¬ PackedAgree (init.map continued) := by
  intro h
  have hrust := packedUint21Loop_continued 0 0 [] hinit (Or.inl rfl) (by omega)
  rw [List.append_nil] at hrust
  have hjoin : PackedUInt21.joinChunks (init.map UInt8.ofNat) < 2 ^ 21 := by
    rw [PackedUInt21.joinChunks_map hinit]
    calc Nat.ofDigits 128 init < 128 ^ init.length :=
          Nat.ofDigits_lt_base_pow_length (by omega) hinit
      _ ≤ 128 ^ 3 := Nat.pow_le_pow_right (by omega) hlen
      _ = 2 ^ 21 := by norm_num
  have hpython : PackedUInt21.deserialize (init.map continued) =
      .ok (⟨_, hjoin⟩, (init.map continued).drop (init.map UInt8.ofNat).length) := by
    rw [PackedUInt21.deserialize, PackedUInt21.deserializeAs,
      readChunks_continued [] hinit (by simpa using hlen), List.nil_append]
    change (PackedUInt21.ofNat _ >>= fun value => Except.ok (value, _)) = _
    rw [PackedUInt21.ofNat, dif_pos hjoin]
    rfl
  have hnat : (UInt32.ofNat (PackedUInt21.joinChunks (init.map UInt8.ofNat))).toNat =
      PackedUInt21.joinChunks (init.map UInt8.ofNat) := by
    rw [UInt32.toNat_ofNat', Nat.mod_eq_of_lt (by omega)]
  have hread := (h _ _).mpr ⟨_, hnat.symm, hpython⟩
  rw [packedUint21Deserialize, hrust] at hread
  cases hread

/-! ## Any byte string -/

/-- The two packages agree exactly on the byte strings that do not end inside the number. -/
theorem packedAgree_iff_not_endsInside (bytes : List UInt8) :
    PackedAgree bytes ↔ ¬ EndsInside bytes := by
  rcases packed_or_continued bytes with ⟨init, last, rest, hinit, hlast, rfl⟩ | ⟨init, hinit, rfl⟩
  · -- some octet ends the number
    have hends : ¬ EndsInside (packed init last ++ rest) := by
      intro h
      obtain ⟨b, hb, hlow⟩ := exists_low_mem_packed init hlast
      exact h.2 b (List.mem_append_left rest hb) hlow
    refine iff_of_true ?_ hends
    by_cases hlen : init.length ≤ 2
    · exact packedAgree_packed rest hinit hlast hlen
    · rw [packed, List.append_assoc]
      exact packedAgree_fourth _ rest hinit (by omega)
  · -- none does
    by_cases hlen : init.length ≤ 3
    · refine iff_of_false (not_packedAgree_continued init hinit hlen) (not_not.mpr ⟨?_, ?_⟩)
      · rwa [List.length_map]
      · exact high_of_mem_continued hinit
    · have hends : ¬ EndsInside (init.map continued) := by
        intro h
        exact hlen (by simpa using h.1)
      refine iff_of_true ?_ hends
      rcases List.eq_nil_or_concat init with rfl | ⟨front, last, rfl⟩
      · exact absurd (Nat.zero_le 3) hlen
      · rw [List.concat_eq_append] at hinit hlen ⊢
        rw [List.map_append, List.map_singleton]
        refine packedAgree_fourth _ [] (fun d hd => hinit d (by simp [hd])) ?_
        simp at hlen
        omega

/-- The Python package reads zero where there is nothing, and 128 from two octets that announce
    a third. -/
theorem endsInside_not_agree : ¬ PackedAgree [] ∧ ¬ PackedAgree [0x80, 0x81] ∧
    PackedUInt21.deserialize [0x80, 0x81] = .ok (⟨128, by decide⟩, []) := by
  refine ⟨?_, ?_, rfl⟩
  · exact not_packedAgree_continued [] (by simp) (by simp)
  · exact not_packedAgree_continued [0, 1] (by simp) (by simp)

end ZigpySpinel.Python
