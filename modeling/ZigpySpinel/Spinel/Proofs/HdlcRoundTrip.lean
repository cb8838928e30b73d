import ZigpySpinel.Spinel.Hdlc

/-!
# An escaped frame is read back

`toBytes` emits no special byte but Escape, never at the end, and `fromBytes` undoes it:
the unescaping loop, started in the state of a frame that is not inside an escape pair,
appends to its data exactly the byte that `escapeByte` encoded.
-/

namespace ZigpySpinel.Spinel.HdlcLiteFrame
open Lib

theorem isSpecial_escape : isSpecial HdlcSpecial.escape.toU8 = true := by decide

theorem isSpecial_flag : isSpecial HdlcSpecial.flag.toU8 = true := by decide

theorem xor_bit5_xor_bit5 (byte : UInt8) : byte ^^^ 0x20 ^^^ 0x20 = byte := by
  rw [UInt8.xor_assoc, UInt8.xor_self, UInt8.xor_zero]

/-- Flipping bit 5 takes a special byte out of the special bytes. -/
theorem isSpecial_special_xor : ∀ byte : UInt8, isSpecial byte = true →
    isSpecial (byte ^^^ 0x20) = false := by decide +kernel

/-- An escaped byte is at most an Escape, then a byte that is not special. -/
theorem escapeByte_eq_concat (byte : UInt8) : ∃ init last, escapeByte byte = init ++ [last] ∧
    (∀ x ∈ init, x = HdlcSpecial.escape.toU8) ∧ isSpecial last = false := by
  unfold escapeByte
  by_cases h : isSpecial byte = true
  · rw [if_pos h]
    exact ⟨[HdlcSpecial.escape.toU8], byte ^^^ 0x20, rfl, by simp, isSpecial_special_xor byte h⟩
  · rw [if_neg h]
    exact ⟨[], byte, rfl, by simp, by simpa using h⟩

/-- Escape is the only special byte that is emitted. -/
theorem mem_escapeByte {byte x : UInt8} (h : x ∈ escapeByte byte) :
    x = HdlcSpecial.escape.toU8 ∨ isSpecial x = false := by
  obtain ⟨init, last, heq, hinit, hlast⟩ := escapeByte_eq_concat byte
  rw [heq, List.mem_append, List.mem_singleton] at h
  rcases h with h | rfl
  · exact .inl (hinit x h)
  · exact .inr hlast

theorem escapeByte_ne_nil (byte : UInt8) : escapeByte byte ≠ [] := by
  unfold escapeByte
  split <;> simp

/-- The second byte of an escape pair. -/
theorem unescapeByte_escaped (data : List UInt8) {byte : UInt8} (h : isSpecial byte = true) :
    unescapeByte { data := data, unescaping := true } (byte ^^^ 0x20) =
      .ok { data := data ++ [byte], unescaping := false } := by
  rw [unescapeByte, if_pos rfl, xor_bit5_xor_bit5]
  exact if_pos h

/-- Outside an escape pair the loop reads back one escaped byte. -/
theorem unescape_escapeByte (data : List UInt8) (byte : UInt8) :
    (escapeByte byte).foldlM unescapeByte { data := data, unescaping := false } =
      .ok { data := data ++ [byte], unescaping := false } := by
  unfold escapeByte
  by_cases h : isSpecial byte = true
  · have hescape : unescapeByte { data := data, unescaping := false } HdlcSpecial.escape.toU8 =
        .ok { data := data, unescaping := true } := rfl
    rw [if_pos h, List.foldlM_cons, hescape, Outcome.ok_bind, List.foldlM_cons,
      unescapeByte_escaped data h]
    rfl
  · have hescape : byte ≠ HdlcSpecial.escape.toU8 := by
      intro heq
      subst heq
      exact h isSpecial_escape
    have hflag : byte ≠ HdlcSpecial.flag.toU8 := by
      intro heq
      subst heq
      exact h isSpecial_flag
    simp [h, unescapeByte, hescape, hflag]

theorem unescape_flatMap_escapeByte (bytes data : List UInt8) :
    (bytes.flatMap escapeByte).foldlM unescapeByte { data := data, unescaping := false } =
      .ok { data := data ++ bytes, unescaping := false } := by
  induction bytes generalizing data with
  | nil => simp
  | cons byte bytes ih =>
    rw [List.flatMap_cons, List.foldlM_append, unescape_escapeByte, Outcome.ok_bind, ih,
      List.append_assoc, List.singleton_append]

theorem length_le_flatMap_escapeByte (bytes : List UInt8) :
    bytes.length ≤ (bytes.flatMap escapeByte).length := by
  induction bytes with
  | nil => simp
  | cons byte bytes ih =>
    have := List.length_pos_of_ne_nil (escapeByte_ne_nil byte)
    simp only [List.flatMap_cons, List.length_append, List.length_cons]
    omega

/-- Outside an escape pair Flag bytes are skipped. -/
theorem unescape_replicate_flag (data : List UInt8) (n : Nat) :
    (List.replicate n HdlcSpecial.flag.toU8).foldlM unescapeByte
        { data := data, unescaping := false } =
      .ok { data := data, unescaping := false } := by
  induction n with
  | zero => rfl
  | succ n ih => rw [List.replicate_succ, List.foldlM_cons, ← ih]; rfl

/-- What a pass of the loop can do. -/
theorem unescapeByte_cases {st st' : Unescape} {byte : UInt8}
    (h : unescapeByte st byte = .ok st') :
    (st.unescaping = true ∧ isSpecial (byte ^^^ 0x20) = true ∧
        st' = { data := st.data ++ [byte ^^^ 0x20], unescaping := false }) ∨
      (st.unescaping = false ∧ byte = HdlcSpecial.escape.toU8 ∧
        st' = { data := st.data, unescaping := true }) ∨
      (st.unescaping = false ∧ byte = HdlcSpecial.flag.toU8 ∧ st' = st) ∨
      (st.unescaping = false ∧ byte ≠ HdlcSpecial.flag.toU8 ∧
        byte ≠ HdlcSpecial.escape.toU8 ∧
        st' = { data := st.data ++ [byte], unescaping := false }) := by
  rcases st with ⟨data, unescaping⟩
  cases unescaping with
  | true =>
    by_cases hspecial : isSpecial (byte ^^^ 0x20) = true
    · simp only [unescapeByte, hspecial, if_true, Outcome.ok.injEq] at h
      exact .inl ⟨rfl, hspecial, h.symm⟩
    · simp [unescapeByte, hspecial] at h
  | false =>
    simp only [unescapeByte, Bool.false_eq_true, if_false] at h
    by_cases hescape : byte = HdlcSpecial.escape.toU8
    · rw [if_pos hescape, Outcome.ok.injEq] at h
      exact .inr (.inl ⟨rfl, hescape, h.symm⟩)
    · rw [if_neg hescape] at h
      by_cases hflag : byte = HdlcSpecial.flag.toU8
      · rw [if_pos hflag, Outcome.ok.injEq] at h
        exact .inr (.inr (.inl ⟨rfl, hflag, h.symm⟩))
      · rw [if_neg hflag, Outcome.ok.injEq] at h
        exact .inr (.inr (.inr ⟨rfl, hflag, hescape, h.symm⟩))

/-- A pass appends at most one byte. -/
theorem length_data_of_unescape {bytes : List UInt8} {st : Unescape}
    (h : bytes.foldlM unescapeByte {} = .ok st) : st.data.length ≤ bytes.length := by
  refine Outcome.foldlM_inv (fun done st => st.data.length ≤ done.length) ?_ (Nat.le_refl 0) h
  intro done byte st st' hle hbyte
  rw [List.length_append, List.length_singleton]
  rcases unescapeByte_cases hbyte with ⟨-, -, rfl⟩ | ⟨-, -, rfl⟩ | ⟨-, -, rfl⟩ | ⟨-, -, -, rfl⟩
  · simpa using hle
  · exact Nat.le_succ_of_le hle
  · exact Nat.le_succ_of_le hle
  · simpa using hle

variable (crcKermit : List UInt8 → UInt16)

/-- `from_bytes` returns the data that the loop leaves in front of its CRC. -/
theorem fromBytes_eq_ok_iff {bytes : List UInt8} {frame : HdlcLiteFrame} :
    fromBytes crcKermit bytes = .ok frame ↔ ∃ st, bytes.foldlM unescapeByte {} = .ok st ∧
      st.data = frame.data ++ u16ToLeBytes (crcOf crcKermit frame.data) := by
  constructor
  · intro h
    rw [fromBytes] at h
    split at h
    · cases h
    · obtain ⟨st, hloop, h⟩ := Outcome.bind_eq_ok.mp h
      refine ⟨st, hloop, ?_⟩
      dsimp only at h
      split at h
      · cases h
      · split at h
        next lo hi hcrc =>
          split at h
          · cases h
          next heq =>
            rw [Outcome.ok.injEq] at h
            subst h
            have hcrc' := u16ToLeBytes_eq_iff.mpr (not_not.mp heq)
            rw [hcrc', ← hcrc, List.take_append_drop]
        · cases h
  · intro hends
    rcases hends with ⟨st, hloop, hdata⟩
    obtain ⟨lo, hi, hcrc, hvalue⟩ := u16ToLeBytes_eq (crcOf crcKermit frame.data)
    rw [hcrc] at hdata
    have hlen := length_data_of_unescape hloop
    rw [hdata, List.length_append, List.length_cons, List.length_singleton] at hlen
    have htake : (frame.data ++ [lo, hi]).take ((frame.data ++ [lo, hi]).length - 2) =
        frame.data := List.take_left' (by simp)
    have hdrop : (frame.data ++ [lo, hi]).drop ((frame.data ++ [lo, hi]).length - 2) = [lo, hi] :=
      List.drop_left' (by simp)
    rw [fromBytes, if_neg (by omega), hloop, Outcome.ok_bind, hdata, if_neg (by simp), htake, hdrop]
    simp [hvalue]

theorem mem_toBytes {frame : HdlcLiteFrame} {x : UInt8} (h : x ∈ frame.toBytes crcKermit) :
    x = HdlcSpecial.escape.toU8 ∨ isSpecial x = false := by
  rw [toBytes, List.mem_flatMap] at h
  obtain ⟨byte, -, hx⟩ := h
  exact mem_escapeByte hx

/-- Of the special bytes only Escape is emitted. -/
theorem special_notMem_toBytes (frame : HdlcLiteFrame) {special : UInt8}
    (hspecial : isSpecial special = true) (hescape : special ≠ HdlcSpecial.escape.toU8) :
    special ∉ frame.toBytes crcKermit := by
  intro hmem
  rcases mem_toBytes crcKermit hmem with h | h
  · exact hescape h
  · rw [hspecial] at h
    cases h

theorem flag_notMem_toBytes (frame : HdlcLiteFrame) :
    HdlcSpecial.flag.toU8 ∉ frame.toBytes crcKermit :=
  special_notMem_toBytes crcKermit frame isSpecial_flag (by decide)

theorem toBytes_ne_nil (frame : HdlcLiteFrame) : frame.toBytes crcKermit ≠ [] := by
  apply List.ne_nil_of_length_pos
  have := length_le_flatMap_escapeByte
    (frame.data ++ u16ToLeBytes (crcOf crcKermit frame.data))
  rw [List.length_append, length_u16ToLeBytes] at this
  rw [toBytes]
  omega

/-- No Escape is the last byte. -/
theorem toBytes_ne_concat_escape (frame : HdlcLiteFrame) (before : List UInt8) :
    frame.toBytes crcKermit ≠ before ++ [HdlcSpecial.escape.toU8] := by
  obtain ⟨lo, hi, hcrc, -⟩ := u16ToLeBytes_eq (crcOf crcKermit frame.data)
  obtain ⟨init, last, hlast, -, hspecial⟩ := escapeByte_eq_concat hi
  have hconcat : frame.toBytes crcKermit =
      ((frame.data ++ [lo]).flatMap escapeByte ++ init) ++ [last] := by
    simp [toBytes, hcrc, hlast]
  intro h
  have hescape : last = HdlcSpecial.escape.toU8 := by
    rw [hconcat] at h
    exact (List.append_inj' h rfl).2 |> List.singleton_inj.mp
  rw [hescape, isSpecial_escape] at hspecial
  cases hspecial

/-- What `toBytes` writes, `fromBytes` reads back, with Flag bytes around it or without. -/
theorem fromBytes_flags_toBytes (frame : HdlcLiteFrame) (before after : Nat) :
    fromBytes crcKermit (List.replicate before HdlcSpecial.flag.toU8 ++ frame.toBytes crcKermit ++
      List.replicate after HdlcSpecial.flag.toU8) = .ok frame := by
  have hloop := unescape_flatMap_escapeByte
    (frame.data ++ u16ToLeBytes (crcOf crcKermit frame.data)) []
  refine (fromBytes_eq_ok_iff crcKermit).mpr ⟨{ data := _, unescaping := false }, ?_, rfl⟩
  rw [List.foldlM_append, List.foldlM_append, unescape_replicate_flag, Outcome.ok_bind, toBytes,
    hloop, Outcome.ok_bind, unescape_replicate_flag, List.nil_append]

theorem fromBytes_toBytes (frame : HdlcLiteFrame) :
    fromBytes crcKermit (frame.toBytes crcKermit) = .ok frame := by
  simpa using fromBytes_flags_toBytes crcKermit frame 0 0

/-- Encoded frames are transparent, and read back with any number of Flag bytes around them. -/
theorem toBytes_transparent (data : List UInt8) (before after : Nat) :
    (∀ special ∈ [HdlcSpecial.flag, .xon, .xoff, .vendor],
      special.toU8 ∉ toBytes crcKermit { data := data }) ∧
    (∀ init rest, toBytes crcKermit { data := data } =
      init ++ HdlcSpecial.escape.toU8 :: rest → rest ≠ []) ∧
    fromBytes crcKermit (List.replicate before HdlcSpecial.flag.toU8 ++
      toBytes crcKermit { data := data } ++ List.replicate after HdlcSpecial.flag.toU8) =
        .ok { data := data } := by
  refine ⟨?_, ?_, fromBytes_flags_toBytes crcKermit _ before after⟩
  · intro special hmem
    have hkind : ∀ s ∈ [HdlcSpecial.flag, .xon, .xoff, .vendor],
        isSpecial s.toU8 = true ∧ s.toU8 ≠ HdlcSpecial.escape.toU8 := by decide
    obtain ⟨hspecial, hescape⟩ := hkind special hmem
    exact special_notMem_toBytes crcKermit _ hspecial hescape
  · intro init rest h heq
    subst heq
    exact toBytes_ne_concat_escape crcKermit _ init h

end ZigpySpinel.Spinel.HdlcLiteFrame
