import ZigpySpinel.Lib.Bytes
import ZigpySpinel.Lib.Outcome

/-!
# Reads at an offset

Indices and slices of a byte string, which panic past its end. A read at `offset` that
returns takes what it returns off the bytes from `offset` on, so that a parser which moves
an offset over its input is followed read by read, and what it read is the input.
-/

namespace ZigpySpinel.Lib

variable {ε : Type}

/-- `bytes[offset]`. -/
def byteAt (bytes : List UInt8) (offset : Nat) : Outcome ε UInt8 :=
  match bytes[offset]? with
  | some b => .ok b
  | none => .panic "index out of bounds"

/-- The array `[bytes[offset], …, bytes[offset + n - 1]]`. -/
def bytesAt (bytes : List UInt8) (offset : Nat) : Nat → Outcome ε (List UInt8)
  | 0 => .ok []
  | n + 1 => do
    let b ← byteAt bytes offset
    let bs ← bytesAt bytes (offset + 1) n
    .ok (b :: bs)

/-- `bytes[from..to]`. -/
def slice (bytes : List UInt8) (first last : Nat) : Outcome ε (List UInt8) :=
  if first ≤ last ∧ last ≤ bytes.length then .ok ((bytes.drop first).take (last - first))
  else .panic "slice index out of range"

/-- `bytes[from..]`. -/
def sliceFrom (bytes : List UInt8) (first : Nat) : Outcome ε (List UInt8) :=
  slice bytes first bytes.length

variable {bytes : List UInt8} {offset n : Nat}

/-! ## Reads within the bounds return -/

theorem returns_byteAt (h : offset < bytes.length) :
    (byteAt (ε := ε) bytes offset).Returns := by
  rw [byteAt, List.getElem?_eq_getElem h]
  exact Outcome.returns_ok _

theorem returns_bytesAt (h : offset + n ≤ bytes.length) :
    (bytesAt (ε := ε) bytes offset n).Returns := by
  induction n generalizing offset with
  | zero => exact Outcome.returns_ok []
  | succ n ih =>
    refine (returns_byteAt (by omega)).bind ?_
    intro b
    exact (ih (by omega)).bind (fun bs => Outcome.returns_ok (b :: bs))

theorem returns_slice (h : offset + n ≤ bytes.length) :
    (slice (ε := ε) bytes offset (offset + n)).Returns := by
  rw [slice, if_pos ⟨by omega, h⟩]
  exact Outcome.returns_ok _

theorem returns_sliceFrom (h : offset ≤ bytes.length) :
    (sliceFrom (ε := ε) bytes offset).Returns := by
  rw [sliceFrom, slice, if_pos ⟨h, Nat.le_refl _⟩]
  exact Outcome.returns_ok _

/-! ## What a read takes off -/

theorem drop_of_byteAt {b : UInt8} (h : byteAt (ε := ε) bytes offset = .ok b) :
    bytes.drop offset = b :: bytes.drop (offset + 1) := by
  rw [byteAt] at h
  split at h
  next b' hget =>
    obtain ⟨hlt, rfl⟩ := List.getElem?_eq_some_iff.mp hget
    cases h
    exact List.drop_eq_getElem_cons hlt
  · cases h

theorem drop_of_bytesAt {bs : List UInt8} (h : bytesAt (ε := ε) bytes offset n = .ok bs) :
    bs.length = n ∧ bytes.drop offset = bs ++ bytes.drop (offset + n) := by
  induction n generalizing offset bs with
  | zero =>
    cases h
    exact ⟨rfl, rfl⟩
  | succ n ih =>
    obtain ⟨b, hb, h⟩ := Outcome.bind_eq_ok.mp h
    obtain ⟨tail, htail, h⟩ := Outcome.bind_eq_ok.mp h
    cases h
    obtain ⟨hlen, hdrop⟩ := ih htail
    refine ⟨by rw [List.length_cons, hlen], ?_⟩
    rw [drop_of_byteAt hb, hdrop, List.cons_append, Nat.add_right_comm, Nat.add_assoc]

theorem drop_of_slice {bs : List UInt8}
    (h : slice (ε := ε) bytes offset (offset + n) = .ok bs) :
    bs.length = n ∧ bytes.drop offset = bs ++ bytes.drop (offset + n) := by
  rw [slice] at h
  split at h
  next hbound =>
    rw [Nat.add_sub_cancel_left] at h
    cases h
    refine ⟨?_, ?_⟩
    · rw [List.length_take, List.length_drop]
      omega
    · rw [← List.drop_drop, List.take_append_drop]
  · cases h

theorem drop_of_sliceFrom {bs : List UInt8} (h : sliceFrom (ε := ε) bytes offset = .ok bs) :
    bytes.drop offset = bs := by
  rw [sliceFrom, slice] at h
  split at h
  · cases h
    exact (List.take_of_length_le (by rw [List.length_drop])).symm
  · cases h

end ZigpySpinel.Lib
