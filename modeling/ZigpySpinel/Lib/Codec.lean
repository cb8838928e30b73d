import ZigpySpinel.Lib.Outcome
import ZigpySpinel.Lib.Bytes

/-!
# Encoders and step decoders that belong together

A step decoder consumes a prefix of its input and returns the value together with
the bytes it left. `Codec wf enc dec` says that decoder and encoder are inverse on
the values that satisfy `wf`, in both directions and with any bytes following:
an encoded value is read back and nothing after it is touched, and whatever the
decoder accepts is well formed and was encoded exactly as `enc` does it. The
combinators below keep this property, so that a record's codec is assembled from
those of its fields.
-/

namespace ZigpySpinel.Lib

/-- A decoder that returns the value it read and the bytes that remain. -/
abbrev StepDecoder (ε α : Type) : Type := List UInt8 → Outcome ε (α × List UInt8)

/-- `dec` and `enc` are inverse to each other on the values that satisfy `wf`. -/
structure Codec {ε α : Type} (wf : α → Prop) (enc : α → List UInt8)
    (dec : StepDecoder ε α) : Prop where
  decode_encode : ∀ a rest, wf a → dec (enc a ++ rest) = .ok (a, rest)
  encode_decode : ∀ bytes a rest, dec bytes = .ok (a, rest) → wf a ∧ bytes = enc a ++ rest

variable {ε α : Type}

/-- The encodings are uniquely readable: no value is encoded as the beginning of another. -/
theorem Codec.encode_inj {wf : α → Prop} {enc : α → List UInt8} {dec : StepDecoder ε α}
    (h : Codec wf enc dec) {a b : α} {rest rest' : List UInt8} (ha : wf a) (hb : wf b)
    (heq : enc a ++ rest = enc b ++ rest') : a = b ∧ rest = rest' := by
  have hread := h.decode_encode a rest ha
  rw [heq, h.decode_encode b rest' hb] at hread
  simp only [Outcome.ok.injEq, Prod.mk.injEq] at hread
  exact ⟨hread.1.symm, hread.2.symm⟩

/-! ## One byte -/

/-- `remaining[0]` together with `remaining = &remaining[1..]`: past the end the
    index panics. -/
def takeByte : StepDecoder ε UInt8
  | [] => .panic "index out of bounds"
  | b :: rest => .ok (b, rest)

theorem codec_takeByte : Codec (fun _ => True) (fun b => [b]) (takeByte (ε := ε)) where
  decode_encode _ _ _ := rfl
  encode_decode bytes a rest h := by
    cases bytes with
    | nil => cases h
    | cons b bs =>
      simp only [takeByte, Outcome.ok.injEq, Prod.mk.injEq] at h
      rcases h with ⟨rfl, rfl⟩
      exact ⟨trivial, rfl⟩

/-! ## A field that is there when its flag is set -/

/-- Decode a field if its flag is set, and nothing otherwise. -/
def decodeOptional (flag : Bool) (dec : StepDecoder ε α) : StepDecoder ε (Option α) :=
  fun remaining =>
    match flag with
    | true => do
      let (a, remaining) ← dec remaining
      .ok (some a, remaining)
    | false => .ok (none, remaining)

/-- `if let Some(a) = field` around the encoder of the field. -/
def encodeOptional (enc : α → List UInt8) : Option α → List UInt8
  | none => []
  | some a => enc a

theorem Codec.optional {wf : α → Prop} {enc : α → List UInt8} {dec : StepDecoder ε α}
    (h : Codec wf enc dec) (flag : Bool) :
    Codec (fun o : Option α => (flag = true ↔ o.isSome) ∧ ∀ a ∈ o, wf a) (encodeOptional enc)
      (decodeOptional flag dec) where
  decode_encode o rest hwf := by
    rcases hwf with ⟨hflag, hwf⟩
    cases o with
    | none =>
      have hf : flag = false := by simpa using hflag
      simp [hf, decodeOptional, encodeOptional]
    | some a =>
      have hf : flag = true := by simpa using hflag
      simp [hf, decodeOptional, encodeOptional, h.decode_encode a rest (hwf a rfl)]
  encode_decode bytes o rest hdec := by
    cases flag with
    | false =>
      simp only [decodeOptional, Outcome.ok.injEq, Prod.mk.injEq] at hdec
      rcases hdec with ⟨rfl, rfl⟩
      simp [encodeOptional]
    | true =>
      simp only [decodeOptional, Outcome.bind_eq_ok] at hdec
      rcases hdec with ⟨⟨a, remaining⟩, hread, hret⟩
      simp only [Outcome.ok.injEq, Prod.mk.injEq] at hret
      rcases hret with ⟨rfl, rfl⟩
      obtain ⟨hwf, hbytes⟩ := h.encode_decode _ _ _ hread
      exact ⟨⟨by simp, by simpa using hwf⟩, hbytes⟩

/-! ## A counted list -/

/-- The loop that reads `n` items one after the other. -/
def decodeTimes (dec : StepDecoder ε α) : Nat → StepDecoder ε (List α)
  | 0, remaining => .ok ([], remaining)
  | n + 1, remaining => do
    let (a, remaining) ← dec remaining
    let (as, remaining) ← decodeTimes dec n remaining
    .ok (a :: as, remaining)

theorem Codec.times {wf : α → Prop} {enc : α → List UInt8} {dec : StepDecoder ε α}
    (h : Codec wf enc dec) (n : Nat) :
    Codec (fun as : List α => as.length = n ∧ ∀ a ∈ as, wf a) (fun as => as.flatMap enc)
      (decodeTimes dec n) where
  decode_encode as rest hwf := by
    rcases hwf with ⟨hlen, hwf⟩
    induction as generalizing n with
    | nil => subst hlen; rfl
    | cons a as ih =>
      subst hlen
      have ha := h.decode_encode a (as.flatMap enc ++ rest) (hwf a (by simp))
      have has := ih as.length rfl (fun b hb => hwf b (by simp [hb]))
      simp only [List.length_cons, decodeTimes, List.flatMap_cons, List.append_assoc, ha,
        Outcome.ok_bind, has]
  encode_decode bytes as rest hdec := by
    induction n generalizing bytes as with
    | zero =>
      simp only [decodeTimes, Outcome.ok.injEq, Prod.mk.injEq] at hdec
      rcases hdec with ⟨rfl, rfl⟩
      simp
    | succ n ih =>
      simp only [decodeTimes, Outcome.bind_eq_ok] at hdec
      rcases hdec with ⟨⟨a, mid⟩, hread, ⟨tail, last⟩, htail, hret⟩
      simp only [Outcome.ok.injEq, Prod.mk.injEq] at hret
      rcases hret with ⟨rfl, rfl⟩
      dsimp only at htail
      obtain ⟨hwf, hbytes⟩ := h.encode_decode _ _ _ hread
      obtain ⟨⟨hlen, htailWf⟩, hmid⟩ := ih _ _ htail
      refine ⟨⟨by simp [hlen], by simpa using ⟨hwf, htailWf⟩⟩, ?_⟩
      rw [hbytes, hmid, List.flatMap_cons, List.append_assoc]

/-! ## Lengths and places -/

/-- The length of a field that is there when its flag is set. -/
theorem length_encodeOptional {enc : α → List UInt8} {n : Nat} (henc : ∀ a, (enc a).length = n)
    {flag : Bool} {o : Option α} (h : flag = true ↔ o.isSome) :
    (encodeOptional enc o).length = n * flag.toNat := by
  cases o with
  | none =>
    have hflag : flag = false := by simpa using h
    simp [encodeOptional, hflag]
  | some a =>
    have hflag : flag = true := by simpa using h
    simp [encodeOptional, hflag, henc]

theorem length_encodeOptional_le (enc : α → List UInt8) (bound : Nat) (o : Option α)
    (h : ∀ a ∈ o, (enc a).length ≤ bound) : (encodeOptional enc o).length ≤ bound := by
  cases o with
  | none => exact Nat.zero_le bound
  | some a => exact h a rfl

theorem length_flatMap_const {enc : α → List UInt8} {n : Nat} (henc : ∀ a, (enc a).length = n)
    (as : List α) : (as.flatMap enc).length = n * as.length := by
  induction as with
  | nil => rfl
  | cons a as ih =>
    rw [List.flatMap_cons, List.length_append, ih, henc, List.length_cons, Nat.mul_succ,
      Nat.add_comm]

/-- The byte at the place where the front ends is the first byte behind it. -/
theorem getD_length_append (front rest : List UInt8) :
    (front ++ rest).getD front.length 0 = rest.getD 0 0 := by
  rw [List.getD_eq_getElem?_getD, List.getElem?_append_right (Nat.le_refl _), Nat.sub_self,
    List.getD_eq_getElem?_getD]

/-! ## Decoders that do not panic -/

/-- The decoder panics on no input. -/
def Safe (dec : StepDecoder ε α) : Prop := ∀ bytes, (dec bytes).NoPanic

/-- What is decoded behind a safe decoder panics where it does on what that one leaves. -/
theorem Safe.noPanic_bind_iff {β : Type} {dec : StepDecoder ε α} (h : Safe dec)
    {bytes : List UInt8} {f : α × List UInt8 → Outcome ε β} :
    (dec bytes >>= f).NoPanic ↔ ∀ a rest, dec bytes = .ok (a, rest) → (f (a, rest)).NoPanic := by
  rw [Outcome.noPanic_bind_iff, and_iff_right (h bytes), Prod.forall]

theorem Safe.optional {dec : StepDecoder ε α} (h : Safe dec) (flag : Bool) :
    Safe (decodeOptional flag dec) := by
  intro bytes
  cases flag with
  | false => exact Outcome.noPanic_ok _
  | true =>
    refine h.noPanic_bind_iff.mpr ?_
    intro a rest _
    exact Outcome.noPanic_ok _

theorem Safe.times {dec : StepDecoder ε α} (h : Safe dec) (n : Nat) :
    Safe (decodeTimes dec n) := by
  induction n with
  | zero =>
    intro bytes
    exact Outcome.noPanic_ok _
  | succ n ih =>
    intro bytes
    refine h.noPanic_bind_iff.mpr ?_
    intro a rest _
    refine ih.noPanic_bind_iff.mpr ?_
    intro as rest' _
    exact Outcome.noPanic_ok _

theorem noPanic_takeByte_iff {bytes : List UInt8} :
    (takeByte (ε := ε) bytes).NoPanic ↔ bytes ≠ [] := by
  cases bytes with
  | nil => simp [takeByte, Outcome.NoPanic]
  | cons b bytes => simp [takeByte, Outcome.noPanic_ok]

/-- A byte that its flag announces has to be there. -/
theorem noPanic_optional_takeByte_iff {flag : Bool} {bytes : List UInt8} :
    (decodeOptional flag (takeByte (ε := ε)) bytes).NoPanic ↔ (flag = true → bytes ≠ []) := by
  cases flag with
  | false => simp [decodeOptional, Outcome.noPanic_ok]
  | true =>
    have hread : (decodeOptional true (takeByte (ε := ε)) bytes).NoPanic ↔
        (takeByte (ε := ε) bytes).NoPanic := by
      rw [decodeOptional, Outcome.noPanic_bind_iff]
      exact and_iff_left (fun _ _ => Outcome.noPanic_ok _)
    rw [hread, noPanic_takeByte_iff]
    simp

end ZigpySpinel.Lib
