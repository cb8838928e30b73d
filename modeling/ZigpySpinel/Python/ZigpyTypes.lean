import ZigpySpinel.Python.Exceptions
import ZigpySpinel.Types

/-!
# Reading `zigpy` types

`deserialize` of the integers and addresses of `zigpy.types` returns the value with the data
behind it, or raises where the data is too short. Integers are little-endian. The data that an
encoder wrote is read back through `Codec`, to which a `deserialize` belongs as a decoder that
cannot panic.
-/

namespace ZigpySpinel.Python
open Lib

/-- `deserialize` of a type. -/
abbrev Deserializer (α : Type) : Type := List UInt8 → Except PyException (α × List UInt8)

/-- `t.uint8_t.deserialize`. -/
def uint8Deserialize : Deserializer UInt8
  | b :: data => .ok (b, data)
  | [] => .error (.valueError "")

/-- `t.uint16_t.deserialize`. -/
def uint16Deserialize : Deserializer UInt16
  | b0 :: b1 :: data => .ok (u16FromLeBytes b0 b1, data)
  | _ => .error (.valueError "")

/-- `t.uint32_t.deserialize`. -/
def uint32Deserialize : Deserializer UInt32
  | b0 :: b1 :: b2 :: b3 :: data => .ok (u32FromLeBytes b0 b1 b2 b3, data)
  | _ => .error (.valueError "")

/-- `t.NWK.deserialize`. -/
def nwkDeserialize : Deserializer Nwk := fun data => do
  let (value, data) ← uint16Deserialize data
  .ok (⟨value⟩, data)

/-- `t.EUI64.deserialize`. -/
def eui64Deserialize : Deserializer Eui64 := fun data =>
  if h : 8 ≤ data.length then .ok (⟨data.take 8, Eui64.length_take h⟩, data.drop 8)
  else .error (.valueError "")

section Control

variable {α : Type}

/-- A field that is read under a condition and `None` otherwise. -/
def deserializeIf (condition : Bool) (dec : Deserializer α) : Deserializer (Option α) := fun data =>
  match condition with
  | true => do
    let (a, data) ← dec data
    .ok (some a, data)
  | false => .ok (none, data)

/-- `for i in range(n)` around the reading of an item. -/
def deserializeTimes (dec : Deserializer α) : Nat → Deserializer (List α)
  | 0, data => .ok ([], data)
  | n + 1, data => do
    let (a, data) ← dec data
    let (as, data) ← deserializeTimes dec n data
    .ok (a :: as, data)

end Control

/-! ## What was written is read back -/

variable {α : Type} {wf : α → Prop} {enc : α → List UInt8} {dec : Deserializer α}

/-- A `deserialize` as a decoder of the library. -/
def toStep (dec : Deserializer α) : StepDecoder PyException α := fun data =>
  Outcome.ofExcept (dec data)

/-- `deserialize` and `serialize` of a type are inverse to each other. -/
abbrev PyCodec (wf : α → Prop) (enc : α → List UInt8) (dec : Deserializer α) : Prop :=
  Codec wf enc (toStep dec)

theorem PyCodec.read (h : PyCodec wf enc dec) {a : α} (ha : wf a) (rest : List UInt8) :
    dec (enc a ++ rest) = .ok (a, rest) :=
  Outcome.ofExcept_eq_ok.mp (h.decode_encode a rest ha)

theorem PyCodec.written (h : PyCodec wf enc dec) {data rest : List UInt8} {a : α}
    (hread : dec data = .ok (a, rest)) : wf a ∧ data = enc a ++ rest :=
  h.encode_decode data a rest (Outcome.ofExcept_eq_ok.mpr hread)

theorem toStep_deserializeIf (condition : Bool) (dec : Deserializer α) :
    toStep (deserializeIf condition dec) = decodeOptional condition (toStep dec) := by
  funext data
  cases condition with
  | false => rfl
  | true =>
    change Outcome.ofExcept (dec data >>= _) = Outcome.ofExcept (dec data) >>= _
    rw [Outcome.ofExcept_bind]
    rfl

theorem toStep_deserializeTimes (dec : Deserializer α) (n : Nat) :
    toStep (deserializeTimes dec n) = decodeTimes (toStep dec) n := by
  induction n with
  | zero => rfl
  | succ n ih =>
    funext data
    change Outcome.ofExcept (dec data >>= _) = Outcome.ofExcept (dec data) >>= _
    rw [Outcome.ofExcept_bind]
    congr 1
    funext read
    rw [Outcome.ofExcept_bind, ← ih]
    rfl

theorem PyCodec.deserializeIf (h : PyCodec wf enc dec) (condition : Bool) :
    PyCodec (fun o : Option α => (condition = true ↔ o.isSome) ∧ ∀ a ∈ o, wf a)
      (encodeOptional enc) (deserializeIf condition dec) := by
  rw [PyCodec, toStep_deserializeIf]
  exact Codec.optional h condition

theorem PyCodec.deserializeTimes (h : PyCodec wf enc dec) (n : Nat) :
    PyCodec (fun as : List α => as.length = n ∧ ∀ a ∈ as, wf a) (fun as => as.flatMap enc)
      (deserializeTimes dec n) := by
  rw [PyCodec, toStep_deserializeTimes]
  exact Codec.times h n

/-! ## Integers and addresses -/

theorem codec_uint8 : PyCodec (fun _ => True) (fun b => [b]) uint8Deserialize where
  decode_encode _ _ _ := rfl
  encode_decode data b rest h := by
    cases data with
    | nil => cases h
    | cons b data =>
      cases h
      exact ⟨trivial, rfl⟩

theorem codec_uint16 : PyCodec (fun _ => True) u16ToLeBytes uint16Deserialize where
  decode_encode n rest _ := by
    obtain ⟨b0, b1, hbytes, hvalue⟩ := u16ToLeBytes_eq n
    rw [hbytes, ← hvalue]
    rfl
  encode_decode data n rest h := by
    match data, h with
    | b0 :: b1 :: data, h =>
      cases h
      refine ⟨trivial, ?_⟩
      rw [u16ToLeBytes_fromLeBytes]
      rfl

theorem codec_uint32 : PyCodec (fun _ => True) u32ToLeBytes uint32Deserialize where
  decode_encode n rest _ := by
    obtain ⟨b0, b1, b2, b3, hbytes, hvalue⟩ := u32ToLeBytes_eq n
    rw [hbytes, ← hvalue]
    rfl
  encode_decode data n rest h := by
    match data, h with
    | b0 :: b1 :: b2 :: b3 :: data, h =>
      cases h
      refine ⟨trivial, ?_⟩
      rw [u32ToLeBytes_fromLeBytes]
      rfl

/-- Addresses are read as the Rust package reads them. -/
theorem toStep_nwkDeserialize (data : List UInt8) :
    toStep nwkDeserialize data = (Nwk.deserialize data).mapErr (fun _ => .valueError "") := by
  match data with
  | [] => rfl
  | [_] => rfl
  | b0 :: b1 :: data => rfl

theorem toStep_eui64Deserialize (data : List UInt8) :
    toStep eui64Deserialize data = (Eui64.deserialize data).mapErr (fun _ => .valueError "") := by
  by_cases h : 8 ≤ data.length
  · rw [toStep, eui64Deserialize, dif_pos h, Eui64.deserialize, dif_pos h]
    rfl
  · rw [toStep, eui64Deserialize, dif_neg h, Eui64.deserialize, dif_neg h]
    rfl

theorem codec_nwk : PyCodec (fun _ => True) Nwk.toBytes nwkDeserialize where
  decode_encode nwk rest _ := by
    rw [toStep_nwkDeserialize, Nwk.codec.decode_encode nwk rest trivial]
    rfl
  encode_decode data nwk rest h := by
    rw [toStep_nwkDeserialize, Outcome.mapErr_eq_ok] at h
    exact Nwk.codec.encode_decode data nwk rest h

theorem codec_eui64 : PyCodec (fun _ => True) Eui64.toBytes eui64Deserialize where
  decode_encode eui rest _ := by
    rw [toStep_eui64Deserialize, Eui64.codec.decode_encode eui rest trivial]
    rfl
  encode_decode data eui rest h := by
    rw [toStep_eui64Deserialize, Outcome.mapErr_eq_ok] at h
    exact Eui64.codec.encode_decode data eui rest h

end ZigpySpinel.Python
