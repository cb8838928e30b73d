import ZigpySpinel.Lib.Codec

/-!
# Addresses and keys (`types.rs`)

`Nwk`, `Eui64`, `PanId` and `Key` with their decoders and encoders. Reading a
field checks the length first and reports the field that is missing.
-/

namespace ZigpySpinel
open Lib

/-- `Nwk` (`types.rs:4-5`). -/
structure Nwk where
  value : UInt16
  deriving DecidableEq, Repr

/-- `Nwk::deserialize` (`types.rs:8-14`). -/
def Nwk.deserialize : StepDecoder String Nwk
  | b0 :: b1 :: rest => .ok (⟨u16FromLeBytes b0 b1⟩, rest)
  | _ => .err "Not enough data to parse Nwk"

/-- `Nwk::to_bytes` (`types.rs:16-18`). -/
def Nwk.toBytes (nwk : Nwk) : List UInt8 := u16ToLeBytes nwk.value

/-- `Eui64` (`types.rs:29-30`). -/
structure Eui64 where
  value : FixedBytes 8
  deriving DecidableEq, Repr

theorem Eui64.length_take {bytes : List UInt8} (h : 8 ≤ bytes.length) :
    (bytes.take 8).length = 8 := List.length_take_of_le h

/-- `Eui64::deserialize` (`types.rs:49-58`). -/
def Eui64.deserialize (bytes : List UInt8) : Outcome String (Eui64 × List UInt8) :=
  if h : 8 ≤ bytes.length then
    .ok (⟨bytes.take 8, Eui64.length_take h⟩, bytes.drop 8)
  else .err "Not enough data to parse Eui64"

/-- `Eui64::to_bytes` (`types.rs:60-62`). -/
def Eui64.toBytes (eui : Eui64) : List UInt8 := eui.value.val

/-- `PanId` (`types.rs:89-90`). -/
structure PanId where
  value : UInt16
  deriving DecidableEq, Repr

/-- `PanId::deserialize` (`types.rs:93-99`). -/
def PanId.deserialize : StepDecoder String PanId
  | b0 :: b1 :: rest => .ok (⟨u16FromLeBytes b0 b1⟩, rest)
  | _ => .err "Not enough data to parse PanId"

/-- `PanId::to_bytes` (`types.rs:101-103`). -/
def PanId.toBytes (panId : PanId) : List UInt8 := u16ToLeBytes panId.value

/-- `Key` (`types.rs:113-114`). -/
structure Key where
  value : FixedBytes 16
  deriving DecidableEq, Repr

/-! ## The decoders and encoders are inverse -/

@[simp] theorem Nwk.length_toBytes (nwk : Nwk) : nwk.toBytes.length = 2 :=
  length_u16ToLeBytes _

@[simp] theorem Eui64.length_toBytes (eui : Eui64) : eui.toBytes.length = 8 := eui.value.property

theorem Nwk.codec : Codec (fun _ => True) Nwk.toBytes Nwk.deserialize where
  decode_encode nwk rest _ := by
    obtain ⟨b0, b1, hbytes, hvalue⟩ := u16ToLeBytes_eq nwk.value
    simp only [Nwk.toBytes, hbytes, List.cons_append, List.nil_append, Nwk.deserialize, hvalue]
  encode_decode bytes nwk rest h := by
    match bytes, h with
    | b0 :: b1 :: tail, h =>
      simp only [Nwk.deserialize, Outcome.ok.injEq, Prod.mk.injEq] at h
      rcases h with ⟨rfl, rfl⟩
      simp [Nwk.toBytes, u16ToLeBytes_fromLeBytes]

theorem PanId.codec : Codec (fun _ => True) PanId.toBytes PanId.deserialize where
  decode_encode panId rest _ := by
    obtain ⟨b0, b1, hbytes, hvalue⟩ := u16ToLeBytes_eq panId.value
    simp only [PanId.toBytes, hbytes, List.cons_append, List.nil_append, PanId.deserialize, hvalue]
  encode_decode bytes panId rest h := by
    match bytes, h with
    | b0 :: b1 :: tail, h =>
      simp only [PanId.deserialize, Outcome.ok.injEq, Prod.mk.injEq] at h
      rcases h with ⟨rfl, rfl⟩
      simp [PanId.toBytes, u16ToLeBytes_fromLeBytes]

theorem Eui64.codec : Codec (fun _ => True) Eui64.toBytes Eui64.deserialize where
  decode_encode eui rest _ := by
    have hlen : 8 ≤ (eui.toBytes ++ rest).length := by simp
    rw [Eui64.deserialize, dif_pos hlen]
    congr 2
    · cases eui with
      | mk value => exact congrArg Eui64.mk (Subtype.ext (List.take_left' value.property))
    · exact List.drop_left' eui.value.property
  encode_decode bytes eui rest h := by
    by_cases hlen : 8 ≤ bytes.length
    · rw [Eui64.deserialize, dif_pos hlen] at h
      simp only [Outcome.ok.injEq, Prod.mk.injEq] at h
      rcases h with ⟨rfl, rfl⟩
      exact ⟨trivial, (List.take_append_drop 8 bytes).symm⟩
    · rw [Eui64.deserialize, dif_neg hlen] at h
      cases h

/-! ## The decoders do not panic -/

theorem Nwk.safe_deserialize : Safe Nwk.deserialize := by
  intro bytes
  unfold Nwk.deserialize
  split
  · exact Outcome.noPanic_ok _
  · exact Outcome.noPanic_err _

theorem PanId.safe_deserialize : Safe PanId.deserialize := by
  intro bytes
  unfold PanId.deserialize
  split
  · exact Outcome.noPanic_ok _
  · exact Outcome.noPanic_err _

theorem Eui64.safe_deserialize : Safe Eui64.deserialize := by
  intro bytes
  unfold Eui64.deserialize
  split
  · exact Outcome.noPanic_ok _
  · exact Outcome.noPanic_err _

end ZigpySpinel
