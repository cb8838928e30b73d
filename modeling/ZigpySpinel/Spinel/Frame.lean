import ZigpySpinel.Lib.Codec
import ZigpySpinel.Lib.Loop

/-!
# Spinel frames (`spinel.rs:221-474`)

The Spinel header byte, frames, the packed 21-bit integers of property ids and the
`PropValueIs` payload.
-/

namespace ZigpySpinel.Spinel
open Lib

/-- `SpinelCommandId::PropValueIs as u8` (`spinel.rs:21`). -/
def SpinelCommandId.propValueIs : UInt8 := 6

/-- `packed_uint21_deserialize` (`spinel.rs:221-237`), from the byte with the given
    index on. -/
def packedUint21Loop (result : UInt32) (index : Nat) : StepDecoder String UInt32
  | [] => .err "Packed uint21 did not terminate"
  | byte :: rest =>
    let result := result ||| ((byte &&& 0b01111111).toUInt32 <<< UInt32.ofNat (7 * index))
    if byte &&& 0b10000000 = 0 then .ok (result, rest)
    else if index ≥ 2 then .err "Packed uint21 did not terminate"
    else packedUint21Loop result (index + 1) rest

/-- `packed_uint21_deserialize` (`spinel.rs:221-237`). -/
def packedUint21Deserialize : StepDecoder String UInt32 := packedUint21Loop 0 0

/-- `U21_MAX` (`spinel.rs:12`). -/
def u21Max : UInt32 := (1 : UInt32) <<< 21

/-- One pass of `while temp > 0` (`spinel.rs:251-255`), over `temp` and `chunks`. -/
def packedUint21Pass : UInt32 × List UInt8 → Option (UInt32 × List UInt8)
  | (temp, chunks) =>
    if temp > 0 then
      some (temp >>> 7, chunks ++ [(temp.toUInt8 &&& 0b01111111) ||| 0b10000000])
    else none

/-- `packed_uint21_to_bytes` (`spinel.rs:239-262`). -/
def packedUint21ToBytes (value : UInt32) : Outcome String (List UInt8) :=
  if value = 0 then .ok [0]
  else if value > u21Max then .panic "Cannot serialize value, too big"
  else
    let chunks := (Loop.exec packedUint21Pass (fun st => st.1.toNat) (value, [])).2
    match chunks.getLast? with
    | some last => .ok (chunks.dropLast ++ [last &&& 0b01111111])
    -- `chunks[len - 1]` of an empty vector
    | none => .panic "index out of bounds"

/-- `SpinelHeader` (`spinel.rs:377-382`). -/
structure SpinelHeader where
  flag : UInt8
  networkLinkId : UInt8
  transactionId : UInt8
  deriving DecidableEq, Repr

/-- `SpinelHeader::from_bytes` (`spinel.rs:385-398`). -/
def SpinelHeader.fromBytes : List UInt8 → Outcome String SpinelHeader
  | [] => .err "Not enough data to parse SpinelHeader"
  | byte :: _ =>
    .ok {
      flag := (byte &&& 0b11000000) >>> 6
      networkLinkId := (byte &&& 0b00110000) >>> 4
      transactionId := (byte &&& 0b00001111) >>> 0 }

/-- `SpinelHeader::to_bytes` (`spinel.rs:400-402`). -/
def SpinelHeader.toBytes (header : SpinelHeader) : List UInt8 :=
  [(header.flag <<< 6) ||| (header.networkLinkId <<< 4) ||| (header.transactionId <<< 0)]

/-- `SpinelFrameParsingError` (`spinel.rs:405-409`). -/
inductive SpinelFrameParsingError where
  | payloadTooShort
  | notSpinelFrame
  deriving DecidableEq, Repr

/-- `SpinelFrame` (`spinel.rs:411-416`). -/
structure SpinelFrame where
  header : SpinelHeader
  commandId : UInt8
  payload : List UInt8
  deriving DecidableEq, Repr

/-- `SpinelFrame::from_bytes` (`spinel.rs:419-438`). -/
def SpinelFrame.fromBytes (bytes : List UInt8) : Outcome SpinelFrameParsingError SpinelFrame :=
  if bytes.length < 3 then .err .payloadTooShort
  else
    -- the `unwrap` of the header parser
    match SpinelHeader.fromBytes (bytes.take 1) with
    | .ok header =>
      if header.flag ≠ 0b10 then .err .notSpinelFrame
      else
        match bytes.drop 1 with
        | commandId :: payload =>
          .ok { header := header, commandId := commandId, payload := payload }
        | [] => .panic "index out of bounds"
    | .err e => .panic e
    | .panic m => .panic m

/-- `SpinelFrame::to_bytes` (`spinel.rs:440-448`). -/
def SpinelFrame.toBytes (frame : SpinelFrame) : List UInt8 :=
  frame.header.toBytes ++ [frame.commandId] ++ frame.payload

/-- `SpinelFramePropValueIs` (`spinel.rs:451-455`). -/
structure SpinelFramePropValueIs where
  propertyId : UInt32
  value : List UInt8
  deriving DecidableEq, Repr

/-- `SpinelFramePropValueIs::from_bytes` (`spinel.rs:458-466`). -/
def SpinelFramePropValueIs.fromBytes (bytes : List UInt8) :
    Outcome String SpinelFramePropValueIs := do
  let (propertyId, remaining) ← packedUint21Deserialize bytes
  .ok { propertyId := propertyId, value := remaining }

/-- `SpinelFramePropValueIs::to_bytes` (`spinel.rs:468-473`). -/
def SpinelFramePropValueIs.toBytes (p : SpinelFramePropValueIs) :
    Outcome String (List UInt8) := do
  let result ← packedUint21ToBytes p.propertyId
  .ok (result ++ p.value)

/-! ## Frames are read back -/

/-- The headers whose fields fit the bits they are given, with the Spinel flag. -/
def SpinelHeader.WellFormed (header : SpinelHeader) : Prop :=
  header.flag = 0b10 ∧ header.networkLinkId < 4 ∧ header.transactionId < 16

theorem SpinelHeader.toBytes_bits : ∀ link tid : Fin 16, link < 4 →
    let byte : UInt8 := ((0b10 : UInt8) <<< 6) ||| (UInt8.ofNat link <<< 4) ||| (UInt8.ofNat tid <<< 0)
    (byte &&& 0b11000000) >>> 6 = 0b10 ∧ (byte &&& 0b00110000) >>> 4 = UInt8.ofNat link ∧
      (byte &&& 0b00001111) >>> 0 = UInt8.ofNat tid := by decide +kernel

theorem SpinelHeader.fromBytes_toBytes (header : SpinelHeader) (h : header.WellFormed) :
    fromBytes header.toBytes = .ok header := by
  rcases header with ⟨flag, link, tid⟩
  rcases h with ⟨hflag, hlink, htid⟩
  dsimp only at hflag hlink htid
  subst hflag
  have hlink' : link.toNat < 4 := hlink
  have htid' : tid.toNat < 16 := htid
  obtain ⟨h1, h2, h3⟩ := toBytes_bits ⟨link.toNat, by omega⟩ ⟨tid.toNat, htid'⟩ hlink'
  simp only [UInt8.ofNat_toNat] at h1 h2 h3
  simp only [toBytes, fromBytes, h1, h2, h3]

/-- A frame with a nonempty payload is read back. -/
theorem SpinelFrame.fromBytes_toBytes (frame : SpinelFrame) (h : frame.header.WellFormed)
    (hpayload : frame.payload ≠ []) : fromBytes frame.toBytes = .ok frame := by
  rcases frame with ⟨header, commandId, payload⟩
  have hlen : 0 < payload.length := List.length_pos_of_ne_nil hpayload
  have hheader := SpinelHeader.fromBytes_toBytes header h
  have hflag : header.flag = 0b10 := h.1
  have hlong : ¬ (header.toBytes ++ [commandId] ++ payload).length < 3 := by
    simp only [SpinelHeader.toBytes, List.length_append, List.length_cons, List.length_nil]
    omega
  have htake : (header.toBytes ++ [commandId] ++ payload).take 1 = header.toBytes := rfl
  have hdrop : (header.toBytes ++ [commandId] ++ payload).drop 1 = commandId :: payload := rfl
  simp only [toBytes, fromBytes, if_neg hlong, htake, hdrop, hheader, hflag]
  simp

end ZigpySpinel.Spinel
