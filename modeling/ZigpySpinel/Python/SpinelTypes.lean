import ZigpySpinel.Lib.Loop
import ZigpySpinel.Python.Exceptions

/-!
# Spinel types of the Python package (`spinel_types.py`)

Packed integers, the two enumerations that are sent as packed integers, HDLC-Lite frames
and Spinel frames. The CRC is computed by the `crc` package: `crc16Kermit` stands for what
`crc16_kermit` (`common.py:56-57`) returns for a byte string.
-/

namespace ZigpySpinel.Python
open Lib

/-! ## Packed integers -/

/-- `PackedUInt21` (`spinel_types.py:11`). -/
structure PackedUInt21 where
  value : Nat
  inRange : value < 2 ^ 21
  deriving DecidableEq, Repr

namespace PackedUInt21

/-- `PackedUInt21(n)`. -/
def ofNat (n : Nat) : Except PyException PackedUInt21 :=
  if h : n < 2 ^ 21 then .ok ⟨n, h⟩ else .error (.valueError "")

/-- One pass of `while n` (`spinel_types.py:16-19`), over `n` and `chunks`. -/
def serializePass : Nat × List UInt8 → Option (Nat × List UInt8)
  | (n, chunks) =>
    if n = 0 then none
    else some (n >>> 7, chunks ++ [UInt8.ofNat (n &&& 0b01111111) ||| 0b10000000])

/-- `serialize` (`spinel_types.py:12-24`) of an instance with this value. -/
def serializeValue (n : Nat) : Except PyException (List UInt8) :=
  let chunks := (Loop.exec serializePass Prod.fst (n, [])).2
  match chunks.getLast? with
  | some last => .ok (chunks.dropLast ++ [last &&& 0b01111111])
  -- `chunks[-1]` of an empty list
  | none => .error .indexError

/-- `serialize`. -/
def serialize (n : PackedUInt21) : Except PyException (List UInt8) := serializeValue n.value

/-- The first loop of `deserialize` (`spinel_types.py:30-39`). -/
def readChunks (chunks : List UInt8) : List UInt8 → Except PyException (List UInt8)
  | [] => .ok chunks
  | byte :: rest =>
    let chunks := chunks ++ [byte &&& 0b01111111]
    if chunks.length > 3 then
      .error (.valueError "Packed integer cannot be larger than 2097151")
    else if byte &&& 0b10000000 = 0 then .ok chunks
    else readChunks chunks rest

/-- The second loop of `deserialize` (`spinel_types.py:41-44`). -/
def joinChunks (chunks : List UInt8) : Nat :=
  chunks.reverse.foldl (fun n chunk => (n <<< 7) ||| chunk.toNat) 0

/-- `deserialize` (`spinel_types.py:26-46`) of the class with this constructor. -/
def deserializeAs {α : Type} (cls : Nat → Except PyException α) (data : List UInt8) :
    Except PyException (α × List UInt8) := do
  let chunks ← readChunks [] data
  let value ← cls (joinChunks chunks)
  .ok (value, data.drop chunks.length)

/-- `PackedUInt21.deserialize`. -/
def deserialize : List UInt8 → Except PyException (PackedUInt21 × List UInt8) :=
  deserializeAs ofNat

end PackedUInt21

/-- `CommandID` (`spinel_types.py:49-76`). -/
inductive CommandID where
  | noop
  | reset
  | propValueGet
  | propValueSet
  | propValueInsert
  | propValueRemove
  | propValueIs
  | propValueInserted
  | propValueRemoved
  | peek
  | peekRet
  | poke
  | propValueMultiGet
  | propValueMultiSet
  | propValuesAre
  | netSave
  | netClear
  | netRecall
  | hboOffload
  | hboReclaim
  | hboDrop
  | hboOffloaded
  | hboReclaimed
  | hboDropped
  deriving DecidableEq, Repr

namespace CommandID

/-- The value of a member. -/
def value : CommandID → Nat
  | noop => 0
  | reset => 1
  | propValueGet => 2
  | propValueSet => 3
  | propValueInsert => 4
  | propValueRemove => 5
  | propValueIs => 6
  | propValueInserted => 7
  | propValueRemoved => 8
  | peek => 18
  | peekRet => 19
  | poke => 20
  | propValueMultiGet => 21
  | propValueMultiSet => 22
  | propValuesAre => 23
  | netSave => 9
  | netClear => 10
  | netRecall => 11
  | hboOffload => 12
  | hboReclaim => 13
  | hboDrop => 14
  | hboOffloaded => 15
  | hboReclaimed => 16
  | hboDropped => 17

/-- The members in the order of the class body. -/
def members : List CommandID :=
  [noop, reset, propValueGet, propValueSet, propValueInsert, propValueRemove, propValueIs,
    propValueInserted, propValueRemoved, peek, peekRet, poke, propValueMultiGet, propValueMultiSet,
    propValuesAre, netSave, netClear, netRecall, hboOffload, hboReclaim, hboDrop, hboOffloaded,
    hboReclaimed, hboDropped]

/-- `CommandID(n)`. -/
def ofValue (n : Nat) : Except PyException CommandID :=
  orRaise (members.find? (·.value == n)) (.valueError "")

/-- `CommandID.deserialize`. -/
def deserialize : List UInt8 → Except PyException (CommandID × List UInt8) :=
  PackedUInt21.deserializeAs ofValue

/-- `serialize` of a member. -/
def serialize (commandId : CommandID) : Except PyException (List UInt8) :=
  PackedUInt21.serializeValue commandId.value

end CommandID

/-- The values of `PropertyID` (`spinel_types.py:79-210`), a line for each group of the class
    body: core, host buffer offload, stream, PHY, MAC (with `MAC_SCAN_STATE`, an alias of
    `PHY_RSSI`), NET, IPv6, debug, Thread, jam detection, GPIO, random numbers and
    `NEST_STREAM_MFG`. -/
def PropertyID.values : List Nat :=
  [0, 1, 2, 3, 4, 5, 6, 7, 8, 9] ++
  [10, 11] ++
  [112, 113, 114] ++
  [32, 33, 34, 35, 36, 37, 38, 39] ++
  [38, 49, 50, 51, 52, 53, 54, 55, 56, 57, 4864, 4865] ++
  [64, 65, 66, 67, 68, 69, 70, 71, 72, 73, 74, 75] ++
  [96, 97, 98, 99, 101] ++
  [16384, 16385] ++
  [80, 81, 82, 83, 84, 85, 86, 87, 88, 89, 90, 91, 92, 93, 94, 5376, 5377, 5378, 5379, 5380, 5381,
    5382, 5383, 5384, 5385, 5386, 5387, 5388, 5389, 5390, 5391, 5392, 5393, 5394, 5395, 5396, 5397,
    5398] ++
  [4608, 4609, 4610, 4611, 4612, 4613] ++
  [4096, 4098, 4099, 4100] ++
  [4101, 4102, 4103] ++
  [0x3BC0]

/-- `PropertyID` (`spinel_types.py:79-210`), a member by its value. -/
structure PropertyID where
  value : Nat
  known : value ∈ PropertyID.values
  deriving DecidableEq, Repr

/-- `PropertyID(n)`. -/
def PropertyID.ofValue (n : Nat) : Except PyException PropertyID :=
  if h : n ∈ PropertyID.values then .ok ⟨n, h⟩ else .error (.valueError "")

/-- `serialize` of a member. -/
def PropertyID.serialize (propertyId : PropertyID) : Except PyException (List UInt8) :=
  PackedUInt21.serializeValue propertyId.value

/-! ## HDLC-Lite frames -/

/-- `HDLCSpecial` (`spinel_types.py:219-224`). -/
inductive HDLCSpecial where
  | flag
  | escape
  | xon
  | xoff
  | vendor
  deriving DecidableEq, Repr

/-- The value of a special byte. -/
def HDLCSpecial.value : HDLCSpecial → UInt8
  | flag => 0x7E
  | escape => 0x7D
  | xon => 0x11
  | xoff => 0x13
  | vendor => 0xF8

/-- The tuple with which `serialize` and `from_bytes` compare a byte. -/
def specialBytes : List UInt8 :=
  [HDLCSpecial.flag.value, HDLCSpecial.escape.value, HDLCSpecial.xon.value,
    HDLCSpecial.xoff.value, HDLCSpecial.vendor.value]

/-- `HDLCLiteFrame` (`spinel_types.py:267-269`). -/
structure HDLCLiteFrame where
  data : List UInt8
  deriving DecidableEq, Repr

namespace HDLCLiteFrame

/-- The body of the loop of `serialize` (`spinel_types.py:275-286`). -/
def encodeByte (encoded : List UInt8) (byte : UInt8) : List UInt8 :=
  if byte ∈ specialBytes then encoded ++ [HDLCSpecial.escape.value] ++ [byte ^^^ 0x20]
  else encoded ++ [byte]

/-- The locals of the loop of `from_bytes`. -/
structure Unescape where
  unescaped : List UInt8 := []
  unescaping : Bool := false
  deriving DecidableEq, Repr

/-- The body of the loop of `from_bytes` (`spinel_types.py:295-315`). -/
def unescapeByte (st : Unescape) (byte : UInt8) : Except PyException Unescape :=
  if st.unescaping then
    let byte := byte ^^^ 0x20
    if byte ∉ specialBytes then .error (.valueError "Invalid unescaped byte")
    else .ok { unescaped := st.unescaped ++ [byte], unescaping := false }
  else if byte = HDLCSpecial.escape.value then .ok { st with unescaping := true }
  else if byte = HDLCSpecial.flag.value then .ok st
  else .ok { st with unescaped := st.unescaped ++ [byte] }

variable (crc16Kermit : List UInt8 → UInt16)

/-- `serialize` (`spinel_types.py:271-288`). -/
def serialize (frame : HDLCLiteFrame) : List UInt8 :=
  let payload := frame.data ++ leBytes 2 (crc16Kermit frame.data).toNat
  let encoded := payload.foldl encodeByte []
  [HDLCSpecial.flag.value] ++ encoded ++ [HDLCSpecial.flag.value]

/-- `from_bytes` (`spinel_types.py:290-324`). The slices `[:-2]` and `[-2:]` of fewer than two
    bytes are empty and all of them. -/
def fromBytes (data : List UInt8) : Except PyException HDLCLiteFrame := do
  let st ← data.foldlM unescapeByte {}
  let data := st.unescaped.take (st.unescaped.length - 2)
  let crc := st.unescaped.drop (st.unescaped.length - 2)
  let computedCrc := leBytes 2 (crc16Kermit data).toNat
  if computedCrc ≠ crc then .error (.valueError "Invalid CRC-16")
  else .ok { data := data }

end HDLCLiteFrame

/-! ## Spinel frames -/

/-- `SpinelHeader` (`spinel_types.py:327-331`). `send_command` leaves the transaction id open. -/
structure SpinelHeader where
  transactionId : Option (BitVec 4)
  networkLinkId : BitVec 2
  flag : BitVec 2
  deriving DecidableEq, Repr

/-- `SpinelHeader.deserialize`: the first field has the low bits. -/
def SpinelHeader.deserialize : List UInt8 → Except PyException (SpinelHeader × List UInt8)
  | [] => .error (.valueError "")
  | byte :: rest =>
    .ok ({
      transactionId := some (BitVec.ofNat 4 byte.toNat)
      networkLinkId := BitVec.ofNat 2 (byte.toNat / 2 ^ 4)
      flag := BitVec.ofNat 2 (byte.toNat / 2 ^ 6) }, rest)

/-- `serialize` of a header. -/
def SpinelHeader.serialize (header : SpinelHeader) : Except PyException (List UInt8) := do
  let transactionId ← orRaise header.transactionId (.valueError "")
  .ok [UInt8.ofNat (transactionId.toNat + 2 ^ 4 * header.networkLinkId.toNat +
    2 ^ 6 * header.flag.toNat)]

/-- `SpinelFrame` (`spinel_types.py:334-338`). -/
structure SpinelFrame where
  header : SpinelHeader
  commandId : CommandID
  data : List UInt8
  deriving DecidableEq, Repr

/-- `SpinelFrame.from_bytes` (`spinel_types.py:340-350`). -/
def SpinelFrame.fromBytes (data : List UInt8) : Except PyException SpinelFrame := do
  let (header, data) ← SpinelHeader.deserialize data
  if header.flag ≠ 0b10#2 then .error (.valueError "Spinel header flag is invalid in frame")
  else
    let (commandId, data) ← CommandID.deserialize data
    .ok { header := header, commandId := commandId, data := data }

/-- `serialize` of a frame (`spinel_types.py:352-353`). -/
def SpinelFrame.serialize (frame : SpinelFrame) : Except PyException (List UInt8) := do
  let header ← frame.header.serialize
  let commandId ← frame.commandId.serialize
  .ok (header ++ commandId ++ frame.data)

/-! ## What decoding raises -/

theorem HDLCLiteFrame.onlyValueError_unescapeByte (st : Unescape) (byte : UInt8) :
    OnlyValueError (unescapeByte st byte) := by
  unfold unescapeByte
  by_cases hunescaping : st.unescaping = true
  · by_cases hspecial : byte ^^^ 0x20 ∉ specialBytes
    · simp only [hunescaping, hspecial, not_false_eq_true, if_true]
      exact onlyValueError_valueError _
    · simp only [hunescaping, hspecial, if_true, if_false]
      exact onlyValueError_ok _
  · rw [if_neg hunescaping]
    split
    · exact onlyValueError_ok _
    · split <;> exact onlyValueError_ok _

theorem HDLCLiteFrame.onlyValueError_unescape (data : List UInt8) (st : Unescape) :
    OnlyValueError (data.foldlM unescapeByte st) := by
  induction data generalizing st with
  | nil => exact onlyValueError_ok st
  | cons byte data ih => exact (onlyValueError_unescapeByte st byte).bind ih

/-- The receive loop catches whatever decoding an HDLC-Lite frame raises. -/
theorem HDLCLiteFrame.onlyValueError_fromBytes (crc16Kermit : List UInt8 → UInt16)
    (data : List UInt8) : OnlyValueError (fromBytes crc16Kermit data) := by
  refine (onlyValueError_unescape data {}).bind ?_
  intro st
  dsimp only
  split
  · exact onlyValueError_valueError _
  · exact onlyValueError_ok _

theorem PackedUInt21.onlyValueError_readChunks (data chunks : List UInt8) :
    OnlyValueError (readChunks chunks data) := by
  induction data generalizing chunks with
  | nil => exact onlyValueError_ok chunks
  | cons byte data ih =>
    unfold readChunks
    dsimp only
    split
    · exact onlyValueError_valueError _
    · split
      · exact onlyValueError_ok _
      · exact ih _

theorem PackedUInt21.onlyValueError_deserializeAs {α : Type} {cls : Nat → Except PyException α}
    (hcls : ∀ n, OnlyValueError (cls n)) (data : List UInt8) :
    OnlyValueError (deserializeAs cls data) := by
  refine (onlyValueError_readChunks data []).bind ?_
  intro chunks
  exact (hcls _).bind (fun value => onlyValueError_ok _)

theorem CommandID.onlyValueError_ofValue (n : Nat) : OnlyValueError (ofValue n) := by
  unfold ofValue
  cases members.find? (·.value == n) with
  | none => exact onlyValueError_valueError _
  | some commandId => exact onlyValueError_ok _

/-- So does decoding a Spinel frame. -/
theorem SpinelFrame.onlyValueError_fromBytes (data : List UInt8) :
    OnlyValueError (fromBytes data) := by
  cases data with
  | nil => exact onlyValueError_valueError _
  | cons byte rest =>
    refine (onlyValueError_ok (_, rest)).bind ?_
    rintro ⟨header, rest⟩
    dsimp only
    split
    · exact onlyValueError_valueError _
    · exact (PackedUInt21.onlyValueError_deserializeAs CommandID.onlyValueError_ofValue rest).bind
        (fun _ => onlyValueError_ok _)

end ZigpySpinel.Python
