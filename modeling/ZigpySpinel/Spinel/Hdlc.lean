import ZigpySpinel.Lib.Bytes
import ZigpySpinel.Lib.Outcome

/-!
# HDLC-Lite frames (`spinel.rs:264-375`)

A frame is its data followed by a little-endian CRC-16, with every special byte
escaped. The CRC is computed by the `crc_all` crate: `crcKermit` stands for what
`init_crc`, `update_crc` and `finish_crc` of `CRC_KERMIT` leave in `crc` for a byte
string, and nothing is assumed about it.
-/

namespace ZigpySpinel.Spinel
open Lib

/-- `HdlcSpecial` (`spinel.rs:264-271`). -/
inductive HdlcSpecial where
  | flag
  | escape
  | xon
  | xoff
  | vendor
  deriving DecidableEq, Repr

/-- `HdlcSpecial as u8`. -/
def HdlcSpecial.toU8 : HdlcSpecial → UInt8
  | flag => 0x7E
  | escape => 0x7D
  | xon => 0x11
  | xoff => 0x13
  | vendor => 0xF8

/-- The comparison with all five special bytes in `from_bytes` and `to_bytes`. -/
def isSpecial (byte : UInt8) : Bool :=
  byte == HdlcSpecial.flag.toU8 || byte == HdlcSpecial.escape.toU8 ||
    byte == HdlcSpecial.xon.toU8 || byte == HdlcSpecial.xoff.toU8 ||
    byte == HdlcSpecial.vendor.toU8

/-- `HdlcLiteFrameParsingError` (`spinel.rs:273-278`). -/
inductive HdlcLiteFrameParsingError where
  | badEscapeByte
  | invalidCrc
  | badLength
  deriving DecidableEq, Repr

/-- `HdlcLiteFrame` (`spinel.rs:280-283`). -/
structure HdlcLiteFrame where
  data : List UInt8
  deriving DecidableEq, Repr

namespace HdlcLiteFrame

/-- The locals of the unescaping loop of `from_bytes`: `data` and `unescaping`. -/
structure Unescape where
  data : List UInt8 := []
  unescaping : Bool := false
  deriving DecidableEq, Repr

/-- One byte of the loop (`spinel.rs:294-317`). -/
def unescapeByte (st : Unescape) (byte : UInt8) :
    Outcome HdlcLiteFrameParsingError Unescape :=
  if st.unescaping then
    let resultByte := byte ^^^ 0x20
    if isSpecial resultByte then .ok { data := st.data ++ [resultByte], unescaping := false }
    else .err .badEscapeByte
  else if byte = HdlcSpecial.escape.toU8 then .ok { st with unescaping := true }
  else if byte = HdlcSpecial.flag.toU8 then .ok st
  else .ok { st with data := st.data ++ [byte] }

/-- The CRC as `from_bytes` and `to_bytes` use it: what the CRC crate leaves, with all
    bits flipped. -/
def crcOf (crcKermit : List UInt8 → UInt16) (data : List UInt8) : UInt16 :=
  crcKermit data ^^^ 0xFFFF

variable (crcKermit : List UInt8 → UInt16)

/-- `HdlcLiteFrame::from_bytes` (`spinel.rs:286-336`). -/
def fromBytes (bytes : List UInt8) : Outcome HdlcLiteFrameParsingError HdlcLiteFrame :=
  if bytes.length < 2 then .err .badLength
  else do
    let st ← bytes.foldlM unescapeByte {}
    let data := st.data
    if data.length < 2 then .err .badLength
    else
      let body := data.take (data.length - 2)
      match data.drop (data.length - 2) with
      | [lo, hi] =>
        if crcOf crcKermit body ≠ u16FromLeBytes lo hi then .err .invalidCrc
        else .ok { data := body }
      -- not reached: `data` has at least two bytes
      | _ => .panic "index out of bounds"

/-- The bytes pushed for one byte in `to_bytes` (`spinel.rs:347-361`). -/
def escapeByte (byte : UInt8) : List UInt8 :=
  if isSpecial byte then [HdlcSpecial.escape.toU8, byte ^^^ 0x20] else [byte]

/-- `HdlcLiteFrame::to_bytes` (`spinel.rs:338-364`). -/
def toBytes (frame : HdlcLiteFrame) : List UInt8 :=
  (frame.data ++ u16ToLeBytes (crcOf crcKermit frame.data)).flatMap escapeByte

/-- `HdlcLiteFrame::to_bytes_with_flags` (`spinel.rs:366-374`). -/
def toBytesWithFlags (frame : HdlcLiteFrame) : List UInt8 :=
  [HdlcSpecial.flag.toU8] ++ frame.toBytes crcKermit ++ [HdlcSpecial.flag.toU8]

end HdlcLiteFrame

end ZigpySpinel.Spinel
