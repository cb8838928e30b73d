import ZigpySpinel.Lib.Slice

/-!
# Received radio frames (`spinel_client.rs:51-128`)

The value of a `STREAM_RAW` property: a PSDU behind its length, then what the radio says
about its reception. The parser moves an offset over the bytes. The line it prints to
standard error is left out.
-/

namespace ZigpySpinel.Spinel
open Lib

/-- `SpinelRxFrame` (`spinel_client.rs:51-62`). -/
structure SpinelRxFrame where
  psdu : List UInt8
  rssi : Int8
  noiseFloor : Int8
  flags : UInt32
  channel : UInt8
  lqi : UInt8
  timestampUs : UInt64
  receiveError : UInt8
  manufacturerSpecific : List UInt8
  deriving DecidableEq, Repr

/-- `SpinelRxFrame::from_bytes` (`spinel_client.rs:65-127`). -/
def SpinelRxFrame.fromBytes (bytes : List UInt8) : Outcome String SpinelRxFrame := do
  let offset := 0
  let lo ← byteAt bytes offset
  let hi ← byteAt bytes (offset + 1)
  let psduLen := (u16FromLeBytes lo hi).toNat
  let offset := offset + 2
  if offset + (psduLen + 1 + 1 + 4 + 1 + 1 + 8 + 1) > bytes.length then
    .err "Invalid frame length"
  else
    let psdu ← slice bytes offset (offset + psduLen)
    let offset := offset + psduLen
    let rssi ← byteAt bytes offset
    let offset := offset + 1
    let noiseFloor ← byteAt bytes offset
    let offset := offset + 1
    let flags ← bytesAt bytes offset 4
    let offset := offset + 4
    let channel ← byteAt bytes offset
    let offset := offset + 1
    let lqi ← byteAt bytes offset
    let offset := offset + 1
    let timestampUs ← bytesAt bytes offset 8
    let offset := offset + 8
    let receiveError ← byteAt bytes offset
    let offset := offset + 1
    let manufacturerSpecific ← sliceFrom bytes offset
    .ok {
      psdu := psdu
      rssi := rssi.toInt8
      noiseFloor := noiseFloor.toInt8
      flags := u32FromLeArray flags
      channel := channel
      lqi := lqi
      timestampUs := u64FromLeArray timestampUs
      receiveError := receiveError
      manufacturerSpecific := manufacturerSpecific }

end ZigpySpinel.Spinel
