import ZigpySpinel.Hex
import ZigpySpinel.Ieee802154.Frame
import ZigpySpinel.Lib.Search
import ZigpySpinel.Zigbee.NwkCrypto

/-!
# Decrypting a capture file (`tools/dump_pcap.rs`)

The tool reads network keys from a file of Wireshark, and counts the frames of a capture and
those of them that one of its keys decrypts. What the capture reader returns is a parameter, and
what is printed apart from the counters is left out. The counters are of type `i32`; as in a build
that checks for overflow, counting further than they reach is a panic.
-/

namespace ZigpySpinel.Tools
open Lib Zigbee Ieee802154

/-! ## The keys file -/

/-- A carriage return in front of a line feed belongs to the end of the line. -/
def stripCarriageReturn (line : List Char) : List Char :=
  if line.getLast? = some '\r' then line.dropLast else line

/-- `text.lines()`: what is behind the last line feed is a line if it is not empty, and keeps a
    carriage return. -/
def lines (text : List Char) : List (List Char) :=
  let pieces := text.splitOn '\n'
  pieces.dropLast.map stripCarriageReturn ++ pieces.getLast?.toList.filter (· ≠ [])

/-- The key of a line (`dump_pcap.rs:24-31`). -/
def keyOfLine (line : List Char) : Outcome Empty Key :=
  match (line.splitOn ',')[0]? with
  | none => .panic "Line must have commas"
  | some field =>
    match (field.splitOn '"')[1]? with
    | none => .panic "Failed to parse key"
    | some keyText => Key.fromHex keyText

/-- The keys of a file (`dump_pcap.rs:13-33`). -/
def loadKeys (text : List Char) : Outcome Empty (List Key) :=
  ((lines text).filter fun line => line.head? == some '"').mapM keyOfLine

/-! ## The capture -/

/-- A block of a capture file, with the data of its packet. -/
inductive PcapBlock where
  | legacy (data : List UInt8)
  | enhancedPacket (data : List UInt8)
  | simplePacket (data : List UInt8)
  | other
  deriving DecidableEq, Repr

/-- What `reader.next()` returns, and whether the buffer can be refilled where this is asked
    for. Behind the last result it returns `Eof`. -/
inductive ReaderResult where
  | block (block : PcapBlock)
  | incomplete (refilled : Bool)
  | error
  deriving DecidableEq, Repr

/-- `frame_data` of a block (`dump_pcap.rs:58-70`). -/
def PcapBlock.frameData : PcapBlock → Option (List UInt8)
  | .legacy data => some data
  | .enhancedPacket data => some data
  | .simplePacket data => some data
  | .other => none

/-- `+= 1` on a counter, from zero on. -/
def increment (counter : Nat) : Outcome Empty Nat :=
  if counter + 1 < 2 ^ 31 then .ok (counter + 1) else .panic "attempt to add with overflow"

/-- The variables of `main`. -/
structure DumpState where
  keys : List Key
  totalFrames : Nat
  nwkFrames : Nat
  decryptedFramesSuccess : Nat
  decryptedFramesFailure : Nat
  fcsPresent : Option Bool
  deriving DecidableEq, Repr

/-- Before the first block (`dump_pcap.rs:41-45`). -/
def DumpState.start (keys : List Key) : DumpState where
  keys := keys
  totalFrames := 0
  nwkFrames := 0
  decryptedFramesSuccess := 0
  decryptedFramesFailure := 0
  fcsPresent := none

/-- Whether frames end with a check sequence, as the first one tells (`dump_pcap.rs:75-86`). -/
def determineFcs (fcsPresent : Option Bool) (frameData : List UInt8) : Outcome Empty Bool :=
  match fcsPresent with
  | some present => .ok present
  | none =>
    match Ieee802154Frame.fromBytes frameData with
    | .ok _ => .ok true
    | .panic m => .panic m
    | .err _ => do
      let _ ← (Ieee802154Frame.fromBytesWithoutFcs frameData).expect
        "Failed to determine FCS presence from first frame"
      .ok false

/-- The frame in the data (`dump_pcap.rs:88-92`). -/
def readFrame (fcsPresent : Bool) (frameData : List UInt8) : Outcome String Ieee802154Frame :=
  if fcsPresent then Ieee802154Frame.fromBytes frameData
  else Ieee802154Frame.fromBytesWithoutFcs frameData

variable (aes : Aes128)

/-- The network frame in clear, if one of the keys decrypts it, and the keys
    (`dump_pcap.rs:118-134`). -/
def decryptAny (keys : List Key) (nwkFrame : NwkFrame) :
    Outcome Empty (Option NwkFrame × List Key) :=
  if !nwkFrame.encrypted then .ok (some nwkFrame, keys)
  else searchSwap (nwkFrame.decrypt aes) keys

/-- A network frame is counted (`dump_pcap.rs:116-146`). -/
def DumpState.countNwkFrame (s : DumpState) (nwkFrame : NwkFrame) : Outcome Empty DumpState := do
  let nwkFrames ← increment s.nwkFrames
  let (decrypted, keys) ← decryptAny aes s.keys nwkFrame
  let s := { s with nwkFrames := nwkFrames, keys := keys }
  if decrypted.isNone then do
    let failure ← increment s.decryptedFramesFailure
    .ok { s with decryptedFramesFailure := failure }
  else do
    let success ← increment s.decryptedFramesSuccess
    .ok { s with decryptedFramesSuccess := success }

/-- The network frame in a frame is counted (`dump_pcap.rs:96-146`). -/
def DumpState.countPayload (s : DumpState) (frame : Ieee802154Frame) : Outcome Empty DumpState :=
  -- frames that are encrypted on this level cannot be Zigbee ones
  if frame.frameControl.securityEnabled then .ok s
  else if frame.frameControl.frameType ≠ .data then .ok s
  else
    match NwkFrame.fromBytes frame.payload with
    | .ok nwkFrame => s.countNwkFrame aes nwkFrame
    | .err _ => .ok s
    | .panic m => .panic m

/-- A frame is counted (`dump_pcap.rs:94-146`). -/
def DumpState.countFrame (s : DumpState) (frame : Ieee802154Frame) : Outcome Empty DumpState := do
  let totalFrames ← increment s.totalFrames
  { s with totalFrames := totalFrames }.countPayload aes frame

/-- The body of the loop behind the data of a frame (`dump_pcap.rs:74-146`). -/
def DumpState.processFrame (s : DumpState) (frameData : List UInt8) : Outcome Empty DumpState := do
  let fcsPresent ← determineFcs s.fcsPresent frameData
  let s := { s with fcsPresent := some fcsPresent }
  let frame ← (readFrame fcsPresent frameData).expect "Failed to parse frame"
  s.countFrame aes frame

/-- A pass of the loop (`dump_pcap.rs:47-147`). -/
def DumpState.next (s : DumpState) : ReaderResult → Outcome Empty DumpState
  | .incomplete true => .ok s
  | .incomplete false => .panic "called `Result::unwrap()` on an `Err` value"
  | .error => .panic "error while reading"
  | .block block =>
    match block.frameData with
    | some frameData => s.processFrame aes frameData
    | none => .ok s

/-- The loop up to the end of the file. -/
def dump (keys : List Key) (results : List ReaderResult) : Outcome Empty DumpState :=
  results.foldlM (DumpState.next aes) (DumpState.start keys)

end ZigpySpinel.Tools
